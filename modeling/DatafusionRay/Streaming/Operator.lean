import DatafusionRay.Streaming.CountByKey
import DatafusionRay.Streaming.CountStar
import DatafusionRay.Streaming.ExchangeStore
import DatafusionRay.Streaming.Source

/-! Operator trees and the tasks made of them: which streams a task exchanges with
others, which state ids it says it uses, and the state its operators open. -/

namespace DatafusionRay.Streaming

structure OperatorInput where
  streamId : String
  ordinal : Nat
  deriving DecidableEq, Repr

structure OperatorOutput where
  streamId : String
  ordinal : Nat
  deriving DecidableEq, Repr

structure NestedOperator (δ : Type) where
  inputs : List (Nat × String)
  operators : List δ
  outputs : List (Nat × String)

/-- `δ` are the operator definitions. A definition that is sent to a worker has sources
and exchanges with their expressions, one that runs has what is made of them. -/
inductive OperatorSpec (Source Exchange δ : Type) where
  | identity
  | source (operator : Source)
  | countStar
  | countByKey (keyCol : String)
  | nested (operator : NestedOperator δ)
  | remoteExchangeOutput (operator : Exchange)
  | remoteExchangeInput (streamIds : List String)

inductive OperatorDefinition (Source Exchange : Type) where
  | mk (id stateId : String) (spec : OperatorSpec Source Exchange (OperatorDefinition Source Exchange))
      (inputs : List OperatorInput) (outputs : List OperatorOutput)

namespace OperatorDefinition
variable {Source Exchange : Type}

def inputs : OperatorDefinition Source Exchange → List OperatorInput
  | .mk _ _ _ inputs _ => inputs

def outputs : OperatorDefinition Source Exchange → List OperatorOutput
  | .mk _ _ _ _ outputs => outputs

mutual

/-- The operators below a definition that are not nested ones, each with its own
state id. The functions that collect ids from a tree share this recursion. -/
def leaves : OperatorDefinition Source Exchange →
    List (String × OperatorSpec Source Exchange (OperatorDefinition Source Exchange))
  | .mk _ stateId spec _ _ => specLeaves stateId spec

def specLeaves (stateId : String) : OperatorSpec Source Exchange (OperatorDefinition Source Exchange) →
    List (String × OperatorSpec Source Exchange (OperatorDefinition Source Exchange))
  | .nested operator => nestedLeaves operator
  | .identity => [(stateId, .identity)]
  | .source operator => [(stateId, .source operator)]
  | .countStar => [(stateId, .countStar)]
  | .countByKey keyCol => [(stateId, .countByKey keyCol)]
  | .remoteExchangeOutput operator => [(stateId, .remoteExchangeOutput operator)]
  | .remoteExchangeInput streamIds => [(stateId, .remoteExchangeInput streamIds)]

def nestedLeaves : NestedOperator (OperatorDefinition Source Exchange) →
    List (String × OperatorSpec Source Exchange (OperatorDefinition Source Exchange))
  | ⟨_, operators, _⟩ => leavesOf operators

def leavesOf : List (OperatorDefinition Source Exchange) →
    List (String × OperatorSpec Source Exchange (OperatorDefinition Source Exchange))
  | [] => []
  | operator :: rest => operator.leaves ++ leavesOf rest

end

def outputsOf (leaves : List (String × OperatorSpec Source Exchange (OperatorDefinition Source Exchange))) :
    List Exchange :=
  leaves.flatMap fun leaf =>
    match leaf.2 with
    | .remoteExchangeOutput output => [output]
    | _ => []

theorem outputsOf_append (first second : List (String × OperatorSpec Source Exchange (OperatorDefinition Source Exchange))) :
    outputsOf (first ++ second) = outputsOf first ++ outputsOf second := List.flatMap_append

def outputOperators (operator : OperatorDefinition Source Exchange) : List Exchange := outputsOf operator.leaves

/-- The state that `init` opens in the operators, under the partitions of the first generation. -/
def stateBackends (operator : OperatorDefinition Source Exchange) (generation : GenerationSpec) : List StateBackend :=
  operator.leaves.flatMap fun leaf =>
    match leaf.2 with
    | .countStar => (CountStarFunction.init leaf.1 (some [generation]) []).toOption.toList.map CountStarFunction.state
    | .countByKey _ => [(CountByKeyFunction.init leaf.1 generation.partitions []).state]
    | _ => []

end OperatorDefinition

/-- The definitions that are sent to a worker. -/
abbrev SentOperator (Schema Expr Source : Type) := OperatorDefinition Source (RemoteExchangeOperator Schema Expr)

abbrev SentSpec (Schema Expr Source : Type) :=
  OperatorSpec Source (RemoteExchangeOperator Schema Expr) (SentOperator Schema Expr Source)

/-- The definitions as they run. -/
abbrev RunningOperator (ρ : Type) := OperatorDefinition (SourceOperator ρ) (RemoteExchangeOperatorFunction ρ)

abbrev RunningSpec (ρ : Type) := OperatorSpec (SourceOperator ρ) (RemoteExchangeOperatorFunction ρ) (RunningOperator ρ)

section CreateFunctions
variable {Schema Expr Source ρ : Type} (source : Source → SourceOperator ρ) (hash : List Expr → RowHash ρ)

mutual

/-- The definition with what runs of it. -/
def OperatorDefinition.createOperatorFunction : SentOperator Schema Expr Source → RunningOperator ρ
  | .mk id stateId spec inputs outputs => .mk id stateId spec.createOperatorFunction inputs outputs

def OperatorSpec.createOperatorFunction : SentSpec Schema Expr Source → RunningSpec ρ
  | .identity => .identity
  | .source operator => .source (source operator)
  | .countStar => .countStar
  | .countByKey keyCol => .countByKey keyCol
  | .nested operator => .nested operator.createOperatorFunction
  | .remoteExchangeOutput operator => .remoteExchangeOutput (operator.createOperatorFunction hash)
  | .remoteExchangeInput streamIds => .remoteExchangeInput streamIds

def NestedOperator.createOperatorFunction : NestedOperator (SentOperator Schema Expr Source) → NestedOperator (RunningOperator ρ)
  | ⟨inputs, operators, outputs⟩ => ⟨inputs, createOperatorFunctions operators, outputs⟩

def createOperatorFunctions : List (SentOperator Schema Expr Source) → List (RunningOperator ρ)
  | [] => []
  | operator :: rest => operator.createOperatorFunction :: createOperatorFunctions rest

end

mutual

/-- What is made of a tree has the operators of the tree under their own state ids. -/
theorem leaves_createOperatorFunction : (operator : SentOperator Schema Expr Source) →
    (operator.createOperatorFunction source hash).leaves =
      operator.leaves.map fun leaf => (leaf.1, leaf.2.createOperatorFunction source hash)
  | .mk _ stateId spec _ _ => by
    rw [OperatorDefinition.createOperatorFunction, OperatorDefinition.leaves, OperatorDefinition.leaves]
    exact specLeaves_createOperatorFunction stateId spec

private theorem specLeaves_createOperatorFunction (stateId : String) : (spec : SentSpec Schema Expr Source) →
    OperatorDefinition.specLeaves stateId (spec.createOperatorFunction source hash) =
      (OperatorDefinition.specLeaves stateId spec).map fun leaf => (leaf.1, leaf.2.createOperatorFunction source hash)
  | .nested ⟨_, operators, _⟩ => by
    rw [OperatorSpec.createOperatorFunction, NestedOperator.createOperatorFunction]
    exact leavesOf_createOperatorFunctions operators
  | .identity | .source _ | .countStar | .countByKey _ | .remoteExchangeOutput _ | .remoteExchangeInput _ => by
    simp only [OperatorSpec.createOperatorFunction, OperatorDefinition.specLeaves, List.map_cons, List.map_nil]

private theorem leavesOf_createOperatorFunctions : (operators : List (SentOperator Schema Expr Source)) →
    OperatorDefinition.leavesOf (createOperatorFunctions source hash operators) =
      (OperatorDefinition.leavesOf operators).map fun leaf => (leaf.1, leaf.2.createOperatorFunction source hash)
  | [] => rfl
  | operator :: rest => by
    rw [createOperatorFunctions, OperatorDefinition.leavesOf, OperatorDefinition.leavesOf, List.map_append,
      leaves_createOperatorFunction operator, leavesOf_createOperatorFunctions rest]

end

/-- A task publishes the exchanges of the definition it is made of. -/
theorem outputOperators_createOperatorFunction (operator : SentOperator Schema Expr Source) :
    (operator.createOperatorFunction source hash).outputOperators =
      operator.outputOperators.map (RemoteExchangeOperator.createOperatorFunction hash) := by
  rw [OperatorDefinition.outputOperators, OperatorDefinition.outputOperators, leaves_createOperatorFunction,
    OperatorDefinition.outputsOf, OperatorDefinition.outputsOf, List.flatMap_map, List.map_flatMap]
  congr 1
  funext leaf
  obtain ⟨stateId, spec⟩ := leaf
  cases spec <;> rfl

end CreateFunctions

variable {ρ : Type}

structure TaskDefinition2 (ρ : Type) where
  taskId : String
  operator : RunningOperator ρ

namespace TaskDefinition2

def outputOperators (task : TaskDefinition2 ρ) : List (RemoteExchangeOperatorFunction ρ) :=
  task.operator.outputOperators

def exchangeOutputs (task : TaskDefinition2 ρ) : List String :=
  task.outputOperators.map RemoteExchangeOperatorFunction.outputStreamId

def exchangeInputs (task : TaskDefinition2 ρ) : List String :=
  task.operator.leaves.flatMap fun leaf =>
    match leaf.2 with
    | .remoteExchangeInput streamIds => streamIds
    | _ => []

def usedStateIds (task : TaskDefinition2 ρ) : List String :=
  task.operator.leaves.flatMap fun leaf =>
    match leaf.2 with
    | .countStar | .countByKey _ => [leaf.1]
    | _ => []

end TaskDefinition2

end DatafusionRay.Streaming
