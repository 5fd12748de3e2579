import DatafusionRay.Streaming.Item

/-! The optimizer rule that marks where a physical plan is to be cut into stages. It goes
up the plan and puts a marker over every operator that moves rows between partitions or
needs them all, and one over the whole plan. -/

namespace DatafusionRay.Batch
open Streaming (DataFusionError)

variable {ν π : Type}

/-- The operators of DataFusion, as far as the rule tells them apart. -/
inductive Operator (ν : Type) where
  | repartition (details : ν)
  | sort (details : ν)
  | nestedLoopJoin (details : ν)
  | other (details : ν)
  deriving DecidableEq, Repr

def Operator.isBoundary : Operator ν → Bool
  | repartition _ | sort _ | nestedLoopJoin _ => true
  | other _ => false

/-- The stage is `DFRayStageExec`, which keeps the properties that it was made with. -/
inductive PhysicalPlan (ν π : Type) where
  | exec (operator : Operator ν) (children : List (PhysicalPlan ν π))
  | stage (input : PhysicalPlan ν π) (properties : π) (stageId : Nat)

/-- What DataFusion does with its operators. The properties of one follow from those of
its children, and so does whether `with_new_children` takes them. -/
structure Operators (ν π : Type) where
  properties : Operator ν → List π → π
  withNewChildren : Operator ν → List π → Except DataFusionError Unit

namespace PhysicalPlan

def isBoundary : PhysicalPlan ν π → Bool
  | exec operator _ => operator.isBoundary
  | stage _ _ _ => false

variable (operators : Operators ν π)

mutual

def properties : PhysicalPlan ν π → π
  | exec operator children => operators.properties operator (propertiesOfAll children)
  | stage _ properties _ => properties

def propertiesOfAll : List (PhysicalPlan ν π) → List π
  | [] => []
  | plan :: rest => properties plan :: propertiesOfAll rest

end

def newStage (input : PhysicalPlan ν π) (stageId : Nat) : PhysicalPlan ν π := stage input (input.properties operators) stageId

end PhysicalPlan

/-- What a closure makes of a value, and whether that is another one. -/
structure Transformed (α : Type) where
  data : α
  transformed : Bool
  deriving DecidableEq, Repr

/-- A closure that rewrites values and keeps a state of its own from call to call. -/
abbrev Rewrite (σ α : Type) := α → σ → Except DataFusionError (Transformed α × σ)

/-- The children of a node from left to right. -/
def transformAll {σ α : Type} (rewrite : Rewrite σ α) : Rewrite σ (List α)
  | [], state => return (⟨[], false⟩, state)
  | first :: rest, state => do
    let (first, state) ← rewrite first state
    let (rest, state) ← transformAll rewrite rest state
    return (⟨first.data :: rest.data, first.transformed || rest.transformed⟩, state)

/-- `transform_up` of DataFusion: the children of a plan, and then the plan with what has
become of them. It is only made anew if one of its children has changed. -/
structure TransformUp (operators : Operators ν π) where
  transformUp : {σ : Type} → Rewrite σ (PhysicalPlan ν π) → Rewrite σ (PhysicalPlan ν π)
  exec : ∀ {σ : Type} (up : Rewrite σ (PhysicalPlan ν π)) operator children state,
    transformUp up (.exec operator children) state = do
      let (below, state) ← transformAll (transformUp up) children state
      if below.transformed then operators.withNewChildren operator (PhysicalPlan.propertiesOfAll operators below.data)
      let (plan, state) ← up (.exec operator below.data) state
      return (⟨plan.data, below.transformed || plan.transformed⟩, state)
  stage : ∀ {σ : Type} (up : Rewrite σ (PhysicalPlan ν π)) input properties stageId state,
    transformUp up (.stage input properties stageId) state = do
      let (below, state) ← transformUp up input state
      let (plan, state) ← up (.stage below.data properties stageId) state
      return (⟨plan.data, below.transformed || plan.transformed⟩, state)

namespace RayStageOptimizerRule
open PhysicalPlan
variable (operators : Operators ν π)

/-- The closure that is handed to `transform_up`, with the counter of the stages. -/
def up : Rewrite Nat (PhysicalPlan ν π) := fun plan stageCounter =>
  if plan.isBoundary then .ok (⟨plan.newStage operators stageCounter, true⟩, stageCounter + 1)
  else .ok (⟨plan, false⟩, stageCounter)

def optimize (datafusion : TransformUp operators) (plan : PhysicalPlan ν π) :
    Except DataFusionError (PhysicalPlan ν π) := do
  let (marked, stageCounter) ← datafusion.transformUp (up operators) plan 0
  return marked.data.newStage operators stageCounter

end RayStageOptimizerRule

end DatafusionRay.Batch
