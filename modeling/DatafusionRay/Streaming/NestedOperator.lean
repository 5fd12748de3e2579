import DatafusionRay.Streaming.Operator

/-! A nested operator hands streams from one of its operators to the next through a
store that is keyed by stream id. The futures of the operators, and within one
operator those of its inputs, are polled in any order; each operation on the store
is one step under its lock. -/

namespace DatafusionRay.Streaming

variable {ν : Type}

/-- The sending half in a waiting entry is never used, so it is left out. -/
inductive StoreItem (ν : Type) where
  | waiting
  | stored (value : Option ν)
  deriving DecidableEq, Repr

abbrev Store (ν : Type) := AList fun _ : String => StoreItem ν

inductive Taken (ν : Type) where
  | received (value : ν)
  | waiting
  | failed (error : DataFusionError)
  deriving DecidableEq, Repr

namespace Store

def insert (store : Store ν) (key : String) (value : ν) : Except DataFusionError (Store ν) :=
  match store.lookup key with
  | some _ => .error (.internal "Spot in store already taken")
  | none => .ok (AList.insert key (.stored (some value)) store)

/-- `take` up to the point where it waits for the other half of its entry. -/
def take (store : Store ν) (key : String) : Store ν × Taken ν :=
  match store.lookup key with
  | some (.stored (some value)) => (AList.insert key (.stored none) store, .received value)
  | some (.stored none) => (store, .failed (.internal s!"Another operator already took this value {key}"))
  | some .waiting => (store, .failed (.internal s!"Another operator was already waiting for item {key}"))
  | none => (AList.insert key .waiting store, .waiting)

end Store

/-- An operator of the graph, with the inputs and outputs of its definition. How its
function turns the streams it is given into others is its own matter. -/
structure GraphOperator (ν : Type) where
  inputs : List OperatorInput
  outputs : List OperatorOutput
  run : List (Nat × ν) → Except Failure (List (Nat × ν))

/-- Takes that are polled side by side: not polled yet, waiting for their entry, or done. -/
structure Takes (ν : Type) where
  pending : List (Nat × String)
  waiting : List (Nat × String) := []
  received : List (Nat × ν) := []

inductive OperatorPhase (ν : Type) where
  | taking (takes : Takes ν)
  | inserting (outputs : List (Nat × ν))

/-- `run_all_operators` between two of its steps, with the values that went into the
store and came out of it so far. -/
structure NestedRun (ν : Type) where
  store : Store ν
  external : List (Nat × ν)
  operators : List (GraphOperator ν × OperatorPhase ν)
  outputs : Takes ν
  failure : Option Failure
  inserted : List (String × ν)
  taken : List (String × ν)

inductive NestedAction where
  | insertInput
  | take (operator position : Nat)
  | run (operator : Nat)
  | insert (operator : Nat)
  | takeOutput (position : Nat)
  deriving DecidableEq, Repr

/-- Collected into a hash map, the last of several entries for an ordinal stays. -/
def lookupOrdinal (streamIds : List (Nat × String)) (ordinal : Nat) : Option String := streamIds.reverse.lookup ordinal

def GraphOperator.inputIds (operator : GraphOperator ν) : List (Nat × String) :=
  operator.inputs.map fun input => (input.ordinal, input.streamId)

def GraphOperator.outputIds (operator : GraphOperator ν) : List (Nat × String) :=
  operator.outputs.map fun output => (output.ordinal, output.streamId)

def OperatorPhase.Finished : OperatorPhase ν → Prop
  | .inserting [] => True
  | _ => False

instance : ∀ phase : OperatorPhase ν, Decidable phase.Finished
  | .inserting [] => .isTrue trivial
  | .inserting (_ :: _) | .taking _ => .isFalse id

namespace NestedRun

def start (nested : NestedOperator (GraphOperator ν)) (external : List (Nat × ν)) : NestedRun ν where
  store := ∅
  external := external
  operators := nested.operators.map fun operator => (operator, .taking { pending := operator.inputIds })
  outputs := { pending := nested.outputs }
  failure := none
  inserted := []
  taken := []

/-- An insert, whose error ends the whole run. -/
def insert (state : NestedRun ν) (streamId : String) (value : ν) : NestedRun ν :=
  match state.store.insert streamId value with
  | .ok store => { state with store, inserted := state.inserted ++ [(streamId, value)] }
  | .error error => { state with failure := some (.error error) }

/-- The first poll of a take, whose error is unwrapped. -/
def poll (state : NestedRun ν) (takes : Takes ν) (position : Nat) : Option (NestedRun ν × Takes ν) :=
  takes.pending[position]?.map fun (ordinal, streamId) =>
    let pending := takes.pending.eraseIdx position
    match state.store.take streamId with
    | (store, .received value) =>
      ({ state with store, taken := state.taken ++ [(streamId, value)] },
        { takes with pending, received := takes.received ++ [(ordinal, value)] })
    | (store, .waiting) => ({ state with store }, { takes with pending, waiting := takes.waiting ++ [(ordinal, streamId)] })
    | (store, .failed error) => ({ state with store, failure := some (.panicked error.display) }, { takes with pending })

def setPhase (state : NestedRun ν) (position : Nat) (operator : GraphOperator ν) (phase : OperatorPhase ν) :
    NestedRun ν :=
  { state with operators := state.operators.set position (operator, phase) }

def insertInput (nested : NestedOperator (GraphOperator ν)) (state : NestedRun ν) : Option (NestedRun ν) :=
  match state.external with
  | [] => none
  | (ordinal, value) :: rest =>
    match lookupOrdinal nested.inputs ordinal with
    | some streamId => some ({ state with external := rest }.insert streamId value)
    | none =>
      let error : DataFusionError := .internal s!"No stream id found for ordinal {ordinal}"
      some { state with failure := some (.panicked error.display) }

/-- A step of the operator at the position: poll one of its takes, run it once all of
them have received, or insert the next of its outputs. -/
def operatorStep (state : NestedRun ν) (position : Nat) (operator : GraphOperator ν) :
    OperatorPhase ν → NestedAction → Option (NestedRun ν)
  | .taking takes, .take _ input =>
    (state.poll takes input).map fun (next, takes) => next.setPhase position operator (.taking takes)
  | .taking ⟨[], [], received⟩, .run _ =>
    match operator.run received with
    | .ok outputs => some (state.setPhase position operator (.inserting outputs))
    | .error failure => some { state with failure := some failure }
  | .inserting ((ordinal, value) :: rest), .insert _ =>
    match lookupOrdinal operator.outputIds ordinal with
    | some streamId => some ((state.setPhase position operator (.inserting rest)).insert streamId value)
    | none => some { state with failure := some (.error (.internal s!"No stream id found for ordinal {ordinal}")) }
  | _, _ => none

def step (nested : NestedOperator (GraphOperator ν)) (state : NestedRun ν) (action : NestedAction) : Option (NestedRun ν) :=
  if state.failure.isSome then none
  else
    match action with
    | .insertInput => state.insertInput nested
    | .take position _ | .run position | .insert position =>
      if state.external.isEmpty then
        state.operators[position]?.bind fun (operator, phase) => state.operatorStep position operator phase action
      else none
    | .takeOutput position =>
      if state.external.isEmpty ∧ ∀ entry ∈ state.operators, entry.2.Finished then
        (state.poll state.outputs position).map fun (next, outputs) => { next with outputs }
      else none

end NestedRun

end DatafusionRay.Streaming
