import DatafusionRay.Foundation.TryFilterMap
import DatafusionRay.Streaming.Generation
import DatafusionRay.Streaming.StateBackend

/-! The operator that counts all rows. It keeps the count in memory, writes it to
the state backend at every marker and emits it once its input has ended. -/

namespace DatafusionRay.Streaming
open Foundation

structure CountStarFunction where
  state : StateBackend
  localCount : UInt64
  currentPartitionRange : PartitionRange

namespace CountStarFunction
variable {ρ : Type}

def countKey : Bytes := "count".toUTF8.data.toList

/-- The checkpoints are those that its backend finds on the machine. -/
def init (stateId : String) (generations : Option (List GenerationSpec)) (checkpoints : List (String × Db)) :
    Except DataFusionError CountStarFunction :=
  match generations with
  | none => .error (.execution "No generation provided")
  | some [] => .error (.execution "No initial generation provided")
  | some (initialGeneration :: _) =>
    .ok ⟨.openNew s!"{stateId}-count-star" initialGeneration.partitions checkpoints, 0, initialGeneration.partitions⟩

def decodeCount : Option Bytes → Except Failure UInt64
  | none => .ok 0
  | some bytes =>
    match fromBeBytes? bytes with
    | some count => .ok count
    | none =>
      let shown := toString bytes
      .error (.error (.internal s!"State value for 'count' is not a valid u64: {shown}"))

def load (remote : RemoteStorage) (function : CountStarFunction) (checkpoint : Nat) :
    Except Failure CountStarFunction :=
  if 0 < checkpoint then do
    let state ← function.state.moveToCheckpoint remote checkpoint function.currentPartitionRange
    let localCount ← decodeCount (state.get countKey)
    return { function with state, localCount }
  else .ok function

/-- One item of the input, or its end, and what it makes the operator emit. The `u64`
count wraps around. `uuid` names the directories of the local checkpoints. -/
def onItem (uuid : Nat → String) (function : CountStarFunction) :
    Option (SItem ρ) → CountStarFunction × Except DataFusionError (Option (SItem UInt64))
  | some (.generation _) => (function, .error (.internal "CountStarOperator does not support generation items"))
  | some (.recordBatch batch) => ({ function with localCount := function.localCount + .ofNat batch.numRows }, .ok none)
  | some (.marker marker) =>
    let stored := function.state.put countKey (toBeBytes function.localCount)
    let state := stored.checkpoint (uuid stored.checkpoints.length) marker.checkpointNumber
      function.currentPartitionRange
    ({ function with state }, .ok (some (.marker marker)))
  | none => (function, .ok (some (.recordBatch ⟨[function.localCount]⟩)))

def run (uuid : Nat → String) (function : CountStarFunction) (results : List (SResult ρ)) :
    CountStarFunction × List (SResult UInt64) :=
  tryFilterMap (onItem uuid) function (results.map (Except.map some) ++ [.ok none])

/-- The items of the input without its end. -/
def consume (uuid : Nat → String) (function : CountStarFunction) (results : List (SResult ρ)) :
    CountStarFunction × List (SResult UInt64) :=
  tryFilterMap (fun function item => function.onItem uuid (some item)) function results

theorem run_eq (uuid : Nat → String) (function : CountStarFunction) (results : List (SResult ρ)) :
    function.run uuid results = ((function.consume uuid results).1, (function.consume uuid results).2 ++
      [.ok (.recordBatch ⟨[(function.consume uuid results).1.localCount]⟩)]) := by
  rw [run, TryFilterMap.append, TryFilterMap.map]
  rfl

end CountStarFunction

end DatafusionRay.Streaming
