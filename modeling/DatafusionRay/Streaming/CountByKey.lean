import DatafusionRay.Foundation.TryFilterMap
import DatafusionRay.Streaming.StateBackend

/-! The operator that counts rows by a `u64` key. Its counts live in memory, are
written to the state backend at every marker and emitted once the input has ended. -/

namespace DatafusionRay.Streaming
open Foundation

abbrev Counts := AList fun _ : UInt64 => UInt64

/-- What the key column of a batch evaluates to. An array gives its values
without their validity bits. -/
inductive ColumnarValue where
  | array (values : List UInt64)
  | scalar (value : Option UInt64)
  | otherType
  deriving DecidableEq, Repr

structure CountByKeyFunction where
  state : StateBackend
  localCounts : Counts
  currentPartitionRange : PartitionRange

namespace CountByKeyFunction

/-- The checkpoints are those that its backend finds on the machine. -/
def init (stateId : String) (partitions : PartitionRange) (checkpoints : List (String × Db)) : CountByKeyFunction :=
  ⟨.openNew s!"{stateId}-count-star" partitions checkpoints, ∅, partitions⟩

def decodeEntry (key value : Bytes) : Except Failure (UInt64 × UInt64) := do
  let some key := fromBeBytes? key
    | let shown := toString key
      throw (.error (.internal s!"State key is not a valid u64: {shown}"))
  let some value := fromBeBytes? value
    | let shown := toString value
      throw (.error (.internal s!"State value is not a valid u64: {shown}"))
  return (key, value)

/-- The loop of `load` over the entries of the database. -/
def decodeCounts : List (Sigma fun _ : Bytes => Bytes) → Counts → Except Failure Counts
  | [], counts => .ok counts
  | ⟨key, value⟩ :: rest, counts => do
    let (key, value) ← decodeEntry key value
    decodeCounts rest (counts.insert key value)

def load (remote : RemoteStorage) (function : CountByKeyFunction) (checkpoint : Nat) :
    Except Failure CountByKeyFunction :=
  if 0 < checkpoint then do
    let state ← function.state.moveToCheckpoint remote checkpoint function.currentPartitionRange
    let localCounts ← decodeCounts state.openDb.entries ∅
    return { function with state, localCounts }
  else .ok function

def storeCounts (counts : Counts) (db : Db) : Db :=
  counts.entries.foldl (fun db entry => db.insert (toBeBytes entry.1) (toBeBytes entry.2)) db

def onMarker (function : CountByKeyFunction) (uuid : String) (marker : Marker) : CountByKeyFunction :=
  let state := { function.state with openDb := storeCounts function.localCounts function.state.openDb }
  { function with state := state.checkpoint uuid marker.checkpointNumber function.currentPartitionRange }

def increment (counts : Counts) (key : UInt64) : Counts := counts.insert key ((counts.lookup key).getD 0 + 1)

variable {ρ : Type}

/-- `column` looks the key column up and evaluates it. The `u64` counts wrap around. -/
def updateLocalCounts (column : RecordBatch ρ → Except DataFusionError ColumnarValue) (counts : Counts)
    (batch : RecordBatch ρ) : Except DataFusionError Counts := do
  match ← column batch with
  | .otherType => throw (.internal "Key column must be of type UInt64")
  | .array values => return values.foldl increment counts
  | .scalar (some value) => return increment counts value
  | .scalar none => throw (.internal "Unsupported columnar value Scalar(UInt64(NULL))")

/-- One slot of a `UInt64` array: its place in the value buffer, which holds some value
even for a null, and its validity bit. -/
structure KeySlot where
  value : UInt64
  valid : Bool
  deriving DecidableEq, Repr

/-- A key column of that type, of which only the value buffer is read. -/
def slotColumn (slot : ρ → KeySlot) (batch : RecordBatch ρ) : Except DataFusionError ColumnarValue :=
  .ok (.array (batch.rows.map fun row => (slot row).value))

/-- One item of the input, or its end, and what it makes the operator emit. -/
def onItem (column : RecordBatch ρ → Except DataFusionError ColumnarValue) (uuid : Nat → String)
    (function : CountByKeyFunction) :
    Option (SItem ρ) → CountByKeyFunction × Except DataFusionError (Option (SItem (UInt64 × UInt64)))
  | some (.generation _) => (function, .error (.internal "CountStarOperator does not support generation items"))
  | some (.recordBatch batch) =>
    match updateLocalCounts column function.localCounts batch with
    | .ok localCounts => ({ function with localCounts }, .ok none)
    | .error error => (function, .error error)
  | some (.marker marker) =>
    (function.onMarker (uuid function.state.checkpoints.length) marker, .ok (some (.marker marker)))
  | none =>
    let rows := function.localCounts.entries.map fun entry => (entry.1, entry.2)
    (function, .ok (some (.recordBatch ⟨rows⟩)))

def run (column : RecordBatch ρ → Except DataFusionError ColumnarValue) (uuid : Nat → String)
    (function : CountByKeyFunction) (results : List (SResult ρ)) :
    CountByKeyFunction × List (SResult (UInt64 × UInt64)) :=
  tryFilterMap (onItem column uuid) function (results.map (Except.map some) ++ [.ok none])

end CountByKeyFunction

end DatafusionRay.Streaming
