import DatafusionRay.Streaming.Partitioning

/-! The row filter of a partitioned exchange as it works: hashes are computed into a
buffer, the positions of the wanted ones are collected as `u32` indices, and the rows
are taken by index. -/

namespace DatafusionRay.Streaming.PartitionFilter

variable {ρ κ : Type}

/-- What partitioning expressions evaluate to on a batch: one key for every row. -/
abbrev Expressions (ρ κ : Type) :=
  (batch : RecordBatch ρ) → Except DataFusionError { keys : List κ // keys.length = batch.numRows }

/-- The loop over the hash buffer. The positions are cut down to 32 bits. -/
def collectIndices (range : PartitionRange) (hashBuffer : List UInt64) : List UInt32 :=
  hashBuffer.zipIdx.filterMap fun (hash, index) =>
    if range.containsHash hash then some (UInt32.ofNat index) else none

def takeRow (batch : RecordBatch ρ) (index : UInt32) : Except Failure ρ :=
  match batch.rows[index.toNat]? with
  | some row => .ok row
  | none => .error (.panicked "Out-of-bounds index")

/-- `createHashes` is the hash of the key values of one row. -/
def filterByPartitionRange (expressions : Expressions ρ κ) (createHashes : κ → UInt64) (range : PartitionRange)
    (batch : RecordBatch ρ) : Except Failure (RecordBatch ρ) := do
  let arrays ← (expressions batch).mapError Failure.error
  let hashBuffer := arrays.1.map createHashes
  if range.partitions = 0 ∧ hashBuffer ≠ [] then
    throw (.panicked "attempt to calculate the remainder with a divisor of zero")
  let rows ← (collectIndices range hashBuffer).mapM (takeRow batch)
  return ⟨rows⟩

end DatafusionRay.Streaming.PartitionFilter
