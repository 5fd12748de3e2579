import DatafusionRay.Batch.Codec

/-! The plan node that limits the rows of a batch. Its stream cuts larger batches
into slices and lets everything else through; one poll runs to the next yield. -/

namespace DatafusionRay.Batch
open Streaming (DataFusionError RecordBatch)

variable {ρ : Type}

abbrev BatchResult (ρ : Type) := Except DataFusionError (RecordBatch ρ)

def slice (batch : RecordBatch ρ) (offset length : Nat) : RecordBatch ρ := ⟨(batch.rows.drop offset).take length⟩

/-- The inner loop over one batch. The offset and the remainder move in step, so no
slice reaches beyond the batch, which the source would assert. -/
structure Slicing (ρ : Type) where
  batch : RecordBatch ρ
  offset : Nat
  rowsRemaining : Nat
  inStep : offset + rowsRemaining = batch.numRows

namespace Slicing

def start (batch : RecordBatch ρ) : Slicing ρ := ⟨batch, 0, batch.numRows, Nat.zero_add _⟩

/-- One turn of the inner loop, or the remainder behind it. -/
def next (maxRows : Nat) (slicing : Slicing ρ) : RecordBatch ρ × Option (Slicing ρ) :=
  if larger : maxRows < slicing.rowsRemaining then
    (slice slicing.batch slicing.offset maxRows,
      some ⟨slicing.batch, slicing.offset + maxRows, slicing.rowsRemaining - maxRows, by
        rw [Nat.add_assoc, Nat.add_sub_cancel' (Nat.le_of_lt larger), slicing.inStep]⟩)
  else (slice slicing.batch slicing.offset slicing.rowsRemaining, none)

end Slicing

structure MaxRowsStream (ρ : Type) where
  inStream : List (BatchResult ρ)
  maxRows : Nat
  slicing : Option (Slicing ρ)

def maxRowsStream (inStream : List (BatchResult ρ)) (maxRows : Nat) : MaxRowsStream ρ := ⟨inStream, maxRows, none⟩

namespace MaxRowsStream

def slices (maxRows : Nat) (inStream : List (BatchResult ρ)) (slicing : Slicing ρ) :
    Option (BatchResult ρ) × MaxRowsStream ρ :=
  let turn := slicing.next maxRows
  (some (.ok turn.1), ⟨inStream, maxRows, turn.2⟩)

def pollNext (stream : MaxRowsStream ρ) : Option (BatchResult ρ) × MaxRowsStream ρ :=
  match stream with
  | ⟨inStream, maxRows, some slicing⟩ => slices maxRows inStream slicing
  | ⟨[], _, none⟩ => (none, stream)
  | ⟨.error error :: rest, maxRows, none⟩ => (some (.error error), ⟨rest, maxRows, none⟩)
  | ⟨.ok batch :: rest, maxRows, none⟩ =>
    if maxRows < batch.numRows then slices maxRows rest (.start batch) else (some (.ok batch), ⟨rest, maxRows, none⟩)

end MaxRowsStream

/-- `MaxRowsExec::execute`, by what its input executes to. -/
def executeMaxRows (maxRows : UInt64) (input : Except DataFusionError (List (BatchResult ρ))) :
    Except DataFusionError (MaxRowsStream ρ) :=
  input.map fun inStream => maxRowsStream inStream maxRows.toNat

end DatafusionRay.Batch
