import DatafusionRay.Batch.MaxRows
import DatafusionRay.Foundation.Interleaving
import DatafusionRay.Streaming.MergedStream

/-! The stream that combines several others. A poll goes round the streams from one that
is drawn at random, and puts the last stream in the place of one that has ended. -/

namespace DatafusionRay.Batch
open Foundation (swapRemove)
open Streaming (DataFusionError Failure Poll RecordBatch)

variable {ρ : Type}

/-- One of the combined streams with what it has still to give. The vector forgets where
a stream came from, so the key says it. -/
structure Entry (ρ : Type) where
  key : Nat
  remaining : List (BatchResult ρ)
  deriving DecidableEq, Repr

/-- Whether the sender has got something ready is not up to the stream. -/
def Entry.pollNext (isPending : Bool) (entry : Entry ρ) : Poll (Option (BatchResult ρ)) × Entry ρ :=
  if isPending then (.pending, entry)
  else
    match entry.remaining with
    | [] => (.ready none, entry)
    | item :: rest => (.ready (some item), { entry with remaining := rest })

structure CombinedRecordBatchStream (ρ : Type) where
  entries : List (Entry ρ)
  deriving DecidableEq, Repr

namespace CombinedRecordBatchStream

def new (streams : List (List (BatchResult ρ))) : CombinedRecordBatchStream ρ :=
  ⟨streams.mapIdx fun key remaining => ⟨key, remaining⟩⟩

def unwrapNone : Failure := .panicked "called `Option::unwrap()` on a `None` value"

def remainderByZero : Failure :=
  .panicked "attempt to calculate the remainder with a divisor of zero"

def advance (idx len : Nat) : Except Failure Nat := if len = 0 then .error remainderByZero else .ok ((idx + 1) % len)

/-- Where the loop goes on after it has removed the entry at `idx`, with `len` entries
left. An entry that was swapped in from behind the start has been asked already. -/
def afterRemoval (start idx len : Nat) : Except Failure Nat :=
  if idx = len then .ok 0
  else if idx < start ∧ start ≤ len then advance idx len
  else .ok idx

/-- What a poll comes to: its answer, the entries that are left, and the keys of the
entries it has asked, in order. -/
structure Polled (ρ : Type) where
  answer : Poll (Option (BatchResult ρ))
  entries : List (Entry ρ)
  asked : List Nat
  deriving DecidableEq, Repr

/-- The loop, with the number of its turns that remain. -/
def pollEntries (pending : List Nat) (start : Nat) :
    Nat → List (Entry ρ) → Nat → List Nat → Except Failure (Polled ρ)
  | 0, entries, _, asked => .ok ⟨if entries.isEmpty then .ready none else .pending, entries, asked⟩
  | turns + 1, entries, idx, asked =>
    match entries[idx]? with
    | none => .error unwrapNone
    | some entry =>
      match entry.pollNext (entry.key ∈ pending) with
      | (.ready (some val), polled) => .ok ⟨.ready (some val), entries.set idx polled, asked ++ [entry.key]⟩
      | (.ready none, _) => do
        let next ← afterRemoval start idx (swapRemove entries idx).length
        pollEntries pending start turns (swapRemove entries idx) next (asked ++ [entry.key])
      | (.pending, _) => do
        let next ← advance idx entries.length
        pollEntries pending start turns entries next (asked ++ [entry.key])

/-- What a poll depends on: the start that is drawn, and the keys of the streams that have
nothing ready. -/
structure Choice where
  start : Nat
  pending : List Nat
  deriving DecidableEq, Repr

/-- `thread_rng_n` draws a number below the given one, and zero for zero. -/
def pollNext (stream : CombinedRecordBatchStream ρ) (choice : Choice) : Option (Except Failure (Polled ρ)) :=
  if choice.start < max 1 stream.entries.length then
    some (pollEntries choice.pending choice.start stream.entries.length stream.entries choice.start [])
  else none

end CombinedRecordBatchStream

end DatafusionRay.Batch
