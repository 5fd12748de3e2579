import DatafusionRay.Streaming.RemoteSource

/-! The rows of a stream between its markers. On its way a batch may be cut into
several and an empty one is dropped, so what arrives is compared with what was sent
section by section. -/

namespace DatafusionRay.Proofs.StreamSections
open Streaming

variable {ρ : Type}

/-- The rows before the first marker, and those behind each marker. -/
def sections : List (StreamItem ρ) → List ρ × List (Marker × List ρ)
  | [] => ([], [])
  | .marker cut :: rest => ([], (cut, (sections rest).1) :: (sections rest).2)
  | .recordBatch batch :: rest => (batch.rows ++ (sections rest).1, (sections rest).2)

theorem rows_filterItem (details : ChannelPartitioningDetails ρ) (item : StreamItem ρ) :
    (filterItem (some details) item).rows =
      item.rows.filter fun row => details.partitions.containsHash (details.partitioningSpec row) := by
  cases item <;> rfl

/-- No error arrives, and in each section the rows that were sent. -/
def Carries (arrived : List (SResult ρ)) (sent : List (StreamItem ρ)) : Prop :=
  ∃ items : List (StreamItem ρ), arrived = items.map (fun item => .ok (.ofStreamItem item)) ∧ sections items = sections sent

theorem Carries.unchanged (sent : List (StreamItem ρ)) : Carries (sent.map fun item => .ok (.ofStreamItem item)) sent :=
  ⟨sent, rfl, rfl⟩

theorem flatMap_rows (items : List (StreamItem ρ)) :
    items.flatMap StreamItem.rows = (sections items).1 ++ (sections items).2.flatMap Prod.snd := by
  induction items with
  | nil => rfl
  | cons item rest ih =>
    cases item with
    | marker cut => simpa [sections, StreamItem.rows] using ih
    | recordBatch batch => simp [sections, StreamItem.rows, ih]

theorem filterMap_marker? (items : List (StreamItem ρ)) :
    (items.map SItem.ofStreamItem).filterMap SItem.marker? =
      (sections items).2.map fun section_ => section_.1.checkpointNumber := by
  induction items with
  | nil => rfl
  | cons item rest ih =>
    cases item with
    | marker cut => exact congrArg (cut.checkpointNumber :: ·) ih
    | recordBatch batch => exact ih

/-- The rows of the batches of a stream, with its errors left out. -/
def arrivedRows (arrived : List (SResult ρ)) : List ρ :=
  arrived.flatMap fun
    | .ok (.recordBatch batch) => batch.rows
    | _ => []

theorem arrivedRows_items (items : List (StreamItem ρ)) :
    arrivedRows (items.map fun item => .ok (.ofStreamItem item)) = items.flatMap StreamItem.rows := by
  rw [arrivedRows, List.flatMap_map]
  congr 1
  funext item
  cases item <;> rfl

theorem Carries.rows {arrived : List (SResult ρ)} {sent : List (StreamItem ρ)} (carries : Carries arrived sent) :
    arrivedRows arrived = sent.flatMap StreamItem.rows := by
  obtain ⟨items, rfl, same⟩ := carries
  rw [arrivedRows_items, flatMap_rows, same, ← flatMap_rows]

end DatafusionRay.Proofs.StreamSections
