import DatafusionRay.Proofs.FiberProgress
import DatafusionRay.Streaming.CountStar
import Mathlib

/-! What the row counter stores: at every marker one checkpoint with the marker's
number, and in it the rows counted so far. -/

namespace DatafusionRay.Proofs.CountSnapshots
open Streaming Fibers

variable {ρ : Type}

private theorem takeWhile_digits (number : Nat) (rest : List Char) :
    (Nat.toDigits 10 number ++ '_' :: rest).takeWhile (· ≠ '_') = Nat.toDigits 10 number := by
  rw [List.takeWhile_append_of_pos fun char member => ?_]
  · simp
  · rw [decide_eq_true_eq]
    rintro rfl
    exact Nat.underscore_not_in_toDigits member

/-- A checkpoint directory is found under its own number only. -/
theorem directory_startsWith_iff (taken number : Nat) (uuid : String) :
    (s!"{taken}__{uuid}").startsWith s!"{number}__" = true ↔ taken = number := by
  have name (number : Nat) (rest : String) : (toString number ++ "__" ++ rest).toList =
      Nat.toDigits 10 number ++ '_' :: '_' :: rest.toList := by
    simp
  change (toString taken ++ "__" ++ uuid).startsWith (toString number ++ "__") = true ↔ _
  rw [String.startsWith_string_iff, ← String.append_empty (s := toString number ++ "__"), name, name]
  constructor
  · rintro ⟨rest, split⟩
    have digits := congrArg (List.takeWhile (· ≠ '_')) split
    rw [List.append_assoc, List.cons_append, takeWhile_digits, takeWhile_digits] at digits
    have values := congrArg (Nat.ofDigitChars 10 · 0) digits
    simpa only [Nat.ofDigitChars_ten_toDigits] using values.symm
  · rintro rfl
    exact ⟨uuid.toList, by simp⟩

def rowCount (items : List (SItem ρ)) : Nat := (items.map SItem.numRows).sum

theorem rowCount_cons (item : SItem ρ) (rest : List (SItem ρ)) : rowCount (item :: rest) = item.numRows + rowCount rest := by
  simp [rowCount]

/-- The rows of a stream in front of the marker with a number. -/
def rowsBefore (number : Nat) (items : List (SItem ρ)) : Nat :=
  rowCount (items.takeWhile fun item => item.marker? ≠ some number)

theorem rowsBefore_cons (number : Nat) (item : SItem ρ) (rest : List (SItem ρ)) :
    rowsBefore number (item :: rest) = if item.marker? = some number then 0 else item.numRows + rowsBefore number rest := by
  rw [rowsBefore, List.takeWhile_cons]
  by_cases here : item.marker? = some number
  · simp [here, rowCount]
  · simp [here, rowCount_cons, rowsBefore]

/-- The markers among the items, each with the rows in front of it. -/
def cuts : Nat → List (SItem ρ) → List (Nat × Nat)
  | _, [] => []
  | rows, .marker marker :: rest => (marker.checkpointNumber, rows) :: cuts rows rest
  | rows, .recordBatch batch :: rest => cuts (rows + batch.numRows) rest
  | rows, .generation _ :: rest => cuts rows rest

theorem cuts_numbers (rows : Nat) (items : List (SItem ρ)) :
    (cuts rows items).map Prod.fst = items.filterMap SItem.marker? := by
  induction items generalizing rows with
  | nil => rfl
  | cons item rest ih => cases item <;> simp [cuts, SItem.marker?, ih, List.filterMap_cons]

theorem cuts_filter_eq_cons (rows : Nat) {items : List (SItem ρ)} {number : Nat}
    (present : number ∈ items.filterMap SItem.marker?) :
    ∃ later, (cuts rows items).filter (fun cut => cut.1 = number) =
      (number, rows + rowsBefore number items) :: later := by
  induction items generalizing rows with
  | nil => cases present
  | cons item rest ih =>
    cases item with
    | marker marker =>
      by_cases same : marker.checkpointNumber = number
      · exact ⟨(cuts rows rest).filter fun cut => cut.1 = number, by simp [cuts, same, rowsBefore, SItem.marker?, rowCount]⟩
      · obtain ⟨later, found⟩ := ih rows (by simpa [SItem.marker?, Ne.symm same] using present)
        exact ⟨later, by simpa [cuts, same, rowsBefore, SItem.marker?, rowCount, SItem.numRows] using found⟩
    | recordBatch batch =>
      obtain ⟨later, found⟩ := ih (rows + batch.numRows) (by simpa [SItem.marker?] using present)
      refine ⟨later, ?_⟩
      rw [cuts, found]
      simp [rowsBefore, SItem.marker?, rowCount, SItem.numRows, Nat.add_assoc]
    | generation generation =>
      obtain ⟨later, found⟩ := ih rows (by simpa [SItem.marker?] using present)
      exact ⟨later, by simpa [cuts, rowsBefore, SItem.marker?, rowCount, SItem.numRows] using found⟩

theorem rowsBefore_append {number : Nat} {items : List (SItem ρ)} (present : number ∈ items.filterMap SItem.marker?)
    (later : List (SItem ρ)) : rowsBefore number (items ++ later) = rowsBefore number items := by
  induction items with
  | nil => cases present
  | cons item rest ih =>
    by_cases here : item.marker? = some number
    · simp [rowsBefore, here]
    · have further := ih (by
        rw [List.filterMap_cons] at present
        split at present
        next => exact present
        next found => exact (List.mem_cons.mp present).resolve_left fun same => here (same ▸ found))
      simpa [rowsBefore, here, rowCount] using further

def Recorded (cut : Nat × Nat) (directory : String × Db) : Prop :=
  (∃ uuid : String, directory.1 = s!"{cut.1}__{uuid}") ∧
    directory.2.lookup CountStarFunction.countKey = some (toBeBytes (.ofNat cut.2))

/-- Every marker leaves one checkpoint, and the count goes on from where it was. -/
theorem consume_recorded (uuid : Nat → String) {function : CountStarFunction} {rows : Nat} (results : List (SResult ρ))
    (counted : function.localCount = .ofNat rows) :
    (∃ taken, (function.consume uuid results).1.state.checkpoints = function.state.checkpoints ++ taken ∧
      List.Forall₂ Recorded (cuts rows (okItems results)) taken) ∧
      (function.consume uuid results).1.localCount = .ofNat (rows + rowCount (okItems results)) := by
  induction results generalizing function rows with
  | nil => exact ⟨⟨[], (List.append_nil _).symm, .nil⟩, counted⟩
  | cons result rest ih =>
    rcases result with error | batch | marker | generation
    · exact ih counted
    · rw [show okItems (.ok (.recordBatch batch) :: rest) = .recordBatch batch :: okItems rest from rfl, cuts,
        rowCount_cons, ← Nat.add_assoc]
      have more : UInt64.ofNat rows + .ofNat batch.numRows = .ofNat (rows + batch.numRows) := by simp
      exact @ih { function with localCount := function.localCount + .ofNat batch.numRows } _ (by rw [counted, more])
    · rw [show okItems (.ok (.marker marker) :: rest) = .marker marker :: okItems rest from rfl, cuts,
        rowCount_cons, show (SItem.marker marker : SItem ρ).numRows = 0 from rfl, Nat.zero_add]
      obtain ⟨⟨taken, checkpoints, recorded⟩, total⟩ :=
        @ih (function.onItem uuid (some (.marker marker : SItem ρ))).1 _ counted
      refine ⟨⟨_, checkpoints.trans (List.append_assoc ..), .cons ⟨⟨_, rfl⟩, ?_⟩ recorded⟩, total⟩
      simp [StateBackend.put, counted]
    · rw [show okItems (.ok (.generation generation) :: rest) = .generation generation :: okItems rest from rfl, cuts,
        rowCount_cons, show (SItem.generation generation : SItem ρ).numRows = 0 from rfl, Nat.zero_add]
      exact ih counted

theorem run_recorded (uuid : Nat → String) {function : CountStarFunction} {rows : Nat} (results : List (SResult ρ))
    (counted : function.localCount = .ofNat rows) :
    (∃ taken, (function.run uuid results).1.state.checkpoints = function.state.checkpoints ++ taken ∧
      List.Forall₂ Recorded (cuts rows (okItems results)) taken) ∧
      (function.run uuid results).1.localCount = .ofNat (rows + rowCount (okItems results)) := by
  rw [CountStarFunction.run_eq]
  exact consume_recorded uuid results counted

theorem run_emits_count (uuid : Nat → String) (function : CountStarFunction) (results : List (SResult ρ)) :
    (function.run uuid results).2.getLast? =
      some (.ok (.recordBatch ⟨[(function.run uuid results).1.localCount]⟩)) := by
  rw [CountStarFunction.run_eq, List.getLast?_concat]

end DatafusionRay.Proofs.CountSnapshots
