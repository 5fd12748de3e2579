import DatafusionRay.Foundation.TryFilterMap
import DatafusionRay.Streaming.PartitionFilter

/-! Filtering a batch by each range of a split. Every row goes to the one range that
holds its hash, as long as the positions of the rows fit the 32 bits of an index. -/

namespace DatafusionRay.Proofs.RowPartition
open Streaming PartitionFilter Foundation

variable {ρ κ : Type}

/-- Ranges of one partition count that are disjoint and cover it. -/
structure Covers (partitions : Nat) (ranges : List PartitionRange) : Prop where
  same : ∀ range ∈ ranges, range.partitions = partitions
  once : ∀ point < partitions, (ranges.countP fun range => range.start ≤ point && point < range.stop) = 1

/-- The positions of the rows that are taken for a range. -/
def positions (createHashes : κ → UInt64) (keys : List κ) (range : PartitionRange) : List Nat :=
  (collectIndices range (keys.map createHashes)).map UInt32.toNat

/-- The rows of the batch at some positions. -/
def rowsAt (batch : RecordBatch ρ) (chosen : List Nat) : RecordBatch ρ :=
  ⟨chosen.filterMap fun position => batch.rows[position]?⟩

/-- The batches for the ranges have every row of the batch once in all, each batch in the
order of the rows, and rows with equal keys together. -/
structure PartitionsRows (expressions : Expressions ρ κ) (createHashes : κ → UInt64) (ranges : List PartitionRange)
    (batch : RecordBatch ρ) (keys : List κ) : Prop where
  returned : ∀ range ∈ ranges, filterByPartitionRange expressions createHashes range batch =
    .ok (rowsAt batch (positions createHashes keys range))
  once : (ranges.flatMap (positions createHashes keys)).Perm (List.range batch.numRows)
  ordered : ∀ range ∈ ranges, (positions createHashes keys range).Pairwise (· < ·)
  together : ∀ first second, first < batch.numRows → second < batch.numRows → keys[first]? = keys[second]? →
    ∀ range ∈ ranges, first ∈ positions createHashes keys range ↔ second ∈ positions createHashes keys range

private theorem sum_map_ite {β : Type} (classes : List β) (belongs : β → Bool) (amount : Nat) :
    (classes.map fun part => if belongs part then amount else 0).sum = classes.countP belongs * amount := by
  induction classes with
  | nil => simp
  | cons part rest ih =>
    rw [List.map_cons, List.sum_cons, ih, List.countP_cons, Nat.add_mul, Nat.add_comm]
    cases belongs part <;> simp

/-- What goes to exactly one of several classes is only reordered by them. -/
theorem flatMap_filter_perm {α β : Type} [DecidableEq α] (classes : List β) (belongs : β → α → Bool)
    {items : List α} (once : ∀ item ∈ items, (classes.countP fun part => belongs part item) = 1) :
    (classes.flatMap fun part => items.filter (belongs part)).Perm items := by
  rw [List.perm_iff_count]
  intro item
  have each : ∀ part, (items.filter (belongs part)).count item = if belongs part item then items.count item else 0 := by
    intro part
    split
    next held => exact List.count_filter held
    next lost => exact List.count_eq_zero.mpr fun present => lost (List.mem_filter.mp present).2
  rw [List.count_flatMap, show (List.count item ∘ fun part => items.filter (belongs part)) =
    fun part => if belongs part item then items.count item else 0 from funext each, sum_map_ite]
  by_cases present : item ∈ items
  · rw [once item present, Nat.one_mul]
  · rw [List.count_eq_zero.mpr present, Nat.mul_zero]

/-- The loop over the hash buffer cuts each position it keeps down to 32 bits. -/
private theorem collectIndices_toNat (range : PartitionRange) (hashBuffer : List UInt64) :
    (collectIndices range hashBuffer).map UInt32.toNat =
      (hashBuffer.zipIdx.filter fun entry => range.containsHash entry.1).map fun entry => entry.2 % 2 ^ 32 := by
  rw [collectIndices]
  induction hashBuffer.zipIdx with
  | nil => rfl
  | cons entry rest ih =>
    cases contained : range.containsHash entry.1 with
    | false => simpa [contained] using ih
    | true => simpa [contained] using ih

section Positions
variable (createHashes : κ → UInt64) (keys : List κ)

/-- Whether the row at a position has its hash in a range. -/
private def belongs (range : PartitionRange) (position : Nat) : Bool :=
  keys[position]?.any fun key => range.containsHash (createHashes key)

/-- The rows of a range are taken, each from its position modulo `2 ^ 32`. -/
private theorem positions_eq (range : PartitionRange) :
    positions createHashes keys range =
      ((List.range keys.length).filter (belongs createHashes keys range)).map (· % 2 ^ 32) := by
  let hashes := keys.map createHashes
  have looked : ∀ entry ∈ hashes.zipIdx,
      range.containsHash entry.1 = belongs createHashes keys range entry.2 := by
    intro (hash, index) member
    have found : hashes[index]? = some hash := List.mem_zipIdx_iff_getElem?.mp member
    rw [List.getElem?_map, Option.map_eq_some_iff] at found
    obtain ⟨key, held, rfl⟩ := found
    simp [belongs, held]
  have numbered : hashes.zipIdx.map Prod.snd = List.range keys.length := by
    rw [List.zipIdx_map_snd, List.length_map, List.range_eq_range']
  calc positions createHashes keys range
    _ = (hashes.zipIdx.filter (belongs createHashes keys range ∘ Prod.snd)).map ((· % 2 ^ 32) ∘ Prod.snd) := by
      rw [positions, collectIndices_toNat, List.filter_congr looked]
      rfl
    _ = _ := by rw [← List.map_map, ← List.filter_map, numbered]

private theorem mem_positions {range : PartitionRange} {position : Nat}
    (taken : position ∈ positions createHashes keys range) : position < 2 ^ 32 ∧ position < keys.length := by
  rw [positions_eq, List.mem_map] at taken
  obtain ⟨original, kept, rfl⟩ := taken
  have inside := List.mem_range.mp (List.mem_filter.mp kept).1
  have shrunk := Nat.mod_le original (2 ^ 32)
  exact ⟨Nat.mod_lt _ (by decide), Nat.lt_of_le_of_lt shrunk inside⟩

/-- No position is cut as long as all of them fit. -/
private theorem positions_eq_filter (fits : keys.length ≤ 2 ^ 32) (range : PartitionRange) :
    positions createHashes keys range = (List.range keys.length).filter (belongs createHashes keys range) := by
  have uncut : ∀ position ∈ (List.range keys.length).filter (belongs createHashes keys range),
      position % 2 ^ 32 = position := by
    intro position kept
    have inside := List.mem_range.mp (List.mem_filter.mp kept).1
    exact Nat.mod_eq_of_lt (Nat.lt_of_lt_of_le inside fits)
  rw [positions_eq, List.map_congr_left uncut, List.map_id']

end Positions

section Filter
variable (expressions : Expressions ρ κ) (createHashes : κ → UInt64) {partitions : Nat} {ranges : List PartitionRange}
variable {batch : RecordBatch ρ} {keys : { keys : List κ // keys.length = batch.numRows }}

private theorem mapM_takeRow {indices : List UInt32} (inside : ∀ index ∈ indices, index.toNat < batch.numRows) :
    indices.mapM (takeRow batch) = .ok (rowsAt batch (indices.map UInt32.toNat)).rows := by
  induction indices with
  | nil => rfl
  | cons index rest ih =>
    have found := List.getElem?_eq_getElem (inside index List.mem_cons_self)
    have later := ih fun other member => inside other (List.mem_cons_of_mem _ member)
    rw [List.mapM_cons, later, takeRow, found]
    simp [rowsAt, found, bind, Except.bind, pure, Except.pure]

/-- The filter never takes a row past the end: a cut position is not above the one it
stands for. -/
private theorem filter_eq (evaluated : expressions batch = .ok keys) {range : PartitionRange}
    (positive : 1 ≤ range.partitions) :
    PartitionFilter.filterByPartitionRange expressions createHashes range batch =
      .ok (rowsAt batch (positions createHashes keys.1 range)) := by
  have inside : ∀ index ∈ collectIndices range (keys.1.map createHashes), index.toNat < batch.numRows := by
    intro index member
    rw [← keys.2]
    exact (mem_positions createHashes keys.1 (List.mem_map_of_mem member)).2
  have divisible : ¬ (range.partitions = 0 ∧ keys.1.map createHashes ≠ []) := fun both =>
    absurd both.1 (Nat.one_le_iff_ne_zero.mp positive)
  simp only [PartitionFilter.filterByPartitionRange, evaluated, Except.mapError, divisible, mapM_takeRow inside, bind,
    Except.bind, if_false, pure, Except.pure]
  rfl

/-- A row's hash lies in exactly one of the ranges. -/
private theorem belongs_once (split : Covers partitions ranges) (positive : 1 ≤ partitions) (keys : List κ)
    {position : Nat} (inside : position < keys.length) :
    (ranges.countP fun range => belongs createHashes keys range position) = 1 := by
  have hashed : (createHashes keys[position]).toNat % partitions < partitions := Nat.mod_lt _ positive
  rw [← split.once _ hashed]
  apply List.countP_congr
  intro range member
  simp [belongs, inside, PartitionRange.containsHash, split.same range member]

end Filter

/-- Filtering by disjoint ranges that cover the partitions is a partition of the rows
exactly when the batch has at most `2 ^ 32` of them. -/
theorem filter_partitions_rows_iff (expressions : Expressions ρ κ) (createHashes : κ → UInt64) (partitions : Nat)
    (ranges : List PartitionRange) (batch : RecordBatch ρ) (keys : { keys : List κ // keys.length = batch.numRows })
    (positive : 1 ≤ partitions) (split : Covers partitions ranges) (evaluated : expressions batch = .ok keys) :
    PartitionsRows expressions createHashes ranges batch keys.1 ↔ batch.numRows ≤ 2 ^ 32 := by
  constructor
  · intro rows
    apply Nat.le_of_not_lt
    intro large
    -- The row behind the last index that fits is in no output.
    have taken := rows.once.mem_iff.mpr (List.mem_range.mpr large)
    obtain ⟨range, -, member⟩ := List.mem_flatMap.mp taken
    have fits := (mem_positions createHashes keys.1 member).1
    exact Nat.lt_irrefl _ fits
  · intro fits
    rw [← keys.2] at fits
    have eachFilter := positions_eq_filter createHashes keys.1 fits
    refine ⟨?_, ?_, ?_, ?_⟩
    · intro range member
      apply filter_eq expressions createHashes evaluated
      rwa [split.same range member]
    · rw [funext eachFilter, keys.2]
      apply flatMap_filter_perm
      intro position member
      have inside := List.mem_range.mp member
      rw [← keys.2] at inside
      exact belongs_once createHashes split positive keys.1 inside
    · intro range _
      rw [eachFilter]
      exact List.pairwise_lt_range.filter _
    · intro first second firstInside secondInside equalKeys range _
      rw [← keys.2] at firstInside secondInside
      simp only [eachFilter, List.mem_filter, List.mem_range, firstInside, secondInside, true_and, belongs, equalKeys]

theorem three_rows_partitioned :
    PartitionsRows (fun batch => .ok ⟨batch.rows, rfl⟩) UInt64.ofNat [⟨0, 1, 2⟩, ⟨1, 2, 2⟩] ⟨[4, 7, 4]⟩ [4, 7, 4] :=
  (filter_partitions_rows_iff (fun batch => .ok ⟨batch.rows, rfl⟩) UInt64.ofNat 2 [⟨0, 1, 2⟩, ⟨1, 2, 2⟩] ⟨[4, 7, 4]⟩
    ⟨[4, 7, 4], rfl⟩ (by decide) ⟨by decide, by decide⟩ rfl).mpr (by decide)

section Truncated

/-- All rows hashed to the only partition: the row behind the last index comes out as the
first row. -/
private theorem positions_unit {keys : List Nat} (length : keys.length = 2 ^ 32 + 1) :
    positions (fun _ => 0) keys .unit = List.range (2 ^ 32) ++ [0] := by
  have all : ∀ position ∈ List.range keys.length, belongs (fun _ => 0) keys .unit position = true := by
    intro position member
    have inside := List.mem_range.mp member
    rw [belongs, List.getElem?_eq_getElem inside]
    rfl
  have uncut : ∀ position ∈ List.range (2 ^ 32), position % 2 ^ 32 = id position := by
    intro position member
    exact Nat.mod_eq_of_lt (List.mem_range.mp member)
  rw [positions_eq, List.filter_eq_self.mpr all, length, List.range_succ, List.map_append, List.map_congr_left uncut,
    List.map_id]
  rfl

private theorem rowsAt_range {count : Nat} {chosen : List Nat} (inside : ∀ position ∈ chosen, position < count) :
    rowsAt ⟨List.range count⟩ chosen = ⟨chosen⟩ := by
  have each : ∀ position ∈ chosen, (List.range count)[position]? = some position := fun position member =>
    List.getElem?_range (inside position member)
  rw [rowsAt, List.filterMap_congr each, List.filterMap_some]

/-- A batch of `2 ^ 32 + 1` rows loses its last row and has its first row twice. -/
theorem last_row_replaced_by_first :
    Covers 1 [.unit] ∧
      PartitionFilter.filterByPartitionRange (fun batch => .ok ⟨batch.rows, rfl⟩) (fun _ => 0) .unit
        ⟨List.range (2 ^ 32 + 1)⟩ = .ok ⟨List.range (2 ^ 32) ++ [0]⟩ := by
  refine ⟨⟨by decide, by decide⟩, ?_⟩
  have length : (List.range (2 ^ 32 + 1)).length = 2 ^ 32 + 1 := List.length_range
  rw [filter_eq (fun batch => .ok ⟨batch.rows, rfl⟩) (fun _ => 0) rfl (by decide), positions_unit length, rowsAt_range]
  intro position member
  rcases List.mem_append.mp member with kept | first
  · exact Nat.lt_succ_of_lt (List.mem_range.mp kept)
  · rw [List.mem_singleton.mp first]
    exact Nat.succ_pos _

end Truncated

section RowHash

/-- Choosing positions by their rows is choosing rows. -/
private theorem rowsAt_filter (rows : List ρ) (chosen : ρ → Bool) :
    rowsAt ⟨rows⟩ ((List.range rows.length).filter fun position => rows[position]?.any chosen) =
      ⟨rows.filter chosen⟩ := by
  rw [rowsAt, List.filterMap_filter]
  congr 1
  induction rows using List.reverseRecOn with
  | nil => rfl
  | append_singleton rows last ih =>
    rw [List.length_append, List.length_singleton, List.range_succ, List.filterMap_append, List.filter_append, ← ih]
    congr 1
    · apply List.filterMap_congr
      intro position member
      rw [List.getElem?_append_left (List.mem_range.mp member)]
    · cases kept : chosen last <;> simp [kept]

/-- Up to `2 ^ 32` rows the filter keeps the rows whose hash the range contains: the filter
of the exchange streams, for keys that are read off each row. -/
theorem filterByPartitionRange_eq_filter (key : ρ → κ) (createHashes : κ → UInt64) {range : PartitionRange}
    (positive : 1 ≤ range.partitions) {batch : RecordBatch ρ} (fits : batch.numRows ≤ 2 ^ 32) :
    PartitionFilter.filterByPartitionRange (fun batch => .ok ⟨batch.rows.map key, List.length_map key⟩) createHashes
      range batch = .ok (Streaming.filterByPartitionRange (fun row => createHashes (key row)) range batch) := by
  have length : (batch.rows.map key).length = batch.rows.length := List.length_map key
  have onRows : belongs createHashes (batch.rows.map key) range =
      fun position => batch.rows[position]?.any fun row => range.containsHash (createHashes (key row)) := by
    funext position
    rw [belongs, List.getElem?_map, Option.any_map]
  rw [filter_eq _ createHashes rfl positive, positions_eq_filter createHashes _ (length.trans_le fits), length, onRows,
    rowsAt_filter, Streaming.filterByPartitionRange]

end RowHash

end DatafusionRay.Proofs.RowPartition
