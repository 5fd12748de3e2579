import DatafusionRay.Foundation.Interval
import DatafusionRay.Streaming.CheckpointStorage

/-! The checkpoint search rescales ranges to one partition count as intervals,
while rows are routed by their hash modulo the count. The selected ranges always
tile the rescaled search range; the two readings agree for ranges that already
have the largest count or span all of their partitions. -/

namespace DatafusionRay.Proofs.CheckpointSelection
open Streaming Foundation

/-- Rescaling to `target` partitions does not change which hashes the range holds. -/
def AlignedTo (target : Nat) (range : PartitionRange) : Prop :=
  (range.partitions = target ∨ range.start = 0 ∧ range.stop = range.partitions) ∧ range.stop * target < 2 ^ 64

/-- The rescaled range has a partition in common with the rescaled search range. -/
def Meets (target : Nat) (searchRange range : PartitionRange) : Prop :=
  (range.normalise target).1 < (searchRange.normalise target).2 ∧
    (searchRange.normalise target).1 < (range.normalise target).2

/-- The search range and every range that meets it can be rescaled. -/
def Aligned (searchRange : PartitionRange) (available : List PartitionRange) : Prop :=
  let target := targetPartitions searchRange available
  AlignedTo target searchRange ∧ ∀ range ∈ available, Meets target searchRange range → AlignedTo target range

/-- A hash of the search range is held by exactly one selected entry, and by the
stored range behind it; any other hash is held by none. -/
def Routes (searchRange : PartitionRange) (available : List PartitionRange)
    (selection : List OverlappingPartition) (hash : UInt64) : Prop :=
  let holders := selection.filter fun overlap => overlap.selectedPartitionRange.containsHash hash
  if searchRange.containsHash hash then
    ∃ overlap, holders = [overlap] ∧ ∃ range, available[overlap.index]? = some range ∧ range.containsHash hash
  else holders = []

section Target
variable {searchRange range : PartitionRange} {available : List PartitionRange}

private theorem le_foldl_max {count : Nat} (ranges : List PartitionRange) :
    count ≤ ranges.foldl (fun largest range => max largest range.partitions) count ∧
      ∀ range ∈ ranges, range.partitions ≤ ranges.foldl (fun largest range => max largest range.partitions) count := by
  induction ranges generalizing count with
  | nil => exact ⟨Nat.le_refl _, nofun⟩
  | cons head rest ih =>
    obtain ⟨grows, bounded⟩ := @ih (max count head.partitions)
    simp only [List.foldl_cons, List.forall_mem_cons]
    exact ⟨by omega, by omega, bounded⟩

theorem search_le_target : searchRange.partitions ≤ targetPartitions searchRange available :=
  (le_foldl_max available).1

theorem available_le_target (member : range ∈ available) :
    range.partitions ≤ targetPartitions searchRange available :=
  (le_foldl_max available).2 range member

theorem target_eq_of_same (same : ∀ range ∈ available, range.partitions = searchRange.partitions) :
    targetPartitions searchRange available = searchRange.partitions := by
  unfold targetPartitions
  induction available with
  | nil => rfl
  | cons head rest ih =>
    rw [List.forall_mem_cons] at same
    rw [List.foldl_cons, same.1, Nat.max_self]
    exact ih same.2

end Target

section Normalise
variable {target : Nat} {range : PartitionRange}

theorem normalise_eq (valid : range.Valid) (bounded : range.stop * target < 2 ^ 64) :
    range.normalise target = (range.start * target / range.partitions, range.stop * target / range.partitions) := by
  have below : range.start * target ≤ range.stop * target := Nat.mul_le_mul_right _ (Nat.le_of_lt valid.nonempty)
  simp only [PartitionRange.normalise]
  rw [Nat.mod_eq_of_lt bounded, Nat.mod_eq_of_lt (Nat.lt_of_le_of_lt below bounded)]

theorem normalise_lt (valid : range.Valid) (larger : range.partitions ≤ target)
    (bounded : range.stop * target < 2 ^ 64) : (range.normalise target).1 < (range.normalise target).2 := by
  rw [normalise_eq valid bounded]
  have positive := valid.partitions_pos
  calc range.start * target / range.partitions
      < range.start * target / range.partitions + 1 := Nat.lt_succ_self _
    _ = (range.start * target + range.partitions) / range.partitions := (Nat.add_div_right _ positive).symm
    _ ≤ range.stop * target / range.partitions := by
      apply Nat.div_le_div_right
      calc range.start * target + range.partitions ≤ range.start * target + target := Nat.add_le_add_left larger _
        _ = (range.start + 1) * target := by rw [Nat.succ_mul]
        _ ≤ range.stop * target := Nat.mul_le_mul_right _ valid.nonempty

private theorem AlignedTo.containsHash_iff (aligned : AlignedTo target range) (valid : range.Valid) (hash : UInt64)
    (larger : range.partitions ≤ target) :
    range.containsHash hash = true ↔
      (range.normalise target).1 ≤ hash.toNat % target ∧ hash.toNat % target < (range.normalise target).2 := by
  have positive := valid.partitions_pos
  rw [PartitionRange.containsHash_iff]
  rcases aligned.1 with rfl | ⟨first, last⟩
  · rw [PartitionRange.normalise_self positive (Nat.le_of_lt valid.nonempty) aligned.2]
  · rw [normalise_eq valid aligned.2, first, last, Nat.zero_mul, Nat.zero_div, Nat.mul_div_cancel_left _ positive]
    simp [Nat.mod_lt _ positive, Nat.mod_lt _ (Nat.lt_of_lt_of_le positive larger)]

end Normalise

abbrev Tiles : Nat → List OverlappingPartition → Nat → Prop :=
  Chain (fun overlap => overlap.selectedPartitionRange.start) fun overlap => overlap.selectedPartitionRange.stop

/-- A selected entry is a piece, at the common count, of the rescaled range it was cut from. -/
def CutFrom (target : Nat) (partitions : List (Nat × Nat × Nat)) (overlap : OverlappingPartition) : Prop :=
  overlap.selectedPartitionRange.partitions = target ∧
    ∃ start stop, (overlap.index, start, stop) ∈ partitions ∧
      start ≤ overlap.selectedPartitionRange.start ∧ overlap.selectedPartitionRange.stop ≤ stop

/-- What the sweep selects from where it stands up to the end of the search. -/
structure Selects (target searchEnd current : Nat) (partitions : List (Nat × Nat × Nat))
    (pieces : List OverlappingPartition) : Prop where
  tiles : Tiles current pieces searchEnd
  nonempty : ∀ piece ∈ pieces, piece.selectedPartitionRange.start < piece.selectedPartitionRange.stop
  cut : ∀ piece ∈ pieces, CutFrom target partitions piece
  indices : (pieces.map OverlappingPartition.index).Sublist (partitions.map Prod.fst)

section Sweep
variable {target searchEnd current : Nat} {partitions : List (Nat × Nat × Nat)} {pieces : List OverlappingPartition}

private theorem CutFrom.later {piece : OverlappingPartition} (cut : CutFrom target partitions piece)
    (head : Nat × Nat × Nat) : CutFrom target (head :: partitions) piece := by
  obtain ⟨count, start, stop, member, inside⟩ := cut
  exact ⟨count, start, stop, List.mem_cons_of_mem _ member, inside⟩

private theorem Selects.finished : Selects target searchEnd searchEnd partitions [] where
  tiles := rfl
  nonempty := nofun
  cut := nofun
  indices := List.nil_sublist _

private theorem Selects.skip (later : Selects target searchEnd current partitions pieces) (head : Nat × Nat × Nat) :
    Selects target searchEnd current (head :: partitions) pieces where
  tiles := later.tiles
  nonempty := later.nonempty
  cut piece member := (later.cut piece member).later head
  indices := later.indices.cons _

private theorem Selects.extend {index start stop : Nat} (starts : start ≤ current) (further : current < min searchEnd stop)
    (later : Selects target searchEnd (min searchEnd stop) partitions pieces) :
    Selects target searchEnd current ((index, start, stop) :: partitions)
      (⟨index, ⟨current, min searchEnd stop, target⟩⟩ :: pieces) where
  tiles := ⟨rfl, Nat.le_of_lt further, later.tiles⟩
  nonempty := List.forall_mem_cons.mpr ⟨further, later.nonempty⟩
  cut := by
    have first : CutFrom target ((index, start, stop) :: partitions) ⟨index, ⟨current, min searchEnd stop, target⟩⟩ :=
      ⟨rfl, start, stop, List.mem_cons_self, starts, Nat.min_le_right _ _⟩
    exact List.forall_mem_cons.mpr ⟨first, fun piece member => (later.cut piece member).later _⟩
  indices := later.indices.cons_cons _

/-- A sweep that has not reached the end of the search never panics, whatever candidates
it visits in whatever order, and if it succeeds, what it adds leads up to the end. -/
theorem coverSearch_selects {found : List OverlappingPartition} (open_ : current < searchEnd) :
    ∃ answer, coverSearch target searchEnd current found partitions = .ok answer ∧
      ∀ result, answer = some result →
        ∃ pieces, result = found ++ pieces ∧ Selects target searchEnd current partitions pieces := by
  induction partitions generalizing current found with
  | nil =>
    refine ⟨none, ?_, nofun⟩
    rw [coverSearch, if_pos open_]
  | cons head rest ih =>
    obtain ⟨index, start, stop⟩ := head
    rw [coverSearch]
    split
    next reaches =>
      split
      next => exact ⟨none, rfl, nofun⟩
      next starts =>
        have further : current < min searchEnd stop := Nat.lt_min.mpr ⟨open_, reaches⟩
        have extend {pieces : List OverlappingPartition}
            (later : Selects target searchEnd (min searchEnd stop) rest pieces) :
            Selects target searchEnd current ((index, start, stop) :: rest)
              (⟨index, ⟨current, min searchEnd stop, target⟩⟩ :: pieces) :=
          later.extend (Nat.le_of_not_lt starts) further
        dsimp only
        split
        next complete =>
          refine ⟨_, rfl, ?_⟩
          rintro _ ⟨⟩
          have reached : min searchEnd stop = searchEnd := Nat.le_antisymm (Nat.min_le_left _ _) complete
          refine ⟨[_], rfl, extend ?_⟩
          rw [reached]
          exact .finished
        next incomplete =>
          obtain ⟨answer, searched, selects⟩ := ih (Nat.lt_of_not_le incomplete)
          refine ⟨answer, searched, ?_⟩
          intro result same
          obtain ⟨pieces, rfl, later⟩ := selects result same
          refine ⟨_ :: pieces, ?_, extend later⟩
          rw [List.append_assoc, List.singleton_append]
    next =>
      obtain ⟨answer, searched, selects⟩ := ih open_
      refine ⟨answer, searched, ?_⟩
      intro result same
      obtain ⟨pieces, added, later⟩ := selects result same
      exact ⟨pieces, added, later.skip _⟩

end Sweep

theorem selection_tiles {searchRange : PartitionRange} {available : List PartitionRange}
    {selection : List OverlappingPartition}
    (selected : getNonOverlappingPartitions searchRange available = .ok (some selection))
    (nonempty : (searchRange.normalise (targetPartitions searchRange available)).1 <
      (searchRange.normalise (targetPartitions searchRange available)).2) :
    let target := targetPartitions searchRange available
    Tiles (searchRange.normalise target).1 selection (searchRange.normalise target).2 ∧
      ∀ overlap ∈ selection, overlap.selectedPartitionRange.partitions = target ∧
        ∃ range, available[overlap.index]? = some range ∧ Meets target searchRange range ∧
          (range.normalise target).1 ≤ overlap.selectedPartitionRange.start ∧
          overlap.selectedPartitionRange.stop ≤ (range.normalise target).2 := by
  simp only [getNonOverlappingPartitions] at selected
  split at selected
  next => simp at selected
  next =>
    obtain ⟨answer, searched, selects⟩ := coverSearch_selects nonempty
    obtain ⟨pieces, rfl, swept⟩ := selects _ (Except.ok.inj (searched.symm.trans selected))
    refine ⟨swept.tiles, fun overlap member => ?_⟩
    obtain ⟨partitions, start, stop, inside, below, above⟩ := swept.cut overlap member
    rw [List.mem_insertionSort, List.mem_filter, List.mem_map] at inside
    obtain ⟨⟨⟨range, index⟩, found, same⟩, meets⟩ := inside
    simp only [Prod.mk.injEq] at same
    obtain ⟨rfl, rescaled⟩ := same
    simp only [Bool.and_eq_true, decide_eq_true_eq] at meets
    refine ⟨partitions, range, List.mk_mem_zipIdx_iff_getElem?.mp found, ?_, ?_, ?_⟩
    · rw [Meets, rescaled]
      exact meets
    · rw [rescaled]
      exact below
    · rw [rescaled]
      exact above

section Selection
variable {searchRange : PartitionRange} {available : List PartitionRange} {selection : List OverlappingPartition}

private theorem holders_eq {target : Nat}
    (rescaled : ∀ overlap ∈ selection, overlap.selectedPartitionRange.partitions = target) (hash : UInt64) :
    (selection.filter fun overlap => overlap.selectedPartitionRange.containsHash hash) =
      selection.filter fun overlap => overlap.selectedPartitionRange.start ≤ hash.toNat % target &&
        hash.toNat % target < overlap.selectedPartitionRange.stop := by
  refine List.filter_congr fun overlap member => ?_
  rw [PartitionRange.containsHash, rescaled overlap member]

private theorem aligned_routes (valid : searchRange.Valid) (ranges : ∀ range ∈ available, range.Valid)
    (selected : getNonOverlappingPartitions searchRange available = .ok (some selection))
    (aligned : Aligned searchRange available) (hash : UInt64) : Routes searchRange available selection hash := by
  obtain ⟨alignedSearch, alignedRanges⟩ := aligned
  obtain ⟨tiles, pieces⟩ := selection_tiles selected (normalise_lt valid search_le_target alignedSearch.2)
  have searched := alignedSearch.containsHash_iff valid hash search_le_target
  rw [Routes, holders_eq fun overlap member => (pieces overlap member).1]
  split
  next inside =>
    obtain ⟨above, below⟩ := searched.mp inside
    obtain ⟨overlap, member, starts, stops, only⟩ := tiles.filter_eq_singleton above below
    obtain ⟨_, range, found, meets, lower, upper⟩ := pieces overlap member
    have stored := List.mem_of_getElem? found
    refine ⟨overlap, only, range, found, ?_⟩
    exact ((alignedRanges range stored meets).containsHash_iff (ranges range stored) hash
      (available_le_target stored)).mpr ⟨Nat.le_trans lower starts, Nat.lt_of_lt_of_le stops upper⟩
  next outside =>
    rw [searched, not_and_or, Nat.not_le, Nat.not_lt] at outside
    exact tiles.filter_eq_nil outside

private theorem Routes.search_iff {hash : UInt64} {target first last : Nat}
    (routes : Routes searchRange available selection hash) (tiles : Tiles first selection last)
    (rescaled : ∀ overlap ∈ selection, overlap.selectedPartitionRange.partitions = target) :
    searchRange.containsHash hash = true ↔ first ≤ hash.toNat % target ∧ hash.toNat % target < last := by
  rw [Routes, holders_eq rescaled] at routes
  constructor
  · intro inside
    simp only [inside, if_true] at routes
    obtain ⟨overlap, only, _⟩ := routes
    by_contra outside
    rw [not_and_or, Nat.not_le, Nat.not_lt] at outside
    rw [tiles.filter_eq_nil outside] at only
    cases only
  · rintro ⟨above, below⟩
    by_contra outside
    simp only [outside, if_false] at routes
    obtain ⟨overlap, _, _, _, only⟩ := tiles.filter_eq_singleton above below
    rw [only] at routes
    cases routes

end Selection

private theorem readings_agree {start stop count target : Nat} (nonempty : start < stop) (within : stop ≤ count)
    (smaller : count < target) (bounded : stop * target < 2 ^ 64)
    (agree : ∀ number < 2 ^ 64, (start ≤ number % count ∧ number % count < stop) ↔
      start * target / count ≤ number % target ∧ number % target < stop * target / count) :
    start = 0 ∧ stop = count := by
  have positive : 0 < count := by omega
  have small : target ≤ stop * target := Nat.le_mul_of_pos_left _ (by omega)
  -- The readings are compared at the range's own start and stop and in the second round of `count`.
  have lower : start * target / count = start := by
    apply Nat.le_antisymm
    · have := ((agree start (by omega)).mp (by rw [Nat.mod_eq_of_lt (by omega)]; omega)).1
      rwa [Nat.mod_eq_of_lt (by omega)] at this
    · exact (Nat.le_div_iff_mul_le positive).mpr (Nat.mul_le_mul_left _ (Nat.le_of_lt smaller))
  rw [lower] at agree
  rcases Nat.eq_or_lt_of_le within with whole | part
  · refine ⟨?_, whole⟩
    rw [whole, Nat.mul_div_cancel_left _ positive] at agree
    have := ((agree count (by omega)).mpr (by rw [Nat.mod_eq_of_lt smaller]; omega)).1
    rw [Nat.mod_self] at this
    omega
  · have upper : stop * target / count ≤ stop := by
      by_contra above
      have := ((agree stop (by omega)).mpr (by rw [Nat.mod_eq_of_lt (by omega)]; omega)).2
      rw [Nat.mod_eq_of_lt part] at this
      omega
    have represented : count + start < 2 ^ 64 := by
      rcases Nat.eq_zero_or_pos start with zero | later
      · omega
      · have double : 2 * target ≤ stop * target := Nat.mul_le_mul_right _ (by omega)
        omega
    have wrapped := (agree (count + start) represented).mp
      (by rw [Nat.add_mod_left, Nat.mod_eq_of_lt (by omega)]; omega)
    by_cases fits : count + start < target
    · rw [Nat.mod_eq_of_lt fits] at wrapped
      omega
    · rw [Nat.mod_eq_sub_mod (by omega), Nat.mod_eq_of_lt (by omega)] at wrapped
      omega

/-- Aligned ranges are selected as rows are routed; and no selection routes every
hash unless at least the search range is aligned. -/
theorem selection_routes_rows (searchRange : PartitionRange) (available : List PartitionRange)
    (valid : searchRange.Valid) (ranges : ∀ range ∈ available, range.Valid)
    (selection : List OverlappingPartition)
    (selected : getNonOverlappingPartitions searchRange available = .ok (some selection)) :
    (Aligned searchRange available → ∀ hash, Routes searchRange available selection hash) ∧
      (searchRange.stop * targetPartitions searchRange available < 2 ^ 64 →
        (∀ hash, Routes searchRange available selection hash) →
        AlignedTo (targetPartitions searchRange available) searchRange) := by
  refine ⟨aligned_routes valid ranges selected, fun bounded routes => ⟨?_, bounded⟩⟩
  obtain ⟨tiles, pieces⟩ := selection_tiles selected (normalise_lt valid search_le_target bounded)
  have larger : searchRange.partitions ≤ targetPartitions searchRange available := search_le_target
  rcases Nat.eq_or_lt_of_le larger with same | smaller
  · exact .inl same
  · refine .inr (readings_agree valid.nonempty valid.within smaller bounded fun number represented => ?_)
    have agree := (routes (UInt64.ofNat number)).search_iff tiles fun overlap member => (pieces overlap member).1
    rw [PartitionRange.containsHash_iff, normalise_eq valid bounded, UInt64.toNat_ofNat_of_lt' represented] at agree
    exact agree

theorem selection_routes_rows_whole :
    getNonOverlappingPartitions ⟨1, 3, 4⟩ [⟨0, 2, 4⟩, ⟨0, 1, 1⟩] = .ok (some [⟨0, ⟨1, 2, 4⟩⟩, ⟨1, ⟨2, 3, 4⟩⟩]) ∧
      ∀ hash, Routes ⟨1, 3, 4⟩ [⟨0, 2, 4⟩, ⟨0, 1, 1⟩] [⟨0, ⟨1, 2, 4⟩⟩, ⟨1, ⟨2, 3, 4⟩⟩] hash := by
  have selected : getNonOverlappingPartitions ⟨1, 3, 4⟩ [⟨0, 2, 4⟩, ⟨0, 1, 1⟩] =
      .ok (some [⟨0, ⟨1, 2, 4⟩⟩, ⟨1, ⟨2, 3, 4⟩⟩]) := by decide
  refine ⟨selected, (selection_routes_rows _ _ (by decide) (by decide) _ selected).1 ?_⟩
  simp [Aligned, AlignedTo, targetPartitions]

/-- One of 2 partitions, found as the first 5 of 10: hash 6 is in the search range and in no selected one. -/
theorem half_of_two_is_not_five_of_ten :
    getNonOverlappingPartitions ⟨0, 1, 2⟩ [⟨0, 5, 10⟩] = .ok (some [⟨0, ⟨0, 5, 10⟩⟩]) ∧
      PartitionRange.containsHash ⟨0, 1, 2⟩ 6 = true ∧ PartitionRange.containsHash ⟨0, 5, 10⟩ 6 = false ∧
      ¬ Routes ⟨0, 1, 2⟩ [⟨0, 5, 10⟩] [⟨0, ⟨0, 5, 10⟩⟩] 6 := by
  refine ⟨by decide, by decide, by decide, ?_⟩
  rintro ⟨overlap, only, _⟩
  cases only

end DatafusionRay.Proofs.CheckpointSelection
