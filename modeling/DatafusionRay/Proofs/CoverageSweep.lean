import DatafusionRay.Foundation.Sweep
import DatafusionRay.Proofs.CheckpointSelection

/-! The coverage search sorts its candidates by their index in the list, not by
their start. So it sweeps them in the order in which they were recorded, and it
finds a cover only if that order leaves no gap. -/

namespace DatafusionRay.Proofs.CoverageSweep
open Streaming Foundation CheckpointSelection

instance (target : Nat) (searchRange range : PartitionRange) : Decidable (Meets target searchRange range) :=
  inferInstanceAs (Decidable (_ ∧ _))

/-- The ranges that overlap the search range, in the order of the list. -/
def candidates (searchRange : PartitionRange) (available : List PartitionRange) : List PartitionRange :=
  available.filter fun range => Meets (targetPartitions searchRange available) searchRange range

/-- In the order of the list, each overlapping range that ends beyond those before
it starts no later than they reach, up to one that reaches the end of the search
range. All positions are rescaled to the largest partition count. -/
def SweptInOrder (searchRange : PartitionRange) (available : List PartitionRange) : Prop :=
  let target := targetPartitions searchRange available
  Sweeps (fun range => (range.normalise target).1) (fun range => (range.normalise target).2)
    (searchRange.normalise target).1 (searchRange.normalise target).2 (candidates searchRange available)

/-- The range overlaps the search range and ends beyond the overlapping ranges
before it, none of which reaches the end of the search range. -/
def PickedInOrder (searchRange : PartitionRange) (available : List PartitionRange) : PartitionRange → Prop :=
  let target := targetPartitions searchRange available
  Picks (fun range => (range.normalise target).2) (searchRange.normalise target).1 (searchRange.normalise target).2
    (candidates searchRange available)

theorem candidates_of_swept {searchRange : PartitionRange} {available : List PartitionRange}
    (swept : SweptInOrder searchRange available) : candidates searchRange available ≠ [] := by
  intro none
  rw [SweptInOrder, none] at swept
  exact not_sweeps_nil swept

abbrev ZeroCount (searchRange : PartitionRange) (available : List PartitionRange) : Prop :=
  searchRange.partitions = 0 ∨ ∃ range ∈ available, range.partitions = 0

/-- Rescaling has left nothing of the search range. -/
def Collapsed (searchRange : PartitionRange) (available : List PartitionRange) : Prop :=
  let target := targetPartitions searchRange available
  (searchRange.normalise target).2 ≤ (searchRange.normalise target).1

section Loop
variable {target searchEnd current : Nat} {found : List OverlappingPartition} {partitions : List (Nat × Nat × Nat)}

/-- Everything the loop over the sorted candidates can answer. -/
inductive LoopAnswer (searchEnd current : Nat) (found : List OverlappingPartition)
    (partitions : List (Nat × Nat × Nat)) : Except Failure (Option (List OverlappingPartition)) → Prop where
  | gap (unfinished : current < searchEnd)
      (unswept : ¬ Sweeps (fun item => item.2.1) (fun item => item.2.2) current searchEnd partitions) :
      LoopAnswer searchEnd current found partitions (.ok none)
  | covered {pieces} (swept : Sweeps (fun item => item.2.1) (fun item => item.2.2) current searchEnd partitions)
      (picked : ∀ index, (∃ piece ∈ pieces, piece.index = index) ↔
        ∃ item, Picks (fun item => item.2.2) current searchEnd partitions item ∧ item.1 = index) :
      LoopAnswer searchEnd current found partitions (.ok (some (found ++ pieces)))
  | stuck (collapsed : searchEnd ≤ current) (none : partitions = []) :
      LoopAnswer searchEnd current found partitions
        (.error (.panicked "Search algorithm finished without returning the success case"))

private theorem sweeps_candidate {index start stop : Nat} :
    Sweeps (fun item => item.2.1) (fun item => item.2.2) current searchEnd ((index, start, stop) :: partitions) ↔
      (current < stop → start ≤ current) ∧ (searchEnd ≤ max current stop ∨
        Sweeps (fun item => item.2.1) (fun item => item.2.2) (max current stop) searchEnd partitions) := sweeps_cons

private theorem picks_candidate {index start stop : Nat} {item : Nat × Nat × Nat} :
    Picks (fun item => item.2.2) current searchEnd ((index, start, stop) :: partitions) item ↔
      item = (index, start, stop) ∧ current < stop ∨
        stop < searchEnd ∧ Picks (fun item => item.2.2) (max current stop) searchEnd partitions item := picks_cons

private theorem LoopAnswer.skip {index start stop : Nat} {result : Except Failure (Option (List OverlappingPartition))}
    (unfinished : current < searchEnd) (short : stop ≤ current)
    (answer : LoopAnswer searchEnd current found partitions result) :
    LoopAnswer searchEnd current found ((index, start, stop) :: partitions) result := by
  have same : max current stop = current := Nat.max_eq_left short
  cases answer with
  | gap _ unswept =>
    refine .gap unfinished fun swept => unswept ?_
    rcases (sweeps_candidate.mp swept).2 with ends | later
    · omega
    · rwa [same] at later
  | covered swept picked =>
    refine .covered (sweeps_candidate.mpr ⟨fun further => by omega, .inr ?_⟩) fun position => (picked position).trans ?_
    · rwa [same]
    · refine exists_congr fun item => and_congr_left fun _ => ?_
      rw [picks_candidate, same]
      constructor
      · exact fun picks => .inr ⟨by omega, picks⟩
      · rintro (⟨_, further⟩ | ⟨_, picks⟩)
        · omega
        · exact picks
  | stuck collapsed => omega

private theorem LoopAnswer.extend {index start stop : Nat} {range : PartitionRange}
    {result : Except Failure (Option (List OverlappingPartition))} (further : current < stop)
    (starts : start ≤ current) (unfinished : stop < searchEnd)
    (answer : LoopAnswer searchEnd stop (found ++ [⟨index, range⟩]) partitions result) :
    LoopAnswer searchEnd current found ((index, start, stop) :: partitions) result := by
  have same : max current stop = stop := Nat.max_eq_right (Nat.le_of_lt further)
  cases answer with
  | gap _ unswept =>
    refine .gap (Nat.lt_trans further unfinished) fun swept => unswept ?_
    rcases (sweeps_candidate.mp swept).2 with ends | later
    · omega
    · rwa [same] at later
  | @covered pieces swept picked =>
    rw [List.append_assoc, List.singleton_append]
    refine .covered (sweeps_candidate.mpr ⟨fun _ => starts, .inr ?_⟩) fun position => ?_
    · rwa [same]
    · simp only [List.exists_mem_cons_iff, picked, picks_candidate, same]
      constructor
      · rintro (own | ⟨item, picks, own⟩)
        · exact ⟨(index, start, stop), .inl ⟨rfl, further⟩, own⟩
        · exact ⟨item, .inr ⟨unfinished, picks⟩, own⟩
      · rintro ⟨item, ⟨rfl, _⟩ | ⟨_, picks⟩, own⟩
        · exact .inl own
        · exact .inr ⟨item, picks, own⟩
  | stuck collapsed => omega

private theorem LoopAnswer.finish {index start stop : Nat} {range : PartitionRange} (further : current < stop)
    (starts : start ≤ current) (reached : searchEnd ≤ stop) :
    LoopAnswer searchEnd current found ((index, start, stop) :: partitions) (.ok (some (found ++ [⟨index, range⟩]))) := by
  refine .covered (sweeps_candidate.mpr ⟨fun _ => starts, .inl (by omega)⟩) fun position => ?_
  simp only [List.mem_singleton, exists_eq_left, picks_candidate]
  constructor
  · exact fun own => ⟨(index, start, stop), .inl ⟨rfl, further⟩, own⟩
  · rintro ⟨item, ⟨rfl, _⟩ | ⟨unfinished, _⟩, own⟩
    · exact own
    · omega

/-- Only the candidates that overlap the search range reach the loop, which
settles the case that rescaling has left nothing of the search range. -/
theorem coverSearch_answers
    (overlap : searchEnd ≤ current → ∀ item ∈ partitions, item.2.1 ≤ current ∧ current < item.2.2) :
    LoopAnswer searchEnd current found partitions (coverSearch target searchEnd current found partitions) := by
  induction partitions generalizing current found with
  | nil =>
    rw [coverSearch]
    split
    next unfinished => exact .gap unfinished not_sweeps_nil
    next finished => exact .stuck (Nat.le_of_not_lt finished) rfl
  | cons head rest ih =>
    obtain ⟨index, start, stop⟩ := head
    have usable : current < searchEnd ∨ start ≤ current ∧ current < stop := by
      by_cases unfinished : current < searchEnd
      · exact .inl unfinished
      · exact .inr (overlap (Nat.le_of_not_lt unfinished) _ List.mem_cons_self)
    rw [coverSearch]
    split
    next further =>
      split
      next late =>
        refine .gap (by omega) fun swept => ?_
        have starts : start ≤ current := (sweeps_candidate.mp swept).1 further
        omega
      next early =>
        have starts : start ≤ current := Nat.le_of_not_lt early
        dsimp only
        split
        next complete => exact LoopAnswer.finish further starts (by omega)
        next incomplete =>
          have shorter : min searchEnd stop = stop := by omega
          have unfinished : stop < searchEnd := by omega
          rw [shorter]
          exact LoopAnswer.extend further starts unfinished
            (ih fun collapsed => by omega)
    next short =>
      have unfinished : current < searchEnd := by omega
      exact LoopAnswer.skip unfinished (Nat.le_of_not_lt short) (ih fun collapsed => by omega)

end Loop

section Search
variable {searchRange : PartitionRange} {available : List PartitionRange}

/-- Everything `get_non_overlapping_partitions` can answer. -/
inductive SearchAnswer (searchRange : PartitionRange) (available : List PartitionRange) :
    Except Failure (Option (List OverlappingPartition)) → Prop where
  | zeroCount (zero : ZeroCount searchRange available) :
      SearchAnswer searchRange available (.error (.panicked "attempt to divide by zero"))
  | gap (counts : ¬ ZeroCount searchRange available) (open_ : ¬ Collapsed searchRange available)
      (unswept : ¬ SweptInOrder searchRange available) : SearchAnswer searchRange available (.ok none)
  | covered {selection} (counts : ¬ ZeroCount searchRange available) (swept : SweptInOrder searchRange available)
      (stored : ∀ overlap ∈ selection, ∃ range, available[overlap.index]? = some range)
      (picked : ∀ range, (∃ overlap ∈ selection, available[overlap.index]? = some range) ↔
        PickedInOrder searchRange available range) :
      SearchAnswer searchRange available (.ok (some selection))
  | stuck (counts : ¬ ZeroCount searchRange available) (collapsed : Collapsed searchRange available)
      (none : candidates searchRange available = []) :
      SearchAnswer searchRange available
        (.error (.panicked "Search algorithm finished without returning the success case"))

/-- The overlapping ranges with their positions in the list. -/
private def indexed (searchRange : PartitionRange) (available : List PartitionRange) : List (PartitionRange × Nat) :=
  available.zipIdx.filter fun entry => Meets (targetPartitions searchRange available) searchRange entry.1

private def rescaled (target : Nat) (entry : PartitionRange × Nat) : Nat × Nat × Nat :=
  (entry.2, entry.1.normalise target)

private theorem indexed_map_fst : (indexed searchRange available).map Prod.fst = candidates searchRange available := by
  have kept (keep : PartitionRange → Bool) :
      (available.zipIdx.filter (keep ∘ Prod.fst)).map Prod.fst = available.filter keep := by
    rw [← List.filter_map, List.zipIdx_map_fst]
  exact kept fun range => Meets (targetPartitions searchRange available) searchRange range

/-- The sort leaves the list as it is, since its key is the position. -/
private theorem sorted_indexed (searchRange : PartitionRange) (available : List PartitionRange) (target : Nat) :
    ((indexed searchRange available).map (rescaled target)).insertionSort (fun left right => left.1 ≤ right.1) =
      (indexed searchRange available).map (rescaled target) := by
  apply List.Pairwise.insertionSort_eq
  rw [List.pairwise_map]
  apply List.Pairwise.filter
  have positions : (available.zipIdx.map Prod.snd).Pairwise (· < ·) := by
    rw [List.zipIdx_map_snd]
    exact List.pairwise_lt_range'
  rw [List.pairwise_map] at positions
  exact positions.imp fun before => Nat.le_of_lt before

private theorem getNonOverlappingPartitions_eq (counts : ¬ ZeroCount searchRange available) :
    getNonOverlappingPartitions searchRange available =
      let target := targetPartitions searchRange available
      coverSearch target (searchRange.normalise target).2 (searchRange.normalise target).1 []
        ((indexed searchRange available).map (rescaled target)) := by
  have overlapping (target searchStart searchEnd : Nat) (same : searchRange.normalise target = (searchStart, searchEnd)) :
      (available.zipIdx.map (rescaled target)).filter (fun item => item.2.1 < searchEnd && searchStart < item.2.2) =
        (available.zipIdx.filter fun entry => Meets target searchRange entry.1).map (rescaled target) := by
    rw [List.filter_map]
    congr 1
    refine List.filter_congr fun entry _ => ?_
    rw [Bool.eq_iff_iff, Function.comp_apply, Bool.and_eq_true, decide_eq_true_eq, decide_eq_true_eq,
      decide_eq_true_eq, Meets, same]
    rfl
  rw [getNonOverlappingPartitions, if_neg counts]
  exact congrArg (coverSearch _ _ _ []) ((congrArg (List.insertionSort _) (overlapping _ _ _ rfl)).trans
    (sorted_indexed searchRange available _))

private theorem lift_answer (counts : ¬ ZeroCount searchRange available)
    {result : Except Failure (Option (List OverlappingPartition))}
    (answer : let target := targetPartitions searchRange available
      LoopAnswer (searchRange.normalise target).2 (searchRange.normalise target).1 []
        ((indexed searchRange available).map (rescaled target)) result) :
    SearchAnswer searchRange available result := by
  have swept_iff : Sweeps (fun item => item.2.1) (fun item => item.2.2)
      (searchRange.normalise (targetPartitions searchRange available)).1
      (searchRange.normalise (targetPartitions searchRange available)).2
      ((indexed searchRange available).map (rescaled (targetPartitions searchRange available))) ↔
        SweptInOrder searchRange available := by
    rw [SweptInOrder, ← indexed_map_fst, sweeps_map, sweeps_map]
    rfl
  cases answer with
  | gap unfinished unswept =>
    exact .gap counts (Nat.not_le_of_lt unfinished) fun swept => unswept (swept_iff.mpr swept)
  | @covered pieces swept picked =>
    rw [List.nil_append]
    simp only [picks_map] at picked
    have listed {entry : PartitionRange × Nat} (member : entry ∈ indexed searchRange available) :
        available[entry.2]? = some entry.1 := List.mem_zipIdx_iff_getElem?.mp (List.mem_of_mem_filter member)
    have stored (overlap : OverlappingPartition) (member : overlap ∈ pieces) :
        ∃ range, available[overlap.index]? = some range ∧ PickedInOrder searchRange available range := by
      obtain ⟨_, ⟨entry, picks, rfl⟩, same⟩ := (picked overlap.index).mp ⟨overlap, member, rfl⟩
      have position : entry.2 = overlap.index := same
      rw [PickedInOrder, ← indexed_map_fst]
      exact ⟨entry.1, position ▸ listed picks.mem, picks_map.mpr ⟨entry, picks, rfl⟩⟩
    refine .covered counts (swept_iff.mp swept) (fun overlap member => ?_) fun range => ⟨?_, fun picks => ?_⟩
    · obtain ⟨range, found, _⟩ := stored overlap member
      exact ⟨range, found⟩
    · rintro ⟨overlap, member, found⟩
      obtain ⟨other, same, picks⟩ := stored overlap member
      rw [found] at same
      exact Option.some.inj same ▸ picks
    · rw [PickedInOrder, ← indexed_map_fst, picks_map] at picks
      obtain ⟨entry, picks, rfl⟩ := picks
      obtain ⟨overlap, member, same⟩ := (picked entry.2).mpr ⟨_, ⟨entry, picks, rfl⟩, rfl⟩
      exact ⟨overlap, member, same ▸ listed picks.mem⟩
  | stuck collapsed none =>
    refine .stuck counts collapsed ?_
    rw [← indexed_map_fst, List.map_eq_nil_iff.mp none, List.map_nil]

theorem getNonOverlappingPartitions_answers :
    SearchAnswer searchRange available (getNonOverlappingPartitions searchRange available) := by
  by_cases zero : ZeroCount searchRange available
  · rw [getNonOverlappingPartitions, if_pos zero]
    exact .zeroCount zero
  · rw [getNonOverlappingPartitions_eq zero]
    refine lift_answer zero (coverSearch_answers fun collapsed item member => ?_)
    obtain ⟨entry, inside, rfl⟩ := List.mem_map.mp member
    have meets := of_decide_eq_true (List.mem_filter.mp inside).2
    exact ⟨Nat.le_of_lt (Nat.lt_of_lt_of_le meets.1 collapsed), meets.2⟩

end Search

/-- Every partition of the search range lies in one of the ranges. -/
def CoveredBy (searchRange : PartitionRange) (available : List PartitionRange) : Prop :=
  ∀ partition, searchRange.start ≤ partition → partition < searchRange.stop →
    ∃ range ∈ available, range.start ≤ partition ∧ partition < range.stop

/-- Candidates in the order of their starts, as the comment above the sort has it, would always be enough. -/
theorem swept_of_sorted {searchRange : PartitionRange} {available : List PartitionRange}
    (nonempty : searchRange.start < searchRange.stop) (positive : 0 < searchRange.partitions)
    (same : ∀ range ∈ available, range.partitions = searchRange.partitions)
    (ordered : ∀ range ∈ searchRange :: available, range.start ≤ range.stop)
    (bounded : ∀ range ∈ searchRange :: available, range.stop * searchRange.partitions < 2 ^ 64)
    (sorted : available.Pairwise fun left right => left.start ≤ right.start)
    (covered : CoveredBy searchRange available) : SweptInOrder searchRange available := by
  have kept (range : PartitionRange) (member : range ∈ searchRange :: available) :
      range.normalise searchRange.partitions = (range.start, range.stop) := by
    have count : range.partitions = searchRange.partitions := by
      rcases List.mem_cons.mp member with rfl | stored
      · rfl
      · exact same range stored
    rw [← count]
    exact PartitionRange.normalise_self (by omega) (ordered range member) (by rw [count]; exact bounded range member)
  have own := kept searchRange List.mem_cons_self
  rw [SweptInOrder, candidates, target_eq_of_same same, own]
  refine sweeps_of_sorted ?_ nonempty fun partition above below => ?_
  · refine (sorted.filter _).imp_of_mem fun left right before => ?_
    rw [kept _ (List.mem_cons_of_mem _ (List.mem_of_mem_filter left)),
      kept _ (List.mem_cons_of_mem _ (List.mem_of_mem_filter right))]
    exact before
  · obtain ⟨range, member, starts, stops⟩ := covered partition above below
    have rescaled := kept range (List.mem_cons_of_mem _ member)
    refine ⟨range, List.mem_filter.mpr ⟨member, decide_eq_true ?_⟩, ?_⟩
    · rw [Meets, own, rescaled]
      exact ⟨Nat.lt_of_le_of_lt starts below, Nat.lt_of_le_of_lt above stops⟩
    · rw [rescaled]
      exact ⟨starts, stops⟩

/-- With one partition count throughout, a covered search range is found exactly if
the list happens to sweep it. -/
theorem cover_found_iff (searchRange : PartitionRange) (available : List PartitionRange)
    (same : ∀ range ∈ available, range.partitions = searchRange.partitions) :
    (CoveredBy searchRange available →
      ∃ selection, getNonOverlappingPartitions searchRange available = .ok (some selection)) ↔
    (CoveredBy searchRange available → searchRange.partitions ≠ 0 ∧ SweptInOrder searchRange available) := by
  have counts : ZeroCount searchRange available ↔ searchRange.partitions = 0 := by
    refine ⟨fun zero => ?_, .inl⟩
    rcases zero with zero | ⟨range, member, zero⟩
    · exact zero
    · rwa [same range member] at zero
  refine imp_congr_right fun _ => ?_
  rw [Ne, ← counts]
  have answer := @getNonOverlappingPartitions_answers searchRange available
  generalize getNonOverlappingPartitions searchRange available = result at answer
  cases answer with
  | zeroCount zero => simp [zero]
  | gap counts _ unswept => simp [unswept]
  | covered counts swept => simp [counts, swept]
  | stuck counts collapsed none =>
    have unswept : ¬ SweptInOrder searchRange available := fun swept => candidates_of_swept swept none
    simp [unswept]

theorem halves_in_order_found :
    ∃ selection, getNonOverlappingPartitions ⟨0, 4, 4⟩ [⟨0, 2, 4⟩, ⟨2, 4, 4⟩] = .ok (some selection) := by
  have covered : CoveredBy ⟨0, 4, 4⟩ [⟨0, 2, 4⟩, ⟨2, 4, 4⟩] := by
    intro partition _ (below : partition < 4)
    simp only [List.mem_cons, List.not_mem_nil, or_false, exists_eq_or_imp, exists_eq_left]
    omega
  refine (cover_found_iff ⟨0, 4, 4⟩ [⟨0, 2, 4⟩, ⟨2, 4, 4⟩] (by decide)).mpr (fun _ => ⟨by decide, ?_⟩) covered
  exact swept_of_sorted (by decide) (by decide) (by decide) (by decide) (by decide) (by decide) covered

/-- The two halves of four partitions, the second recorded first. -/
theorem second_half_recorded_first :
    CoveredBy ⟨0, 4, 4⟩ [⟨2, 4, 4⟩, ⟨0, 2, 4⟩] ∧
      getNonOverlappingPartitions ⟨0, 4, 4⟩ [⟨2, 4, 4⟩, ⟨0, 2, 4⟩] = .ok none := by
  refine ⟨?_, by decide⟩
  intro partition _ (below : partition < 4)
  simp only [List.mem_cons, List.not_mem_nil, or_false, exists_eq_or_imp, exists_eq_left]
  omega

end DatafusionRay.Proofs.CoverageSweep
