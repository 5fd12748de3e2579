import DatafusionRay.Proofs.CheckpointSelection

/-! What the coverage search selects, for any counts and ranges whatsoever: ranges that
lead from the start of the rescaled search range to its end without a gap, each cut
from an available range of its own. A search range of which rescaling leaves something
is never the cause of a panic. -/

namespace DatafusionRay.Proofs.SelectionChain
open Streaming Foundation CheckpointSelection

variable {searchRange : PartitionRange} {available : List PartitionRange}

structure ChainedSelection (searchRange : PartitionRange) (available : List PartitionRange)
    (selection : List OverlappingPartition) : Prop where
  chain : Chain (fun overlap => overlap.selectedPartitionRange.start) (fun overlap => overlap.selectedPartitionRange.stop)
    (searchRange.normalise (targetPartitions searchRange available)).1 selection
    (searchRange.normalise (targetPartitions searchRange available)).2
  nonempty : ∀ overlap ∈ selection, overlap.selectedPartitionRange.start < overlap.selectedPartitionRange.stop
  rescaled : ∀ overlap ∈ selection, overlap.selectedPartitionRange.partitions = targetPartitions searchRange available
  inside : ∀ overlap ∈ selection, ∃ range, available[overlap.index]? = some range ∧
    (range.normalise (targetPartitions searchRange available)).1 ≤ overlap.selectedPartitionRange.start ∧
    overlap.selectedPartitionRange.stop ≤ (range.normalise (targetPartitions searchRange available)).2
  distinct : (selection.map OverlappingPartition.index).Nodup

/-- The candidates are sorted and filtered, but each stands for one position of the list. -/
private theorem nodup_indices (target : Nat) (keep : Nat × Nat × Nat → Bool) :
    ((((available.zipIdx.map fun entry => (entry.2, entry.1.normalise target)).filter keep).insertionSort
      fun left right => left.1 ≤ right.1).map Prod.fst).Nodup := by
  have positions : (available.zipIdx.map fun entry => (entry.2, entry.1.normalise target)).map Prod.fst =
      List.range' 0 available.length := by
    rw [List.map_map, ← List.zipIdx_map_snd 0 available]
    rfl
  have all : ((available.zipIdx.map fun entry => (entry.2, entry.1.normalise target)).map Prod.fst).Nodup := by
    rw [positions]
    exact List.nodup_range'
  apply (((List.perm_insertionSort _ _).map Prod.fst).nodup_iff).mpr
  exact all.sublist (List.filter_sublist.map Prod.fst)

/-- For every search range of which rescaling leaves something, the search answers
without a panic, and what it selects is a chain. -/
theorem selection_chained (searchRange : PartitionRange) (available : List PartitionRange)
    (positive : 0 < searchRange.partitions) (counts : ∀ range ∈ available, 0 < range.partitions)
    (nonempty : (searchRange.normalise (targetPartitions searchRange available)).1 <
      (searchRange.normalise (targetPartitions searchRange available)).2) :
    ∃ answer, getNonOverlappingPartitions searchRange available = .ok answer ∧
      ∀ selection, answer = some selection → ChainedSelection searchRange available selection := by
  have nonzero : ¬ (searchRange.partitions = 0 ∨ ∃ range ∈ available, range.partitions = 0) := by
    rintro (zero | ⟨range, member, zero⟩)
    · exact Nat.ne_of_gt positive zero
    · exact Nat.ne_of_gt (counts range member) zero
  obtain ⟨answer, searched, selects⟩ := coverSearch_selects nonempty
  have answered : getNonOverlappingPartitions searchRange available = .ok answer := by
    rw [getNonOverlappingPartitions, if_neg nonzero]
    exact searched
  refine ⟨answer, answered, ?_⟩
  intro selection same
  subst same
  obtain ⟨tiles, pieces⟩ := selection_tiles answered nonempty
  obtain ⟨_, rfl, swept⟩ := selects selection rfl
  refine ⟨tiles, swept.nonempty, fun overlap member => (pieces overlap member).1, ?_,
    swept.indices.nodup (nodup_indices _ _)⟩
  intro overlap member
  obtain ⟨_, range, found, _, inside⟩ := pieces overlap member
  exact ⟨range, found, inside⟩

/-- A half of four partitions and an overlapping stretch of eight, for the middle of eight. -/
theorem two_pieces_chained :
    getNonOverlappingPartitions ⟨2, 6, 8⟩ [⟨0, 2, 4⟩, ⟨3, 8, 8⟩] =
        .ok (some [⟨0, ⟨2, 4, 8⟩⟩, ⟨1, ⟨4, 6, 8⟩⟩]) ∧
      ChainedSelection ⟨2, 6, 8⟩ [⟨0, 2, 4⟩, ⟨3, 8, 8⟩] [⟨0, ⟨2, 4, 8⟩⟩, ⟨1, ⟨4, 6, 8⟩⟩] := by
  have found : getNonOverlappingPartitions ⟨2, 6, 8⟩ [⟨0, 2, 4⟩, ⟨3, 8, 8⟩] =
      .ok (some [⟨0, ⟨2, 4, 8⟩⟩, ⟨1, ⟨4, 6, 8⟩⟩]) := by decide
  obtain ⟨answer, answered, chained⟩ := selection_chained ⟨2, 6, 8⟩ [⟨0, 2, 4⟩, ⟨3, 8, 8⟩] (by decide) (by decide) (by decide)
  exact ⟨found, chained _ (Except.ok.inj (answered.symm.trans found))⟩

end DatafusionRay.Proofs.SelectionChain
