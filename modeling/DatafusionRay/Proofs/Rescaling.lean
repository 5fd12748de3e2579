import DatafusionRay.Proofs.KeyCounts
import DatafusionRay.Proofs.RangeSplit

/-! Restoring one stored snapshot in the copies that `scale_up` starts. A copy
with a non-empty range finds the snapshot of the full range and takes all of it,
so the keys are shared out only among one copy, or if there are none. -/

namespace DatafusionRay.Proofs.Rescaling
open Streaming CountByKeyFunction KeyCounts RangeSplit

private theorem full_eq : PartitionRange.full = ⟨0, 34, 34⟩ := rfl

private theorem normalise_cap {start stop : Nat} (ordered : start ≤ stop) (within : stop ≤ 34) :
    (⟨start, stop, 34⟩ : PartitionRange).normalise 34 = (start, stop) :=
  PartitionRange.normalise_self (by omega : 0 < 34) ordered (by dsimp only; omega)

private theorem getNonOverlapping_full {start stop : Nat} (nonempty : start < stop) (within : stop ≤ 34) :
    getNonOverlappingPartitions ⟨start, stop, 34⟩ [.full] = .ok (some [⟨0, ⟨start, stop, 34⟩⟩]) := by
  have rescaled := normalise_cap (Nat.le_of_lt nonempty) within
  have whole := normalise_cap (Nat.zero_le 34) (Nat.le_refl 34)
  have reached : min stop 34 = stop := by omega
  have overlaps : 0 < stop ∧ start < 34 := by omega
  simp [getNonOverlappingPartitions, targetPartitions, full_eq, rescaled, whole, overlaps, coverSearch, reached]

private theorem getNonOverlapping_empty :
    getNonOverlappingPartitions ⟨34, 34, 34⟩ [.full] =
      .error (.panicked "Search algorithm finished without returning the success case") := by
  have rescaled := normalise_cap (Nat.le_refl 34) (Nat.le_refl 34)
  have whole := normalise_cap (Nat.zero_le 34) (Nat.le_refl 34)
  simp [getNonOverlappingPartitions, targetPartitions, full_eq, rescaled, whole, coverSearch]

section Restore
variable {remote : RemoteStorage} {stateId : String} {checkpoint timestamp : Nat} {directory : String} {counts : Counts}
  {leftover : List (String × Db)}

/-- The remote storage after an operator with the full range has stored its counts. -/
def stored (remote : RemoteStorage) (stateId : String) (checkpoint timestamp : Nat) (directory : String)
    (counts : Counts) : RemoteStorage :=
  remote.upload s!"{stateId}-count-star" ⟨toString checkpoint, ⟨.full, timestamp, directory⟩⟩ (storeCounts counts ∅)

def Unstored (remote : RemoteStorage) (stateId : String) (checkpoint : Nat) : Prop :=
  ∀ entry ∈ (checkpointsIn (remote.latestJson s!"{stateId}-count-star")).completedCheckpoints,
    entry.id ≠ toString checkpoint

private theorem insert_new (call : CompleteCheckpoint) {entries : List CheckpointEntry}
    (new : ∀ entry ∈ entries, entry.id ≠ call.checkpointId) :
    (call.insert entries).filter (fun entry => entry.id == call.checkpointId) =
      [⟨call.checkpointId, [call.partitionInfo]⟩] := by
  induction entries with
  | nil => simp [CompleteCheckpoint.insert]
  | cons head rest ih =>
    rw [List.forall_mem_cons] at new
    rw [CompleteCheckpoint.insert, if_neg new.1, List.filter_cons_of_neg (by simpa using new.1), ih new.2]

private theorem stored_entries (new : Unstored remote stateId checkpoint) :
    (checkpointsIn ((stored remote stateId checkpoint timestamp directory counts).latestJson
      s!"{stateId}-count-star")).completedCheckpoints.filter (fun entry => entry.id == toString checkpoint) =
      [⟨toString checkpoint, [⟨.full, timestamp, directory⟩]⟩] := by
  simp only [stored, RemoteStorage.upload, Function.update_self]
  exact insert_new ⟨toString checkpoint, ⟨.full, timestamp, directory⟩⟩ new

private theorem load_stored (new : Unstored remote stateId checkpoint)
    (absent : StateBackend.NoneNumbered leftover checkpoint) (positive : 0 < checkpoint)
    {start stop : Nat} (nonempty : start < stop) (within : stop ≤ 34) :
    ∃ function, (init stateId ⟨start, stop, 34⟩ leftover).load
        (stored remote stateId checkpoint timestamp directory counts) checkpoint = .ok function ∧
      function.localCounts = counts := by
  have found : getOperatorCheckpoints (((stored remote stateId checkpoint timestamp directory counts).latestJson
      s!"{stateId}-count-star").map .ok) s!"{stateId}-count-star" ⟨start, stop, 34⟩ (toString checkpoint) =
      .ok [(directory, ⟨start, stop, 34⟩)] := by
    rw [getOperatorCheckpoints_map_ok, stored_entries new]
    simp only [findCover, CheckpointEntry.cover, List.map_cons, List.map_nil, getNonOverlapping_full nonempty within]
    rfl
  have snapshot : (stored remote stateId checkpoint timestamp directory counts).directories directory =
      some (storeCounts counts ∅) := by
    simp [stored, RemoteStorage.upload]
  have moved : (init stateId ⟨start, stop, 34⟩ leftover).state.moveToCheckpoint
      (stored remote stateId checkpoint timestamp directory counts) checkpoint ⟨start, stop, 34⟩ =
      .ok { (init stateId ⟨start, stop, 34⟩ leftover).state with openDb := storeCounts counts ∅ } :=
    StateBackend.moveToCheckpoint_eq_ok absent found snapshot
  have range : (init stateId ⟨start, stop, 34⟩ leftover).currentPartitionRange = ⟨start, stop, 34⟩ := rfl
  refine ⟨{ init stateId ⟨start, stop, 34⟩ leftover with
    state := { (init stateId ⟨start, stop, 34⟩ leftover).state with openDb := storeCounts counts ∅ }
    localCounts := counts }, ?_, rfl⟩
  rw [load, if_pos positive]
  simp only [range, moved, decodeCounts_storeCounts, bind, Except.bind]
  rfl

private theorem load_empty (new : Unstored remote stateId checkpoint)
    (absent : StateBackend.NoneNumbered leftover checkpoint) (positive : 0 < checkpoint) :
    (init stateId ⟨34, 34, 34⟩ leftover).load (stored remote stateId checkpoint timestamp directory counts) checkpoint =
      .error (.panicked "Search algorithm finished without returning the success case") := by
  have missing : getOperatorCheckpoints (((stored remote stateId checkpoint timestamp directory counts).latestJson
      s!"{stateId}-count-star").map .ok) s!"{stateId}-count-star" ⟨34, 34, 34⟩ (toString checkpoint) =
      .error (.panicked "Search algorithm finished without returning the success case") := by
    rw [getOperatorCheckpoints_map_ok, stored_entries new]
    simp only [findCover, CheckpointEntry.cover, List.map_cons, List.map_nil, getNonOverlapping_empty]
    rfl
  have failed : (init stateId ⟨34, 34, 34⟩ leftover).state.moveToCheckpoint
      (stored remote stateId checkpoint timestamp directory counts) checkpoint ⟨34, 34, 34⟩ = .error _ :=
    StateBackend.moveToCheckpoint_eq_error absent missing
  have range : (init stateId ⟨34, 34, 34⟩ leftover).currentPartitionRange = ⟨34, 34, 34⟩ := rfl
  rw [load, if_pos positive]
  simp only [range, failed, bind, Except.bind]

/-- The copies that `scale_up` starts, each after its `load`. Every copy has its own
machine, with the directories that were left there for its range. -/
def rescaled (remote : RemoteStorage) (leftover : PartitionRange → List (String × Db)) (stateId : String)
    (checkpoint newNumber : Nat) : List (Except Failure CountByKeyFunction) :=
  (scaleUpPartitions newNumber).map fun range => (init stateId range (leftover range)).load remote checkpoint

/-- All copies have loaded, and each key is held with its stored count by exactly
one of them; a key that was not stored is held by none. -/
def SharesOut (counts : Counts) (copies : List (Except Failure CountByKeyFunction)) : Prop :=
  ∃ functions : List CountByKeyFunction, copies = functions.map .ok ∧
    ∀ key, functions.filterMap (fun function => function.localCounts.lookup key) = (counts.lookup key).toList

private theorem exists_map_ok {α : Type} {assertion : CountByKeyFunction → Prop} {items : List α}
    {build : α → Except Failure CountByKeyFunction}
    (each : ∀ item ∈ items, ∃ function, build item = .ok function ∧ assertion function) :
    ∃ functions : List CountByKeyFunction, items.map build = functions.map .ok ∧
      ∀ function ∈ functions, assertion function := by
  induction items with
  | nil => exact ⟨[], rfl, nofun⟩
  | cons item rest ih =>
    rw [List.forall_mem_cons] at each
    obtain ⟨⟨function, built, first⟩, others⟩ := each
    obtain ⟨functions, same, kept⟩ := ih others
    exact ⟨function :: functions, by simp [built, same], List.forall_mem_cons.mpr ⟨first, kept⟩⟩

private theorem rescaled_small {leftover : PartitionRange → List (String × Db)} (new : Unstored remote stateId checkpoint)
    (absent : ∀ range, StateBackend.NoneNumbered (leftover range) checkpoint) (positive : 0 < checkpoint) {newNumber : Nat}
    (small : newNumber ≤ 34) :
    ∃ functions : List CountByKeyFunction,
      rescaled (stored remote stateId checkpoint timestamp directory counts) leftover stateId checkpoint newNumber =
        functions.map .ok ∧ functions.length = newNumber ∧ ∀ function ∈ functions, function.localCounts = counts := by
  have each : ∀ range ∈ scaleUpPartitions newNumber, ∃ function, (init stateId range (leftover range)).load
      (stored remote stateId checkpoint timestamp directory counts) checkpoint = .ok function ∧
        function.localCounts = counts := by
    intro range member
    obtain ⟨i, copy, rfl⟩ := List.mem_map.mp member
    have inside : i < newNumber := List.mem_range.mp copy
    rw [scaleUpPartition_eq]
    exact load_stored new (absent _) positive (scaleUpPartition_nonempty small inside) (bound_le (by omega) inside)
  obtain ⟨functions, same, kept⟩ := exists_map_ok each
  refine ⟨functions, same, ?_, kept⟩
  have lengths := congrArg List.length same
  simpa [scaleUpPartitions] using lengths.symm

private theorem eq_empty_of_lookup (missing : ∀ key, counts.lookup key = none) : counts = ∅ := by
  apply AList.ext
  cases entries : counts.entries with
  | nil => rfl
  | cons entry rest =>
    have found : entry.2 ∈ counts.lookup entry.1 := AList.mem_lookup_iff.mpr (by simp [entries])
    rw [missing] at found
    cases found

private theorem lookups_eq {functions : List CountByKeyFunction}
    (all : ∀ function ∈ functions, function.localCounts = counts) (key : UInt64) :
    functions.filterMap (fun function => function.localCounts.lookup key) =
      (counts.lookup key).toList.flatMap (List.replicate functions.length) := by
  have same : functions.filterMap (fun function => function.localCounts.lookup key) =
      functions.filterMap fun _ => counts.lookup key :=
    List.filterMap_congr fun function member => by rw [all function member]
  rw [same]
  cases counts.lookup key with
  | none => simp
  | some count => simp [List.map_const']

private theorem rescaled_large {leftover : PartitionRange → List (String × Db)} (new : Unstored remote stateId checkpoint)
    (absent : ∀ range, StateBackend.NoneNumbered (leftover range) checkpoint) (positive : 0 < checkpoint) {newNumber : Nat}
    (large : 34 < newNumber) :
    .error (.panicked "Search algorithm finished without returning the success case") ∈
      rescaled (stored remote stateId checkpoint timestamp directory counts) leftover stateId checkpoint newNumber := by
  refine List.mem_map.mpr ⟨⟨34, 34, 34⟩, ?_, load_empty new (absent _) positive⟩
  exact List.mem_map.mpr ⟨34, List.mem_range.mpr large, scaleUpPartition_cap large⟩

end Restore

/-- No machine has a directory that goes by the checkpoint. The stored keys are shared
out among the copies only if there is one copy, or nothing was stored and no copy is
left without a partition. -/
theorem rescaled_shares_out_iff (remote : RemoteStorage) (leftover : PartitionRange → List (String × Db))
    (stateId : String) (checkpoint timestamp : Nat) (directory : String) (counts : Counts) (newNumber : Nat)
    (positive : 0 < checkpoint) (copies : 1 ≤ newNumber) (new : Unstored remote stateId checkpoint)
    (absent : ∀ range, StateBackend.NoneNumbered (leftover range) checkpoint) :
    SharesOut counts
        (rescaled (stored remote stateId checkpoint timestamp directory counts) leftover stateId checkpoint newNumber) ↔
      newNumber = 1 ∨ (counts = ∅ ∧ newNumber ≤ 34) := by
  rcases Nat.lt_or_ge 34 newNumber with large | small
  · refine ⟨fun shares => ?_, fun allowed => by omega⟩
    obtain ⟨functions, same, _⟩ := shares
    have failed : _ ∈ rescaled (stored remote stateId checkpoint timestamp directory counts) leftover stateId
      checkpoint newNumber := rescaled_large new absent positive large
    rw [same] at failed
    simp at failed
  · obtain ⟨functions, same, rfl, all⟩ := rescaled_small new absent positive small
    rw [same]
    constructor
    · rintro ⟨others, unique, shares⟩
      have injective : Function.Injective (Except.ok : CountByKeyFunction → Except Failure CountByKeyFunction) :=
        fun _ _ => Except.ok.inj
      rw [← List.map_injective_iff.mpr injective unique] at shares
      refine or_iff_not_imp_left.mpr fun several => ⟨eq_empty_of_lookup fun key => ?_, small⟩
      have held := shares key
      rw [lookups_eq all] at held
      cases found : counts.lookup key with
      | none => rfl
      | some count =>
        have lengths := congrArg List.length held
        simp only [found, Option.toList_some, List.flatMap_cons, List.flatMap_nil, List.append_nil,
          List.length_replicate, List.length_singleton] at lengths
        exact False.elim (several lengths)
    · intro allowed
      refine ⟨functions, rfl, fun key => ?_⟩
      rw [lookups_eq all]
      rcases allowed with single | ⟨rfl, _⟩
      · cases counts.lookup key <;> simp [single]
      · simp

def sevenStored : RemoteStorage :=
  stored ⟨fun _ => none, fun _ => none⟩ "2" 1 1000 "operators/2-count-star/checkpoints/a" (AList.singleton 7 3)

theorem rescaled_shares_out_alone : SharesOut (AList.singleton 7 3) (rescaled sevenStored (fun _ => []) "2" 1 1) :=
  (rescaled_shares_out_iff _ (fun _ => []) "2" 1 1000 _ _ 1 (by decide) (by decide)
    (by simp [Unstored, checkpointsIn]) (fun _ => StateBackend.noneNumbered_nil 1)).mpr (.inl rfl)

/-- Two copies both restore the count of key 7. -/
theorem rescaled_duplicates_key :
    (rescaled sevenStored (fun _ => []) "2" 1 2).map
        (fun copy => copy.toOption.map fun function => function.localCounts.lookup 7) =
      [some (some 3), some (some 3)] := by decide

end DatafusionRay.Proofs.Rescaling
