import DatafusionRay.Streaming.CheckpointStorage

/-! One `complete_checkpoint` call on a storage that may fail. A read that fails is
taken for an empty listing, and the call then writes this listing back; a write that
fails may have cut off the file already. -/

namespace DatafusionRay.Proofs.CheckpointHistory
open Streaming CompleteCheckpoint

/-- The file lists this info under its checkpoint id. -/
def Recorded (file : Option LatestText) (recorded : CompleteCheckpoint) : Prop :=
  ∃ latest, file = some (.ok latest) ∧ recorded.ListedIn latest

private theorem recorded_some {latest : LatestCheckpoints} {recorded : CompleteCheckpoint} :
    Recorded (some (.ok latest)) recorded ↔ recorded.ListedIn latest := by
  simp [Recorded]

private theorem not_listedIn_empty (recorded : CompleteCheckpoint) : ¬ recorded.ListedIn ⟨[]⟩ := by
  rintro ⟨entry, member, -⟩
  cases member

/-- What becomes of the file after the call has got as far as its write. -/
inductive Written (outcomes : StorageOutcomes) (call : CompleteCheckpoint) (file : Option LatestText) :
    Option LatestText → Prop where
  | cutOff {fault left} (failed : outcomes.writeFault = some (fault, left)) : Written outcomes call file left
  | added {latest} (wrote : outcomes.writeFault = none)
      (read : readLatestJson (outcomes.readFile file).toOption = .ok latest) :
      Written outcomes call file (some (.ok (call.update latest)))
  | unparsed (refused : ∀ latest, file ≠ some (.ok latest)) : Written outcomes call file file

section Call
variable {outcomes : StorageOutcomes} {checkpointId checkpointDir : String} {partitionRange : PartitionRange}
  {file : Option LatestText}

theorem read_listed {latest : LatestCheckpoints} (clean : outcomes.readFault = none) (held : file = some (.ok latest)) :
    readLatestJson (outcomes.readFile file).toOption = .ok latest := by
  simp only [StorageOutcomes.readFile, clean, held]
  rfl

theorem read_faulted (faulted : outcomes.readFault ≠ none) :
    readLatestJson (outcomes.readFile file).toOption = .ok ⟨[]⟩ := by
  obtain ⟨fault, found⟩ := Option.ne_none_iff_exists'.mp faulted
  simp only [StorageOutcomes.readFile, found]
  rfl

/-- A call that does not come to its write leaves the file alone. -/
theorem completeCheckpoint_early
    (early : (∃ error, outcomes.clock = .error error) ∨ outcomes.serializeFault ≠ none ∨ outcomes.mkdirFault ≠ none) :
    (completeCheckpoint outcomes checkpointId checkpointDir partitionRange file).2 = file := by
  rw [completeCheckpoint]
  split
  next => rfl
  next timestamp clock =>
    split
    next => rfl
    next =>
      have late := early.resolve_left fun ⟨error, failed⟩ => by
        rw [clock] at failed
        cases failed
      split
      next => rfl
      next => rfl
      next serialized made _ => exact absurd late (by simp [serialized, made])
      next serialized made _ => exact absurd late (by simp [serialized, made])

theorem completeCheckpoint_written {timestamp : Nat} (clock : outcomes.clock = .ok timestamp)
    (serialized : outcomes.serializeFault = none) (made : outcomes.mkdirFault = none) :
    Written outcomes (.timed checkpointId checkpointDir partitionRange timestamp) file
      (completeCheckpoint outcomes checkpointId checkpointDir partitionRange file).2 := by
  simp only [completeCheckpoint, clock, serialized, made]
  cases read : readLatestJson (outcomes.readFile file).toOption with
  | error error =>
    refine .unparsed fun latest held => ?_
    cases fault : outcomes.readFault with
    | none => cases (read_listed fault held).symm.trans read
    | some fault => cases (read_faulted (fault ▸ Option.some_ne_none _)).symm.trans read
  | ok latest =>
    cases write : outcomes.writeFault with
    | none => exact .added write read
    | some fault => exact .cutOff write

end Call

/-- All that was recorded before a call is still recorded after it exactly if the call
does not come to its write, a write that fails leaves it there, or a write that succeeds
follows a read without a fault, unless nothing but the call's own info was recorded. -/
theorem history_kept_iff (outcomes : StorageOutcomes) (checkpointId checkpointDir : String)
    (partitionRange : PartitionRange) (file : Option LatestText) :
    (∀ recorded, Recorded file recorded →
      Recorded (completeCheckpoint outcomes checkpointId checkpointDir partitionRange file).2 recorded) ↔
    ∀ timestamp, outcomes.clock = .ok timestamp → outcomes.serializeFault = none → outcomes.mkdirFault = none →
      (∀ fault left, outcomes.writeFault = some (fault, left) → ∀ recorded, Recorded file recorded → Recorded left recorded) ∧
      (outcomes.writeFault = none → outcomes.readFault ≠ none → ∀ recorded, Recorded file recorded →
        recorded = .timed checkpointId checkpointDir partitionRange timestamp) := by
  by_cases early : (∃ error, outcomes.clock = .error error) ∨ outcomes.serializeFault ≠ none ∨ outcomes.mkdirFault ≠ none
  · rw [completeCheckpoint_early early]
    refine iff_of_true (fun _ earlier => earlier) fun timestamp clock serialized made => absurd early ?_
    simp [clock, serialized, made]
  · push Not at early
    obtain ⟨succeeded, serialized, made⟩ := early
    obtain ⟨timestamp, clock⟩ : ∃ timestamp, outcomes.clock = .ok timestamp := by
      cases clock : outcomes.clock with
      | error error => exact absurd clock (succeeded error)
      | ok timestamp => exact ⟨timestamp, rfl⟩
    have written := @completeCheckpoint_written _ checkpointId checkpointDir partitionRange file _ clock serialized made
    generalize (completeCheckpoint outcomes checkpointId checkpointDir partitionRange file).2 = after at written
    simp only [clock, serialized, made, Except.ok.injEq, forall_eq', true_imp_iff]
    cases written with
    | cutOff failed => simp [failed]
    | unparsed refused =>
      have nothing (recorded : CompleteCheckpoint) : ¬ Recorded file recorded := fun ⟨latest, held, _⟩ => refused latest held
      simp [nothing]
    | @added latest wrote read =>
      simp only [wrote, reduceCtorEq, false_imp_iff, implies_true, true_and, true_imp_iff, recorded_some, listedIn_update_iff]
      cases fault : outcomes.readFault with
      | none =>
        refine iff_of_true (fun recorded earlier => .inr ?_) fun faulted => absurd rfl faulted
        obtain ⟨old, held, listed⟩ := earlier
        cases (read_listed fault held).symm.trans read
        exact listed
      | some error =>
        cases (read_faulted (fault ▸ Option.some_ne_none error)).symm.trans read
        simp [not_listedIn_empty]

/-- One transient fault: the call succeeds, and what was recorded is gone. -/
theorem unreadable_history_erased :
    let recorded : CompleteCheckpoint := ⟨"1", ⟨.full, 1000, "operators/count/checkpoints/a"⟩⟩
    let outcomes : StorageOutcomes := ⟨.ok 2000, some (.external "connection reset by peer"), none, none, none⟩
    let file := some (.ok (recorded.update ⟨[]⟩))
    let result := completeCheckpoint outcomes "2" "operators/count/checkpoints/b" .full file
    Recorded file recorded ∧ result.1 = .ok () ∧ ¬ Recorded result.2 recorded := by
  intro recorded outcomes file result
  refine ⟨recorded_some.mpr (by decide), rfl, ?_⟩
  rw [show result.2 = some (.ok _) from rfl, recorded_some]
  decide

end DatafusionRay.Proofs.CheckpointHistory
