import DatafusionRay.Streaming.CheckpointStorage

/-! Concurrent `complete_checkpoint` calls on one `latest.json`. The file keeps
the infos of all of them exactly when no call writes over a change made after
its own read. -/

namespace DatafusionRay.Proofs.CheckpointRace
open Streaming Foundation ReadModifyWrite

variable {ι : Type}

private theorem updates_accumulate (calls : ι → CompleteCheckpoint) :
    Accumulates checkpointsIn (fun caller latest => some ((calls caller).update latest))
      (fun latest caller => (calls caller).ListedIn latest) where
  adds _ _ := CompleteCheckpoint.listedIn_update_iff.mpr (.inl rfl)
  keeps _ _ _ listed := CompleteCheckpoint.listedIn_update_iff.mpr (.inr listed)

private theorem updates_identify {calls : ι → CompleteCheckpoint} (distinct : Function.Injective calls) :
    Identifies checkpointsIn (fun caller latest => some ((calls caller).update latest))
      (fun latest caller => (calls caller).ListedIn latest) where
  only _ _ _ listed := (CompleteCheckpoint.listedIn_update_iff.mp listed).imp_left fun same => distinct same

/-- Once all calls have returned, fresh writes leave all of them listed; and if
the calls differ from each other and from what the file held, nothing less does. -/
theorem completed_checkpoints_listed [DecidableEq ι] (calls : ι → CompleteCheckpoint) (file : Option LatestCheckpoints)
    (actions : List ι) (last : LatestJson ι)
    (executed : run (completeStep calls) (start file) actions = some last)
    (returned : ∀ caller, last.phases caller = .returned) :
    (Guarded (completeStep calls) (Fresh checkpointsIn) (start file) actions →
      ∀ caller, (calls caller).ListedIn (checkpointsIn last.register)) ∧
    (Function.Injective calls → (∀ caller, ¬ (calls caller).ListedIn (checkpointsIn file)) →
      (∀ caller, (calls caller).ListedIn (checkpointsIn last.register)) →
      Guarded (completeStep calls) (Fresh checkpointsIn) (start file) actions) := by
  refine ⟨fun fresh caller => ?_, fun distinct unlisted complete => ?_⟩
  · exact fresh_lists (updates_accumulate calls) executed fresh (returned caller)
  · exact listed_fresh (updates_identify distinct) executed unlisted complete

def twoWorkers : Bool → CompleteCheckpoint
  | false => ⟨"1", ⟨⟨0, 17, 34⟩, 1000, "operators/count/checkpoints/a"⟩⟩
  | true => ⟨"1", ⟨⟨17, 34, 34⟩, 1000, "operators/count/checkpoints/b"⟩⟩

theorem completed_checkpoints_listed_in_turn :
    ∃ last, run (completeStep twoWorkers) (start none) [false, false, true, true] = some last ∧
      ∀ caller, (twoWorkers caller).ListedIn (checkpointsIn last.register) := by
  refine ⟨_, rfl, (completed_checkpoints_listed twoWorkers none [false, false, true, true] _ rfl ?_).1 ?_⟩
  · decide
  · decide

/-- Both workers read before either writes: the second write drops the first worker's half. -/
theorem concurrent_checkpoint_lost :
    (run (completeStep twoWorkers) (start none) [false, true, false, true]).map
      (fun last => (last.phases false, last.phases true,
        decide ((twoWorkers false).ListedIn (checkpointsIn last.register)))) =
      some (.returned, .returned, false) := by decide

end DatafusionRay.Proofs.CheckpointRace
