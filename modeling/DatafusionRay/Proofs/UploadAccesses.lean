import DatafusionRay.Proofs.DirectoryCopy
import DatafusionRay.Proofs.UploadCompleteness

/-! The accesses of an upload put together. Its walk leaves the files that
`copy_dir_between_systems` leaves, the accesses after the walk do what
`complete_checkpoint` does in one call, and a whole upload that nobody disturbs is the
single step that it is for the operators. -/

namespace DatafusionRay.Proofs.UploadAccesses
open Foundation Streaming Upload UploadCompleteness DirectoryCopy

variable {ι κ : Type} {uploads : ι → Upload} {storage : Storage ι} {upload : ι}

theorem copied_like_directory [DecidableEq κ] {call : CopyCall κ String} {machines after : κ → Machine String} {fuel : Nat}
    (tree : (machines call.sourceMachine).disk.node call.origin = some .directory) (separate : call.Separate)
    (fresh : call.Fresh machines) (ran : call.run fuel machines = some (.ok (), after))
    (sound : Sound uploads storage) (walked : storage.phases upload = .completing)
    (same : ∀ path, (uploads upload).tree.node path = (machines call.sourceMachine).disk.node (call.origin ++ path))
    (path : RelativePath) :
    storage.files (uploads upload).remoteDir path = (after call.destMachine).disk.fileAt (call.target ++ path) := by
  have copied := (run_copied tree separate fresh ran).contents path
  rw [(sound.follows upload).copied fun path => by rw [walked]; exact id, FileTree.fileAt, FileTree.fileAt, same, copied]

/-- The directory is in the file of some operator. -/
def Listed (storage : Storage ι) (directory : String) : Prop :=
  ∃ stateId latest, ∃ call : CompleteCheckpoint, storage.latestJson stateId = some (.ok latest) ∧ call.ListedIn latest ∧
    call.partitionInfo.checkpointDir = directory

/-- The storage as the operators see it: every file parses, and RocksDB opens each listed
directory with the database of that directory. -/
structure Shows (opens : (RelativePath → Option Bytes) → Option Db) (storage : Storage ι) (remote : RemoteStorage) : Prop where
  latestJson : ∀ stateId, storage.latestJson stateId = (remote.latestJson stateId).map .ok
  directories : ∀ directory, Listed storage directory → remote.directories directory = opens (storage.files directory)

/-- A directory that is listed after an upload was listed before it, or is its own. -/
theorem Shows.listed_before {opens : (RelativePath → Option Bytes) → Option Db} {remote : RemoteStorage} {last : Storage ι}
    {call : CompleteCheckpoint} {stateId directory : String} (shows : Shows opens storage remote)
    (file : last.latestJson = Function.update storage.latestJson stateId
      (some (.ok (call.update (checkpointsIn (remote.latestJson stateId))))))
    (listed : Listed last directory) (other : directory ≠ call.partitionInfo.checkpointDir) : Listed storage directory := by
  obtain ⟨operator, latest, listing, stored, member, rfl⟩ := listed
  rw [file] at stored
  by_cases same : operator = stateId
  · subst same
    rw [Function.update_self] at stored
    cases stored
    rcases CompleteCheckpoint.listedIn_update_iff.mp member with rfl | earlier
    · exact absurd rfl other
    · cases before : remote.latestJson operator with
      | none =>
        rw [before] at earlier
        obtain ⟨entry, inside, -⟩ := earlier
        cases inside
      | some latest =>
        rw [before] at earlier
        refine ⟨operator, latest, listing, ?_, earlier, rfl⟩
        rw [shows.latestJson, before]
        rfl
  · rw [Function.update_of_ne same] at stored
    exact ⟨operator, latest, listing, stored, member, rfl⟩

variable [DecidableEq ι]

/-- The accesses after the walk, if none is refused but perhaps the read of `latest.json`. -/
def completion (upload : ι) (timestamp : Nat) (intact parses : Bool) : List (Action ι) :=
  [.clock upload timestamp, .readLatest upload intact] ++ if parses then [.proceed upload, .proceed upload] else []

private theorem readFile_toOption (timestamp : Nat) (fault : Option DataFusionError) (file : Option LatestText) :
    (StorageOutcomes.readFile ⟨.ok timestamp, fault, none, none, none⟩ file).toOption =
      if fault.isNone = true then file else none := by
  cases fault with
  | some fault => rfl
  | none => cases file <;> rfl

section Completion
variable {timestamp : Nat} {intact : Bool}

private theorem step_clock (walked : storage.phases upload = .completing) :
    step uploads storage (.clock upload timestamp) = some (storage.enter upload (.reading timestamp)) := by
  simp only [step, walked]

private theorem step_readLatest (reading : storage.phases upload = .reading timestamp) {latest : LatestCheckpoints}
    (parsed : readLatestJson (if intact = true then storage.latestJson (uploads upload).stateId else none) = .ok latest) :
    step uploads storage (.readLatest upload intact) =
      some (storage.enter upload (.preparing (((uploads upload).completes timestamp).update latest))) := by
  simp only [step, reading, parsed]

private theorem step_readLatest_error (reading : storage.phases upload = .reading timestamp) {error : DataFusionError}
    (unparsed : readLatestJson (if intact = true then storage.latestJson (uploads upload).stateId else none) = .error error) :
    step uploads storage (.readLatest upload intact) = some (storage.enter upload .stopped) := by
  simp only [step, reading, unparsed]

private theorem step_prepare {latest : LatestCheckpoints} (preparing : storage.phases upload = .preparing latest) :
    step uploads storage (.proceed upload) = some (storage.enter upload (.storing latest)) := by
  simp only [step, preparing]

private theorem step_store {latest : LatestCheckpoints} (storing : storage.phases upload = .storing latest) :
    step uploads storage (.proceed upload) =
      some ((storage.writeLatest (uploads upload).stateId (.ok latest)).enter upload .finished) := by
  simp only [step, storing]

theorem run_completion_ok (walked : storage.phases upload = .completing) {latest : LatestCheckpoints}
    (parsed : readLatestJson (if intact = true then storage.latestJson (uploads upload).stateId else none) = .ok latest) :
    ∃ last, run (step uploads) storage (completion upload timestamp intact true) = some last ∧
      last.phases upload = .finished ∧ last.files = storage.files ∧ last.latestJson = Function.update storage.latestJson
        (uploads upload).stateId (some (.ok (((uploads upload).completes timestamp).update latest))) := by
  have clock := @step_clock _ uploads _ _ _ timestamp walked
  have read := @step_readLatest _ uploads _ _ _ _ intact (enter_self upload (.reading timestamp)) _ parsed
  have prepare := @step_prepare _ uploads _ _ _ _ (@enter_self _ _ ((storage.enter upload (.reading timestamp))) upload
    (.preparing (((uploads upload).completes timestamp).update latest)))
  have store := @step_store _ uploads _ _ _ _ (@enter_self _ _ ((storage.enter upload (.reading timestamp)).enter upload
    (.preparing (((uploads upload).completes timestamp).update latest))) upload
    (.storing (((uploads upload).completes timestamp).update latest)))
  refine ⟨_, run_cons_eq_some.mpr ⟨_, clock, run_cons_eq_some.mpr ⟨_, read, run_cons_eq_some.mpr ⟨_, prepare,
    run_cons_eq_some.mpr ⟨_, store, rfl⟩⟩⟩⟩, enter_self _ _, rfl, rfl⟩

theorem run_completion_error (walked : storage.phases upload = .completing) {error : DataFusionError}
    (unparsed : readLatestJson (if intact = true then storage.latestJson (uploads upload).stateId else none) = .error error) :
    ∃ last, run (step uploads) storage (completion upload timestamp intact false) = some last ∧
      last.phases upload = .stopped ∧ last.files = storage.files ∧ last.latestJson = storage.latestJson := by
  have clock := @step_clock _ uploads _ _ _ timestamp walked
  have read := @step_readLatest_error _ uploads _ _ _ _ intact (enter_self upload (.reading timestamp)) _ unparsed
  exact ⟨_, run_cons_eq_some.mpr ⟨_, clock, run_cons_eq_some.mpr ⟨_, read, rfl⟩⟩, enter_self _ _, rfl, rfl⟩

end Completion

/-- Undisturbed, the accesses after the walk return what `complete_checkpoint` returns and
leave the file that it leaves, whatever the file was and even if it cannot be read. -/
theorem completion_like_call (walked : storage.phases upload = .completing) (timestamp : Nat) (fault : Option DataFusionError) :
    ∃ last parses, run (step uploads) storage (completion upload timestamp fault.isNone parses) = some last ∧
      last.files = storage.files ∧
      last.latestJson = Function.update storage.latestJson (uploads upload).stateId
        (completeCheckpoint ⟨.ok timestamp, fault, none, none, none⟩ (uploads upload).checkpointId (uploads upload).remoteDir
          (uploads upload).partitionRange (storage.latestJson (uploads upload).stateId)).2 ∧
      (last.phases upload = .finished ↔
        (completeCheckpoint ⟨.ok timestamp, fault, none, none, none⟩ (uploads upload).checkpointId (uploads upload).remoteDir
          (uploads upload).partitionRange (storage.latestJson (uploads upload).stateId)).1 = .ok ()) := by
  have seen := readFile_toOption timestamp fault (storage.latestJson (uploads upload).stateId)
  simp only [completeCheckpoint, seen]
  cases parsed : readLatestJson (if fault.isNone = true then storage.latestJson (uploads upload).stateId else none) with
  | ok latest =>
    obtain ⟨last, ran, finished, files, file⟩ := @run_completion_ok _ uploads _ _ _ timestamp _ walked _ parsed
    exact ⟨last, true, ran, files, file, iff_of_true finished rfl⟩
  | error error =>
    obtain ⟨last, ran, stopped, files, file⟩ := @run_completion_error _ uploads _ _ _ timestamp _ walked _ parsed
    refine ⟨last, false, ran, files, ?_, iff_of_false ?_ ?_⟩
    · rw [file, Function.update_eq_self]
    · rw [stopped]
      exact Phase.noConfusion
    · exact fun impossible => Except.noConfusion rfl rfl (heq_of_eq impossible)

/-- An upload that nobody disturbs after its walk is the upload of a snapshot in one step. -/
theorem Shows.uploaded {opens : (RelativePath → Option Bytes) → Option Db} {remote : RemoteStorage} {snapshot : Db}
    (shows : Shows opens storage remote) (sound : Sound uploads storage) (walked : storage.phases upload = .completing)
    (saved : opens (uploads upload).tree.fileAt = some snapshot) (timestamp : Nat) :
    ∃ last, run (step uploads) storage (completion upload timestamp true true) = some last ∧
      Shows opens last (remote.upload (uploads upload).stateId ((uploads upload).completes timestamp) snapshot) := by
  have parsed : readLatestJson (if true = true then storage.latestJson (uploads upload).stateId else none) =
      .ok (checkpointsIn (remote.latestJson (uploads upload).stateId)) := by
    rw [if_pos rfl, shows.latestJson, readLatestJson_map_ok]
  obtain ⟨last, ran, -, files, file⟩ := @run_completion_ok _ uploads _ _ _ timestamp true walked _ parsed
  have copied : storage.files (uploads upload).remoteDir = (uploads upload).tree.fileAt :=
    funext ((sound.follows upload).copied fun path => by rw [walked]; exact id)
  refine ⟨last, ran, fun stateId => ?_, fun directory listed => ?_⟩
  · rw [file, RemoteStorage.upload]
    dsimp only
    by_cases own : stateId = (uploads upload).stateId
    · rw [own, Function.update_self, Function.update_self]
      rfl
    · rw [Function.update_of_ne own, Function.update_of_ne own]
      exact shows.latestJson stateId
  · rw [RemoteStorage.upload, files]
    dsimp only
    change Function.update remote.directories (uploads upload).remoteDir _ directory = _
    by_cases own : directory = (uploads upload).remoteDir
    · rw [own, Function.update_self, copied, saved]
    · rw [Function.update_of_ne own]
      apply shows.directories
      exact shows.listed_before (by rw [file]) listed own

end DatafusionRay.Proofs.UploadAccesses
