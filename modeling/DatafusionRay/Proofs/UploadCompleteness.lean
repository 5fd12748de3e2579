import DatafusionRay.Streaming.CheckpointUpload

/-! Only complete checkpoints are listed. Every file of a local directory is either
copied or still ahead of the walk through its tree, and the walk has nothing ahead
of it once an upload turns to `latest.json`. -/

namespace DatafusionRay.Proofs.UploadCompleteness
open Foundation Streaming Upload

variable {ι : Type} {uploads : ι → Upload}

/-- The accesses that only move the upload on, with what they have seen. -/
inductive PhaseMove (upload : Upload) (file : Option LatestText) : Phase → Phase → Prop where
  | start : PhaseMove upload file .starting .making
  | make : PhaseMove upload file .making (.walking [[]])
  | list {queue current entries} (found : upload.tree.node current = some .directory)
      (listed : (entries.map Prod.fst).Perm (upload.tree.names current)) :
      PhaseMove upload file (.walking (current :: queue)) (.copying queue current entries)
  | leave {queue current} : PhaseMove upload file (.copying queue current []) (.walking queue)
  | descend {queue current name entries} : PhaseMove upload file (.copying queue current ((name, true) :: entries))
      (.copying ((current ++ [name]) :: queue) current entries)
  | read {queue current name entries contents}
      (found : upload.tree.node (current ++ [name]) = some (.file contents)) :
      PhaseMove upload file (.copying queue current ((name, false) :: entries))
        (.writing queue current entries name contents)
  | walked : PhaseMove upload file (.walking []) .completing
  | clock (timestamp) : PhaseMove upload file .completing (.reading timestamp)
  | readLatest {timestamp latest} (intact : Bool)
      (parsed : readLatestJson (if intact then file else none) = .ok latest) :
      PhaseMove upload file (.reading timestamp) (.preparing ((upload.completes timestamp).update latest))
  | prepare {latest} : PhaseMove upload file (.preparing latest) (.storing latest)
  | stop {phase} (unfinished : phase ≠ .finished) : PhaseMove upload file phase .stopped

section Moves
variable [DecidableEq ι]

inductive Move (uploads : ι → Upload) (storage : Storage ι) (upload : ι) : Storage ι → Prop where
  | phase {phase : Phase}
      (moved : PhaseMove (uploads upload) (storage.latestJson (uploads upload).stateId) (storage.phases upload) phase) :
      Move uploads storage upload (storage.enter upload phase)
  | write {queue current entries name contents}
      (read : storage.phases upload = .writing queue current entries name contents) :
      Move uploads storage upload ((storage.writeFile (uploads upload).remoteDir (current ++ [name]) contents).enter upload
        (.copying queue current entries))
  | cutFile (path : RelativePath) (left : Bytes) (unfinished : storage.phases upload ≠ .finished) :
      Move uploads storage upload ((storage.writeFile (uploads upload).remoteDir path left).enter upload .stopped)
  | store {latest} (prepared : storage.phases upload = .storing latest) :
      Move uploads storage upload ((storage.writeLatest (uploads upload).stateId (.ok latest)).enter upload .finished)
  | cutLatest (message : String) (unfinished : storage.phases upload ≠ .finished) :
      Move uploads storage upload ((storage.writeLatest (uploads upload).stateId (.error message)).enter upload .stopped)

theorem step_move {storage next : Storage ι} {action : Action ι} (stepped : step uploads storage action = some next) :
    Move uploads storage action.caller next := by
  cases action with
  | proceed upload =>
    simp only [step] at stepped
    split at stepped
    next held => cases stepped; exact .phase (held ▸ .start)
    next held => cases stepped; exact .phase (held ▸ .make)
    next held => cases stepped; exact .phase (held ▸ .walked)
    next held => cases stepped; exact .phase (held ▸ .leave)
    next held => cases stepped; exact .phase (held ▸ .descend)
    next held =>
      split at stepped
      next found => cases stepped; exact .phase (held ▸ .read found)
      next => cases stepped
    next held => cases stepped; exact .write held
    next held => cases stepped; exact .phase (held ▸ .prepare)
    next held => cases stepped; exact .store held
    next => cases stepped
  | list upload entries =>
    simp only [step] at stepped
    split at stepped
    next held =>
      split at stepped
      next found =>
        split at stepped
        next listed => cases stepped; exact .phase (held ▸ .list found listed)
        next => cases stepped
      next => cases stepped
    next => cases stepped
  | clock upload timestamp =>
    simp only [step] at stepped
    split at stepped
    next held => cases stepped; exact .phase (held ▸ .clock timestamp)
    next => cases stepped
  | readLatest upload intact =>
    simp only [step] at stepped
    split at stepped
    next held =>
      split at stepped
      next parsed => cases stepped; exact .phase (held ▸ .readLatest intact parsed)
      next => cases stepped; exact .phase (held ▸ .stop Phase.noConfusion)
    next => cases stepped
  | cutFile upload left =>
    simp only [step] at stepped
    split at stepped
    next held => cases stepped; exact .cutFile _ left (held ▸ Phase.noConfusion)
    next => cases stepped
  | cutLatest upload message =>
    simp only [step] at stepped
    split at stepped
    next held => cases stepped; exact .cutLatest message (held ▸ Phase.noConfusion)
    next => cases stepped
  | stop upload =>
    simp only [step] at stepped
    split at stepped
    next => cases stepped
    next unfinished => cases stepped; exact .phase (.stop unfinished)

end Moves

section Tree
variable {tree : FileTree String Bytes} {path directory : RelativePath} {contents : Bytes}

theorem below_directory (stored : tree.node path = some (.file contents)) (found : tree.node directory = some .directory)
    (below : directory <+: path) : ∃ name ∈ tree.names directory, directory ++ [name] <+: path := by
  obtain ⟨rest, rfl⟩ := below
  cases rest with
  | nil =>
    rw [List.append_nil, found] at stored
    cases stored
  | cons name rest =>
    rw [List.append_cons] at stored ⊢
    refine ⟨name, FileTree.mem_names.mpr ?_, List.prefix_append _ _⟩
    by_contra absent
    rw [FileTree.none_below_none (Option.not_isSome_iff_eq_none.mp absent)] at stored
    cases stored

theorem below_file {other : Bytes} (stored : tree.node path = some (.file contents))
    (found : tree.node directory = some (.file other)) (below : directory <+: path) : path = directory := by
  obtain ⟨rest, rfl⟩ := below
  by_contra further
  have strictly : rest ≠ [] := by
    rintro rfl
    exact further (List.append_nil _)
  cases (FileTree.none_below found strictly).symm.trans stored

end Tree

/-- The walk through the tree has yet to come to the path. -/
def Ahead : Phase → RelativePath → Prop
  | .starting, _ | .making, _ | .stopped, _ => True
  | .walking queue, path => ∃ directory ∈ queue, directory <+: path
  | .copying queue current entries, path =>
    (∃ directory ∈ queue, directory <+: path) ∨ ∃ entry ∈ entries, current ++ [entry.1] <+: path
  | .writing queue current entries name _, path =>
    current ++ [name] <+: path ∨ (∃ directory ∈ queue, directory <+: path) ∨ ∃ entry ∈ entries, current ++ [entry.1] <+: path
  | .completing, _ | .reading _, _ | .preparing _, _ | .storing _, _ | .finished, _ => False

section PhaseMoves
variable {upload : Upload} {file : Option LatestText} {before after : Phase}

/-- No access other than the write of a file passes a file by. -/
theorem PhaseMove.ahead (moved : PhaseMove upload file before after) {path : RelativePath} {contents : Bytes}
    (stored : upload.tree.node path = some (.file contents)) (pending : Ahead before path) : Ahead after path := by
  cases moved with
  | start => trivial
  | make => exact ⟨[], List.mem_singleton_self _, List.nil_prefix⟩
  | list found listed =>
    obtain ⟨directory, member, below⟩ := pending
    rcases List.mem_cons.mp member with rfl | later
    · obtain ⟨name, known, further⟩ := below_directory stored found below
      obtain ⟨entry, inside, rfl⟩ := List.mem_map.mp (listed.mem_iff.mpr known)
      exact .inr ⟨entry, inside, further⟩
    · exact .inl ⟨directory, later, below⟩
  | leave =>
    rcases pending with queued | ⟨entry, member, -⟩
    · exact queued
    · cases member
  | descend =>
    rcases pending with ⟨directory, member, below⟩ | ⟨entry, member, below⟩
    · exact .inl ⟨directory, List.mem_cons_of_mem _ member, below⟩
    · rcases List.mem_cons.mp member with rfl | later
      · exact .inl ⟨_, List.mem_cons_self, below⟩
      · exact .inr ⟨entry, later, below⟩
  | read found =>
    rcases pending with queued | ⟨entry, member, below⟩
    · exact .inr (.inl queued)
    · rcases List.mem_cons.mp member with rfl | later
      · exact .inl below
      · exact .inr (.inr ⟨entry, later, below⟩)
  | walked =>
    obtain ⟨directory, member, -⟩ := pending
    cases member
  | clock => exact pending
  | readLatest => exact pending
  | prepare => exact pending
  | stop => trivial

theorem PhaseMove.unfinished (moved : PhaseMove upload file before after) : before ≠ .finished := by
  cases moved with
  | stop unfinished => exact unfinished
  | _ => exact Phase.noConfusion

/-- An upload that has stopped does not go on. -/
theorem PhaseMove.going (moved : PhaseMove upload file before after) (going : after ≠ .stopped) : before ≠ .stopped := by
  cases moved with
  | stop => exact absurd rfl going
  | _ => exact Phase.noConfusion

private theorem PhaseMove.writing (moved : PhaseMove upload file before after) {queue current entries name contents}
    (reached : after = .writing queue current entries name contents) :
    upload.tree.node (current ++ [name]) = some (.file contents) := by
  cases moved with
  | read found =>
    cases reached
    exact found
  | _ => cases reached

theorem PhaseMove.preparing (moved : PhaseMove upload file before after) {latest : LatestCheckpoints}
    (reached : after = .preparing latest ∨ after = .storing latest) :
    before = .preparing latest ∨ ∃ timestamp, ∃ intact : Bool, ∃ seen, before = .reading timestamp ∧
      readLatestJson (if intact then file else none) = .ok seen ∧ latest = (upload.completes timestamp).update seen := by
  cases moved with
  | readLatest intact parsed =>
    rcases reached with same | same <;> cases same
    exact .inr ⟨_, intact, _, rfl, parsed, rfl⟩
  | prepare =>
    rcases reached with same | same <;> cases same
    exact .inl rfl
  | _ => rcases reached with same | same <;> cases same

end PhaseMoves

/-- Everything that is listed comes from an upload of the operator, out of those that are allowed. -/
def ListsOnly (uploads : ι → Upload) (allowed : ι → Prop) (stateId : String) (latest : LatestCheckpoints) : Prop :=
  ∀ call : CompleteCheckpoint, call.ListedIn latest →
    ∃ maker timestamp, (uploads maker).stateId = stateId ∧ call = (uploads maker).completes timestamp ∧ allowed maker

theorem ListsOnly.mono {allowed permitted : ι → Prop} {stateId : String} {latest : LatestCheckpoints}
    (lists : ListsOnly uploads allowed stateId latest) (wider : ∀ maker, allowed maker → permitted maker) :
    ListsOnly uploads permitted stateId latest := by
  intro call listed
  obtain ⟨maker, timestamp, operator, made, held⟩ := lists call listed
  exact ⟨maker, timestamp, operator, made, wider maker held⟩

/-- What is known of one upload. Nothing but files of its tree is in its directory,
unless a write has failed. -/
structure Follows (uploads : ι → Upload) (storage : Storage ι) (upload : ι) : Prop where
  covered : ∀ path contents, (uploads upload).tree.node path = some (.file contents) →
    storage.files (uploads upload).remoteDir path = some contents ∨ Ahead (storage.phases upload) path
  only : storage.phases upload ≠ .stopped → ∀ path contents,
    storage.files (uploads upload).remoteDir path = some contents → (uploads upload).tree.node path = some (.file contents)
  read : ∀ queue current entries name contents, storage.phases upload = .writing queue current entries name contents →
    (uploads upload).tree.node (current ++ [name]) = some (.file contents)
  prepared : ∀ latest, storage.phases upload = .preparing latest ∨ storage.phases upload = .storing latest →
    ListsOnly uploads (fun maker => maker = upload ∨ storage.phases maker = .finished) (uploads upload).stateId latest

structure Sound (uploads : ι → Upload) (storage : Storage ι) : Prop where
  follows : ∀ upload, Follows uploads storage upload
  listed : ∀ stateId latest, storage.latestJson stateId = some (.ok latest) →
    ListsOnly uploads (fun maker => storage.phases maker = .finished) stateId latest

/-- An upload that has walked its tree to the end has copied its files and nothing else. -/
theorem Follows.copied {storage : Storage ι} {upload : ι} (follows : Follows uploads storage upload)
    (passed : ∀ path, ¬ Ahead (storage.phases upload) path) (path : RelativePath) :
    storage.files (uploads upload).remoteDir path = (uploads upload).tree.fileAt path := by
  have going : storage.phases upload ≠ .stopped := by
    intro stopped
    apply passed []
    rw [stopped]
    trivial
  apply Option.ext
  intro contents
  rw [FileTree.fileAt_eq_some]
  constructor
  · exact follows.only going path contents
  · intro stored
    exact (follows.covered path contents stored).resolve_right (passed path)

section Frames
variable {storage next : Storage ι} {upload : ι}

theorem writeFile_elsewhere {directory other : String} {path : RelativePath} {contents : Bytes} (different : other ≠ directory) :
    (storage.writeFile directory path contents).files other = storage.files other :=
  Function.update_of_ne different ..

theorem writeFile_here {directory : String} {path : RelativePath} {contents : Bytes} (other : RelativePath) :
    (storage.writeFile directory path contents).files directory other =
      if other = path then some contents else storage.files directory other := by
  rw [Storage.writeFile]
  dsimp only
  rw [Function.update_self, Function.update_apply]

/-- What a move leaves alone. -/
structure Frame (uploads : ι → Upload) (storage : Storage ι) (upload : ι) (next : Storage ι) : Prop where
  unfinished : storage.phases upload ≠ .finished
  phases : ∀ other, other ≠ upload → next.phases other = storage.phases other
  files : ∀ directory, directory ≠ (uploads upload).remoteDir → next.files directory = storage.files directory

theorem Frame.finished (frame : Frame uploads storage upload next) {maker : ι} (done : storage.phases maker = .finished) :
    next.phases maker = .finished := by
  rw [frame.phases maker]
  · exact done
  · rintro rfl
    exact frame.unfinished done

/-- The others go on as they did. -/
theorem Follows.frame (distinct : Function.Injective fun upload => (uploads upload).remoteDir) {other : ι}
    (follows : Follows uploads storage other) (frame : Frame uploads storage upload next) (different : other ≠ upload) :
    Follows uploads next other := by
  have phase := frame.phases other different
  have files := frame.files (uploads other).remoteDir fun same => different (distinct same)
  refine ⟨?_, ?_, ?_, ?_⟩
  · rw [phase, files]
    exact follows.covered
  · rw [phase, files]
    exact follows.only
  · rw [phase]
    exact follows.read
  · intro latest held
    rw [phase] at held
    exact (follows.prepared latest held).mono fun maker => Or.imp_right frame.finished

/-- An upload that is neither between a read and a write nor about to list anything. -/
private theorem Follows.settled (covered : ∀ path contents, (uploads upload).tree.node path = some (.file contents) →
      next.files (uploads upload).remoteDir path = some contents ∨ Ahead (next.phases upload) path)
    (only : next.phases upload ≠ .stopped → ∀ path contents,
      next.files (uploads upload).remoteDir path = some contents → (uploads upload).tree.node path = some (.file contents))
    (reads : ∀ queue current entries name contents, next.phases upload ≠ .writing queue current entries name contents)
    (prepares : ∀ latest, next.phases upload ≠ .preparing latest ∧ next.phases upload ≠ .storing latest) :
    Follows uploads next upload where
  covered := covered
  only := only
  read queue current entries name contents held := absurd held (reads queue current entries name contents)
  prepared latest held := held.elim (fun same => absurd same (prepares latest).1) fun same => absurd same (prepares latest).2

private theorem Follows.stopped (reached : next.phases upload = .stopped) : Follows uploads next upload := by
  apply Follows.settled
  · intro _ _ _
    rw [reached]
    exact .inr trivial
  · exact fun going => absurd reached going
  · rw [reached]
    exact fun _ _ _ _ _ => Phase.noConfusion
  · rw [reached]
    exact fun _ => ⟨Phase.noConfusion, Phase.noConfusion⟩

/-- A directory that is listed belongs to an upload that has been completed, so that the
files of its tree are there and no others. -/
theorem Sound.complete (sound : Sound uploads storage) {stateId : String} {latest : LatestCheckpoints}
    (stored : storage.latestJson stateId = some (.ok latest)) {call : CompleteCheckpoint} (listed : call.ListedIn latest) :
    ∃ maker timestamp, (uploads maker).stateId = stateId ∧ call = (uploads maker).completes timestamp ∧
      ∀ path, storage.files (uploads maker).remoteDir path = (uploads maker).tree.fileAt path := by
  obtain ⟨maker, timestamp, operator, made, finished⟩ := sound.listed stateId latest stored call listed
  refine ⟨maker, timestamp, operator, made, (sound.follows maker).copied fun path => ?_⟩
  rw [finished]
  exact id

end Frames

section Sound
variable [DecidableEq ι] {storage next : Storage ι} {upload : ι}

@[simp] theorem enter_self (upload : ι) (phase : Phase) : (storage.enter upload phase).phases upload = phase :=
  Function.update_self ..

theorem enter_other {other : ι} (phase : Phase) (different : other ≠ upload) :
    (storage.enter upload phase).phases other = storage.phases other :=
  Function.update_of_ne different ..

theorem Move.frame (moved : Move uploads storage upload next) : Frame uploads storage upload next := by
  cases moved with
  | phase moved => exact ⟨moved.unfinished, fun _ => enter_other _, fun _ _ => rfl⟩
  | write read => exact ⟨read ▸ Phase.noConfusion, fun _ => enter_other _, fun _ => writeFile_elsewhere⟩
  | cutFile path left unfinished => exact ⟨unfinished, fun _ => enter_other _, fun _ => writeFile_elsewhere⟩
  | store prepared => exact ⟨prepared ▸ Phase.noConfusion, fun _ => enter_other _, fun _ _ => rfl⟩
  | cutLatest message unfinished => exact ⟨unfinished, fun _ => enter_other _, fun _ _ => rfl⟩

theorem Sound.phase (sound : Sound uploads storage) {phase : Phase}
    (moved : PhaseMove (uploads upload) (storage.latestJson (uploads upload).stateId) (storage.phases upload) phase) :
    Follows uploads (storage.enter upload phase) upload := by
  have follows := sound.follows upload
  have done (maker : ι) (finished : storage.phases maker = .finished) :
      (storage.enter upload phase).phases maker = .finished := (Move.phase moved).frame.finished finished
  constructor
  · intro path contents stored
    rw [enter_self]
    exact (follows.covered path contents stored).imp_right (moved.ahead stored)
  · intro going
    rw [enter_self] at going
    exact follows.only (moved.going going)
  · intro queue current entries name contents reached
    rw [enter_self] at reached
    exact moved.writing reached
  · intro latest reached
    rw [enter_self] at reached
    rcases moved.preparing reached with before | ⟨timestamp, intact, seen, -, parsed, rfl⟩
    · exact (follows.prepared latest (.inl before)).mono fun maker => Or.imp_right (done maker)
    · intro call listed
      rcases CompleteCheckpoint.listedIn_update_iff.mp listed with rfl | earlier
      · exact ⟨upload, timestamp, rfl, rfl, .inl rfl⟩
      · rcases readLatestJson_eq_ok.mp parsed with ⟨-, rfl⟩ | text
        · obtain ⟨entry, member, -⟩ := earlier
          cases member
        · cases intact with
          | false => cases text
          | true => exact (sound.listed _ seen text).mono (fun maker held => .inr (done maker held)) call earlier

theorem Sound.write (sound : Sound uploads storage) {queue current entries name contents}
    (held : storage.phases upload = .writing queue current entries name contents) :
    Follows uploads ((storage.writeFile (uploads upload).remoteDir (current ++ [name]) contents).enter upload
      (.copying queue current entries)) upload := by
  have follows := sound.follows upload
  have found := follows.read _ _ _ _ _ held
  apply Follows.settled
  · intro path kept stored
    change (storage.writeFile _ _ _).files _ path = _ ∨ _
    rw [writeFile_here, enter_self]
    split
    next here =>
      cases here
      cases found.symm.trans stored
      exact .inl rfl
    next elsewhere =>
      rcases follows.covered path kept stored with copied | pending
      · exact .inl copied
      · rw [held] at pending
        rcases pending with below | further
        · exact absurd (below_file stored found below) elsewhere
        · exact .inr further
  · intro _ path kept written
    change (storage.writeFile _ _ _).files _ path = _ at written
    rw [writeFile_here] at written
    split at written
    next here =>
      cases here
      cases written
      exact found
    next => exact follows.only (held ▸ Phase.noConfusion) path kept written
  · rw [enter_self]
    exact fun _ _ _ _ _ => Phase.noConfusion
  · rw [enter_self]
    exact fun _ => ⟨Phase.noConfusion, Phase.noConfusion⟩

theorem Sound.store (sound : Sound uploads storage) {latest : LatestCheckpoints}
    (held : storage.phases upload = .storing latest) :
    Follows uploads ((storage.writeLatest (uploads upload).stateId (.ok latest)).enter upload .finished) upload := by
  have follows := sound.follows upload
  apply Follows.settled
  · intro path contents stored
    refine .inl ((follows.covered path contents stored).resolve_right ?_)
    rw [held]
    exact id
  · exact fun _ => follows.only (held ▸ Phase.noConfusion)
  · rw [enter_self]
    exact fun _ _ _ _ _ => Phase.noConfusion
  · rw [enter_self]
    exact fun _ => ⟨Phase.noConfusion, Phase.noConfusion⟩

theorem Sound.move (sound : Sound uploads storage) (moved : Move uploads storage upload next) :
    Follows uploads next upload := by
  cases moved with
  | phase moved => exact sound.phase moved
  | write read => exact sound.write read
  | store prepared => exact sound.store prepared
  | cutFile | cutLatest => exact .stopped (enter_self _ _)

theorem Sound.listing (sound : Sound uploads storage) (moved : Move uploads storage upload next) {stateId : String}
    {latest : LatestCheckpoints} (stored : next.latestJson stateId = some (.ok latest)) :
    ListsOnly uploads (fun maker => next.phases maker = .finished) stateId latest := by
  have done (maker : ι) : storage.phases maker = .finished → next.phases maker = .finished := moved.frame.finished
  have kept (same : storage.latestJson stateId = some (.ok latest)) :
      ListsOnly uploads (fun maker => next.phases maker = .finished) stateId latest :=
    (sound.listed stateId latest same).mono done
  cases moved with
  | phase | write | cutFile => exact kept stored
  | store prepared =>
    change Function.update storage.latestJson _ _ stateId = _ at stored
    by_cases own : stateId = (uploads upload).stateId
    · subst own
      rw [Function.update_self] at stored
      cases stored
      refine ((sound.follows upload).prepared latest (.inr prepared)).mono fun maker allowed => ?_
      rcases allowed with rfl | finished
      · exact enter_self _ _
      · exact done maker finished
    · rw [Function.update_of_ne own] at stored
      exact kept stored
  | cutLatest message =>
    change Function.update storage.latestJson _ _ stateId = _ at stored
    by_cases own : stateId = (uploads upload).stateId
    · subst own
      rw [Function.update_self] at stored
      cases stored
    · rw [Function.update_of_ne own] at stored
      exact kept stored

theorem step_sound (distinct : Function.Injective fun upload => (uploads upload).remoteDir) {action : Action ι}
    (stepped : step uploads storage action = some next) (sound : Sound uploads storage) : Sound uploads next := by
  have moved := step_move stepped
  refine ⟨fun other => ?_, fun _ _ => sound.listing moved⟩
  by_cases own : other = action.caller
  · subst own
    exact sound.move moved
  · exact (sound.follows other).frame distinct moved.frame own

theorem run_sound (distinct : Function.Injective fun upload => (uploads upload).remoteDir) {actions : List (Action ι)}
    (executed : run (step uploads) emptyStorage actions = some storage) : Sound uploads storage := by
  apply run_preserves (fun _ _ _ => step_sound distinct) executed
  constructor
  · intro upload
    apply Follows.settled
    · exact fun _ _ _ => .inr trivial
    · intro _ _ _ impossible
      cases impossible
    · exact fun _ _ _ _ _ => Phase.noConfusion
    · exact fun _ => ⟨Phase.noConfusion, Phase.noConfusion⟩
  · intro _ _ impossible
    cases impossible

/-- In every reachable state a listed directory belongs to an upload, and it has all
files of the tree that was uploaded, at their paths and with their contents. -/
theorem listed_checkpoints_complete (distinct : Function.Injective fun upload => (uploads upload).remoteDir)
    {actions : List (Action ι)} (executed : run (step uploads) emptyStorage actions = some storage) {stateId : String}
    {latest : LatestCheckpoints} (stored : storage.latestJson stateId = some (.ok latest)) {entry : CheckpointEntry}
    {info : PartitionInfo} (listed : entry ∈ latest.completedCheckpoints) (recorded : info ∈ entry.partitions) :
    ∃ upload, (uploads upload).remoteDir = info.checkpointDir ∧
      ∀ path contents, (uploads upload).tree.node path = some (.file contents) →
        storage.files info.checkpointDir path = some contents := by
  have inside : CompleteCheckpoint.ListedIn ⟨entry.id, info⟩ latest := ⟨entry, listed, rfl, recorded⟩
  obtain ⟨maker, timestamp, -, made, copied⟩ := (run_sound distinct executed).complete stored inside
  obtain ⟨-, rfl⟩ := CompleteCheckpoint.mk.inj made
  exact ⟨maker, rfl, fun path contents file => (copied path).trans (FileTree.fileAt_eq_some.mpr file)⟩

end Sound

/-- A database directory with one file of its own and one in a directory. -/
def databaseTree : FileTree String Bytes :=
  ((FileTree.empty.makeDirectories ["archive"]).putFile [] "CURRENT" [1] rfl (by decide)).putFile ["archive"] "000001.log" [2, 3]
    rfl (by decide)

def twoUploads : Bool → Upload
  | false => ⟨"count", "1", .full, "operators/count/checkpoints/a", databaseTree⟩
  | true => ⟨"count", "2", .full, "operators/count/checkpoints/b", databaseTree⟩

/-- The first upload is listed while the second one has stopped after its first file. -/
def interleaved : List (Action Bool) :=
  [.proceed false, .proceed true, .proceed false, .proceed true,
    .list false [("archive", true), ("CURRENT", false)], .list true [("CURRENT", false), ("archive", true)],
    .proceed true, .proceed true, .stop true,
    .proceed false, .proceed false, .proceed false, .proceed false, .list false [("000001.log", false)],
    .proceed false, .proceed false, .proceed false, .proceed false,
    .clock false 1000, .readLatest false true, .proceed false, .proceed false]

theorem interleaved_uploads_complete :
    ∃ storage latest entry info, run (step twoUploads) emptyStorage interleaved = some storage ∧
      storage.latestJson "count" = some (.ok latest) ∧ entry ∈ latest.completedCheckpoints ∧ info ∈ entry.partitions ∧
      storage.phases true = .stopped ∧
      ∃ upload, (twoUploads upload).remoteDir = info.checkpointDir ∧
        ∀ path contents, (twoUploads upload).tree.node path = some (.file contents) →
          storage.files info.checkpointDir path = some contents := by
  have distinct : Function.Injective fun upload => (twoUploads upload).remoteDir := by decide
  have reached : (run (step twoUploads) emptyStorage interleaved).map
      (fun storage => (storage.latestJson "count", storage.phases true)) =
      some (some (.ok ⟨[⟨"1", [⟨.full, 1000, "operators/count/checkpoints/a"⟩]⟩]⟩), .stopped) := by decide
  obtain ⟨storage, executed, seen⟩ := Option.map_eq_some_iff.mp reached
  obtain ⟨stored, stopped⟩ := Prod.mk.inj seen
  refine ⟨storage, _, _, _, executed, stored, List.mem_singleton_self _, List.mem_singleton_self _, stopped, ?_⟩
  exact listed_checkpoints_complete distinct executed stored (List.mem_singleton_self _) (List.mem_singleton_self _)

end DatafusionRay.Proofs.UploadCompleteness
