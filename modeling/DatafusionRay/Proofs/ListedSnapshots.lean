import DatafusionRay.Proofs.BackgroundUploads

/-! A backend writes on while its checkpoints are on their way to a storage that others use
at the same time. What `latest.json` lists of them has, file by file, what RocksDB wrote for
the database at the moment of the checkpoint. -/

namespace DatafusionRay.Proofs.ListedSnapshots
open Streaming Foundation SharedSync BackgroundUploads UploadCompleteness

variable {ι : Type} [DecidableEq ι] {setting : Setting ι}

section Moves

inductive SharedMove (setting : Setting ι) (shared : SharedSync ι) : Action ι → SharedSync ι → Prop where
  | own {action sync} (stepped : shared.sync.step action = some sync) (same : sync.uploading = shared.sync.uploading) :
      SharedMove setting shared (.own action) { shared with sync }
  | begin {upload sync request} (stepped : shared.sync.step .receive = some sync) (received : sync.uploading = some request)
      (serves : setting.Serves shared request upload) :
      SharedMove setting shared (.begin upload)
        { shared with sync, current := some upload, attempts := shared.attempts ++ [(request, upload)] }
  | access {action storage} (allowed : setting.mine action.caller = false ∨ shared.current = some action.caller)
      (stepped : Upload.step setting.uploads shared.storage action = some storage) :
      SharedMove setting shared (.access action) { shared with storage }
  | finish {upload sync} (held : shared.current = some upload) (stepped : shared.sync.step .finish = some sync) :
      SharedMove setting shared .finish { shared with sync, current := none }

variable {shared next : SharedSync ι} {action : Action ι}

theorem sharedMove_of_step (stepped : step setting shared action = some next) : SharedMove setting shared action next := by
  cases action with
  | own action =>
    simp only [step] at stepped
    split at stepped
    next moved =>
      split at stepped
      next same => cases stepped; exact .own moved same
      next => cases stepped
    next => cases stepped
  | begin upload =>
    simp only [step] at stepped
    split at stepped
    next moved =>
      split at stepped
      next received =>
        split at stepped
        next serves => cases stepped; exact .begin moved received serves
        next => cases stepped
      next => cases stepped
    next => cases stepped
  | access action =>
    simp only [step] at stepped
    split at stepped
    next allowed =>
      obtain ⟨storage, moved, rfl⟩ := Option.map_eq_some_iff.mp stepped
      exact .access allowed moved
    next => cases stepped
  | finish =>
    simp only [step] at stepped
    split at stepped
    next held =>
      split at stepped
      next =>
        obtain ⟨sync, moved, rfl⟩ := Option.map_eq_some_iff.mp stepped
        exact .finish held moved
      next => cases stepped
    next => cases stepped

end Moves

section Parts

/-- What an action is to the backend and its task. -/
def syncPart : Action ι → Option BackgroundSync.Action
  | .own action => some action
  | .begin _ => some .receive
  | .access _ => none
  | .finish => some .finish

/-- What it is to the storage. -/
def storagePart : Action ι → Option (Upload.Action ι)
  | .access action => some action
  | .own _ | .begin _ | .finish => none

variable {first last : SharedSync ι} {actions : List (Action ι)}

theorem run_syncPart (executed : run (step setting) first actions = some last) :
    run BackgroundSync.step first.sync (actions.filterMap syncPart) = some last.sync := by
  refine @run_projects _ _ _ _ _ BackgroundSync.step SharedSync.sync syncPart ?_ ?_ _ _ _ executed
  · intro before action after part stepped shown
    cases sharedMove_of_step stepped with
    | own moved | begin moved | finish _ moved =>
      cases shown
      exact moved
    | access => cases shown
  · intro before action after stepped hidden
    cases sharedMove_of_step stepped with
    | own | begin | finish => cases hidden
    | access => rfl

theorem run_storagePart (executed : run (step setting) first actions = some last) :
    run (Upload.step setting.uploads) first.storage (actions.filterMap storagePart) = some last.storage := by
  refine @run_projects _ _ _ _ _ (Upload.step setting.uploads) SharedSync.storage storagePart ?_ ?_ _ _ _ executed
  · intro before action after part stepped shown
    cases sharedMove_of_step stepped with
    | own | begin | finish => cases shown
    | access allowed moved =>
      cases shown
      exact moved
  · intro before action after stepped hidden
    cases sharedMove_of_step stepped with
    | own | begin | finish => rfl
    | access => cases hidden

end Parts

/-- The request is that of a checkpoint call, which has made its directory and found this database. -/
def Taken (setting : Setting ι) (start : SharedSync ι) (past : List (Action ι)) (request : SyncRequest) (snapshot : Db) : Prop :=
  ∃ first rest before uuid, ∃ checkpointId : Nat, ∃ range, past = first ++ .own (.checkpoint uuid checkpointId range) :: rest ∧
    run (step setting) start first = some before ∧
    before.sync.backend.checkpoints.lookup s!"{checkpointId}__{uuid}" = none ∧
    request = (toString checkpointId, range, s!"{checkpointId}__{uuid}") ∧ before.sync.backend.openDb = snapshot

/-- The upload of a request, which copies the directory of the checkpoint. -/
structure MadeFor (setting : Setting ι) (stateId : String) (request : SyncRequest) (snapshot : Db) (upload : ι) : Prop where
  stateId : (setting.uploads upload).stateId = stateId
  checkpointId : (setting.uploads upload).checkpointId = request.1
  partitionRange : (setting.uploads upload).partitionRange = request.2.1
  tree : (setting.uploads upload).tree = setting.saved request.2.2 snapshot

structure Tracks (setting : Setting ι) (stateId : String) (start : SharedSync ι) (past : List (Action ι))
    (shared : SharedSync ι) : Prop where
  reached : run (step setting) start past = some shared
  operator : shared.sync.backend.stateId = stateId
  pending : ∀ request ∈ shared.sync.channel.queue ++ shared.sync.sending.toList, ∃ snapshot,
    Taken setting start past request snapshot ∧ shared.sync.backend.checkpoints.lookup request.2.2 = some snapshot
  attempts : ∀ attempt ∈ shared.attempts, ∃ snapshot,
    Taken setting start past attempt.1 snapshot ∧ MadeFor setting stateId attempt.1 snapshot attempt.2
  begun : ∀ upload, setting.mine upload = true →
    shared.storage.phases upload ≠ .starting ∨ shared.current = some upload → ∃ request, (request, upload) ∈ shared.attempts
  order : shared.attempts.map Prod.fst = shared.sync.attempted ++ shared.sync.uploading.toList

section Tracks
variable {stateId : String} {start shared next : SharedSync ι} {past : List (Action ι)} {action : Action ι}

theorem Taken.extend {request : SyncRequest} {snapshot : Db} (taken : Taken setting start past request snapshot)
    (action : Action ι) : Taken setting start (past ++ [action]) request snapshot := by
  obtain ⟨first, rest, before, uuid, checkpointId, range, rfl, found⟩ := taken
  refine ⟨first, rest ++ [action], before, uuid, checkpointId, range, ?_, found⟩
  rw [List.append_assoc, List.cons_append]

/-- The steps of the backend keep its name and its directories, and every request that they
put on its way is that of a checkpoint just taken. -/
structure Carried (sync next : BackgroundSync) (action : BackgroundSync.Action) : Prop where
  operator : next.backend.stateId = sync.backend.stateId
  directories : ∀ directory snapshot, sync.backend.checkpoints.lookup directory = some snapshot →
    next.backend.checkpoints.lookup directory = some snapshot
  pending : ∀ request ∈ next.channel.queue ++ next.sending.toList,
    request ∈ sync.channel.queue ++ sync.sending.toList ∨
      ∃ uuid, ∃ checkpointId : Nat, ∃ range, action = .checkpoint uuid checkpointId range ∧
        sync.backend.checkpoints.lookup s!"{checkpointId}__{uuid}" = none ∧
        request = (toString checkpointId, range, s!"{checkpointId}__{uuid}") ∧
        next.backend.checkpoints.lookup request.2.2 = some sync.backend.openDb

theorem carried_of_step {sync next : BackgroundSync} {action : BackgroundSync.Action}
    (stepped : sync.step action = some next) : Carried sync next action := by
  cases move_of_step stepped with
  | put | restore | reject | finish => exact ⟨rfl, fun _ _ stored => stored, fun _ => .inl⟩
  | @checkpoint uuid checkpointId range present quiet absent =>
    refine ⟨rfl, fun directory snapshot stored => ?_, fun request member => ?_⟩
    · rw [StateBackend.checkpoint, List.lookup_append, stored]
      rfl
    · rcases List.mem_append.mp member with queued | waiting
      · exact .inl (List.mem_append_left _ queued)
      · cases List.mem_singleton.mp waiting
        refine .inr ⟨uuid, checkpointId, range, rfl, absent, rfl, ?_⟩
        rw [StateBackend.checkpoint, List.lookup_append, absent]
        simp
  | send waiting sent =>
    obtain ⟨bounded, rfl⟩ := BoundedChannel.send_eq_ok sent
    refine ⟨rfl, fun _ _ stored => stored, fun request member => .inl ?_⟩
    rw [waiting]
    rwa [Option.toList_none, List.append_nil] at member
  | refuse | drop =>
    refine ⟨rfl, fun _ _ stored => stored, fun request member => .inl ?_⟩
    rw [Option.toList_none, List.append_nil] at member
    exact List.mem_append_left _ member
  | receive free received =>
    obtain ⟨rest, bounded, queued, rfl⟩ := BoundedChannel.recv_eq_some received
    refine ⟨rfl, fun _ _ stored => stored, fun request member => .inl ?_⟩
    rw [queued]
    exact List.mem_cons_of_mem _ member
  | stop going free received =>
    refine ⟨rfl, fun _ _ stored => stored, fun request member => .inl ?_⟩
    exact List.mem_append_right _ member

/-- What a step of the backend does to the requests on their way. -/
private theorem Tracks.sync (tracks : Tracks setting stateId start past shared) (action : Action ι)
    {part : BackgroundSync.Action} (shown : syncPart action = some part) {sync : BackgroundSync}
    (stepped : shared.sync.step part = some sync) :
    sync.backend.stateId = stateId ∧ ∀ request ∈ sync.channel.queue ++ sync.sending.toList, ∃ snapshot,
      Taken setting start (past ++ [action]) request snapshot ∧ sync.backend.checkpoints.lookup request.2.2 = some snapshot := by
  have carried := carried_of_step stepped
  refine ⟨carried.operator.trans tracks.operator, fun request member => ?_⟩
  rcases carried.pending request member with old | ⟨uuid, checkpointId, range, rfl, absent, rfl, stored⟩
  · obtain ⟨snapshot, taken, held⟩ := tracks.pending request old
    exact ⟨snapshot, taken.extend action, carried.directories _ _ held⟩
  · cases action with
    | own =>
      cases shown
      exact ⟨_, ⟨past, [], shared, uuid, checkpointId, range, rfl, tracks.reached, absent, rfl, rfl⟩, stored⟩
    | begin | access | finish => cases shown

private theorem Tracks.attempts_extend (tracks : Tracks setting stateId start past shared) (action : Action ι) :
    ∀ attempt ∈ shared.attempts, ∃ snapshot,
      Taken setting start (past ++ [action]) attempt.1 snapshot ∧ MadeFor setting stateId attempt.1 snapshot attempt.2 := by
  intro attempt member
  obtain ⟨snapshot, taken, made⟩ := tracks.attempts attempt member
  exact ⟨snapshot, taken.extend action, made⟩

private theorem attempted_of_same {sync next : BackgroundSync} {action : BackgroundSync.Action}
    (stepped : sync.step action = some next) (same : next.uploading = sync.uploading) : next.attempted = sync.attempted := by
  cases move_of_step stepped with
  | finish held => cases same.trans held
  | put | restore | checkpoint | reject | send | refuse | drop | receive | stop => rfl

/-- A request that the task receives was the first in the channel. -/
private theorem received_of_step {sync next : BackgroundSync} {request : SyncRequest}
    (stepped : sync.step .receive = some next) (received : next.uploading = some request) :
    sync.uploading = none ∧ request ∈ sync.channel.queue ∧ next.attempted = sync.attempted := by
  cases move_of_step stepped with
  | receive free taken =>
    cases received
    obtain ⟨rest, -, queued, -⟩ := BoundedChannel.recv_eq_some taken
    rw [queued]
    exact ⟨free, List.mem_cons_self, rfl⟩
  | stop going free => cases free.symm.trans received

theorem step_tracks (stepped : step setting shared action = some next) (tracks : Tracks setting stateId start past shared) :
    Tracks setting stateId start (past ++ [action]) next := by
  have reached : run (step setting) start (past ++ [action]) = some next :=
    run_trans tracks.reached (run_cons_eq_some.mpr ⟨next, stepped, rfl⟩)
  have earlier := tracks.attempts_extend action
  cases sharedMove_of_step stepped with
  | own moved same =>
    obtain ⟨operator, pending⟩ := tracks.sync (.own _) rfl moved
    refine ⟨reached, operator, pending, earlier, tracks.begun, ?_⟩
    rw [attempted_of_same moved same, same]
    exact tracks.order
  | @begin upload sync request moved received serves =>
    obtain ⟨operator, pending⟩ := tracks.sync (.begin upload) rfl moved
    obtain ⟨free, queued, attempted⟩ := received_of_step moved received
    obtain ⟨own, -, named, numbered, ranged, tree⟩ := serves
    obtain ⟨snapshot, taken, stored⟩ := tracks.pending request (List.mem_append_left _ queued)
    rw [stored] at tree
    have made : MadeFor setting stateId request snapshot upload :=
      ⟨named.trans tracks.operator, numbered, ranged, (Option.some.inj tree).symm⟩
    refine ⟨reached, operator, pending, fun attempt member => ?_, fun other mine held => ?_, ?_⟩
    · rcases List.mem_append.mp member with old | new
      · exact earlier attempt old
      · cases List.mem_singleton.mp new
        exact ⟨snapshot, taken.extend _, made⟩
    · rcases held with begun | current
      · obtain ⟨request, known⟩ := tracks.begun other mine (.inl begun)
        exact ⟨request, List.mem_append_left _ known⟩
      · cases current
        exact ⟨request, List.mem_append_right _ (List.mem_singleton_self _)⟩
    · rw [List.map_append, tracks.order, free, attempted, received]
      simp
  | @access action storage allowed moved =>
    have pending (request : SyncRequest) (member : request ∈ shared.sync.channel.queue ++ shared.sync.sending.toList) :
        ∃ snapshot, Taken setting start (past ++ [.access action]) request snapshot ∧
          shared.sync.backend.checkpoints.lookup request.2.2 = some snapshot := by
      obtain ⟨snapshot, taken, stored⟩ := tracks.pending request member
      exact ⟨snapshot, taken.extend _, stored⟩
    refine ⟨reached, tracks.operator, pending, earlier, fun upload mine held => ?_, tracks.order⟩
    apply tracks.begun upload mine
    rcases held with begun | current
    · by_cases own : upload = action.caller
      · subst own
        exact .inr (allowed.resolve_left (by rw [mine]; exact Bool.noConfusion))
      · rw [(step_move moved).frame.phases upload own] at begun
        exact .inl begun
    · exact .inr current
  | finish held moved =>
    obtain ⟨operator, pending⟩ := tracks.sync .finish rfl moved
    refine ⟨reached, operator, pending, earlier, fun upload mine held => ?_, ?_⟩
    · rcases held with begun | current
      · exact tracks.begun upload mine (.inl begun)
      · cases current
    · cases move_of_step moved with
      | finish uploading =>
        rw [tracks.order, uploading]
        simp

theorem run_tracks {partitions : PartitionRange} {leftover : List (String × Db)} {actions : List (Action ι)}
    (executed : run (step setting) (.openNew stateId partitions leftover) actions = some shared) :
    Tracks setting stateId (.openNew stateId partitions leftover) actions shared := by
  apply run_traced (fun _ _ _ _ => step_tracks) executed
  refine ⟨rfl, rfl, fun _ member => absurd member List.not_mem_nil, fun _ member => absurd member List.not_mem_nil, ?_, rfl⟩
  intro upload _ held
  rcases held with begun | current
  · exact absurd rfl begun
  · cases current

end Tracks

/-- In every run of a backend and its task, among any accesses of others to the storage: the
requests are those of the uploads that have been begun, of the channel and of the call that
waits, or waited when the backend was dropped; and a directory of this task that any
`latest.json` lists is that of a checkpoint call of the run. It is listed for the operator
under the id and the range of the call, and its files are those that RocksDB wrote for the
database as the call found it. -/
theorem listed_snapshot {stateId : String} {partitions : PartitionRange} {leftover : List (String × Db)}
    {actions : List (Action ι)} {shared : SharedSync ι}
    (distinct : Function.Injective fun upload => (setting.uploads upload).remoteDir)
    (executed : run (step setting) (.openNew stateId partitions leftover) actions = some shared) :
    shared.attempts.map Prod.fst ++ shared.sync.channel.queue ++ shared.sync.sending.toList ++ shared.sync.lost.toList =
      shared.sync.backend.backgroundSync ∧
    ∀ operator latest, ∀ call : CompleteCheckpoint, ∀ upload, shared.storage.latestJson operator = some (.ok latest) →
      call.ListedIn latest → setting.mine upload = true → call.partitionInfo.checkpointDir = (setting.uploads upload).remoteDir →
      operator = stateId ∧ ∃ first rest before uuid, ∃ checkpointId : Nat, ∃ range,
        actions = first ++ .own (.checkpoint uuid checkpointId range) :: rest ∧
        run (step setting) (.openNew stateId partitions leftover) first = some before ∧
        call.checkpointId = toString checkpointId ∧ call.partitionInfo.partitionRange = range ∧
        ∀ path, shared.storage.files call.partitionInfo.checkpointDir path =
          (setting.saved s!"{checkpointId}__{uuid}" before.sync.backend.openDb).fileAt path := by
  have tracks := run_tracks executed
  have accounts : Accounts shared.sync := run_accounts (run_syncPart executed)
  have sound : Sound setting.uploads shared.storage := run_sound distinct (run_storagePart executed)
  refine ⟨?_, fun operator latest call upload stored listed mine place => ?_⟩
  · rw [tracks.order, ← accounts.order, outstanding]
    simp
  · obtain ⟨maker, timestamp, named, rfl, finished⟩ := sound.listed operator latest stored call listed
    obtain rfl : maker = upload := distinct place
    have copied := (sound.follows maker).copied fun path pending => by
      rw [finished] at pending
      exact pending
    have begun : shared.storage.phases maker ≠ .starting := by
      rw [finished]
      exact Upload.Phase.noConfusion
    obtain ⟨request, attempted⟩ := tracks.begun maker mine (.inl begun)
    obtain ⟨snapshot, taken, made⟩ := tracks.attempts _ attempted
    obtain ⟨first, rest, before, uuid, checkpointId, range, split, ran, -, rfl, rfl⟩ := taken
    refine ⟨named.symm.trans made.stateId, first, rest, before, uuid, checkpointId, range, split, ran, made.checkpointId,
      made.partitionRange, fun path => ?_⟩
    exact (copied path).trans (by rw [made.tree])

/-- A database whose directory has one file, with the values in it. -/
def valuesFile (db : Db) : FileTree String Bytes :=
  FileTree.empty.putFile [] "CURRENT" (db.entries.flatMap Sigma.snd) rfl (by decide)

/-- This task's upload, and one of another backend of the operator. -/
def sharedSetting : Setting Bool where
  saved _ := valuesFile
  mine upload := upload
  uploads
    | true => ⟨"count", "1", .full, "operators/count/checkpoints/a", valuesFile ((∅ : Db).insert [0] [1])⟩
    | false => ⟨"count", "1", .full, "operators/count/checkpoints/b", FileTree.empty⟩

/-- The operator writes on before the file of its checkpoint is copied, and the other
backend's upload is listed first. -/
def writtenMeanwhile : List (Action Bool) :=
  [.own (.put [0] [1]), .own (.checkpoint "u" 1 .full), .own .send, .own (.put [0] [2]), .begin true,
    .access (.proceed true), .access (.proceed false), .access (.proceed true), .access (.proceed false),
    .access (.list false []), .access (.proceed false), .access (.proceed false), .access (.clock false 900),
    .access (.readLatest false true), .access (.proceed false), .access (.proceed false),
    .access (.list true [("CURRENT", false)]), .access (.proceed true), .access (.proceed true), .access (.proceed true),
    .access (.proceed true), .access (.clock true 1000), .access (.readLatest true true), .access (.proceed true),
    .access (.proceed true), .finish]

theorem written_meanwhile_listed :
    ∃ shared latest, ∃ call : CompleteCheckpoint, ∃ first rest before uuid, ∃ checkpointId : Nat, ∃ range,
      run (step sharedSetting) (.openNew "count" .full []) writtenMeanwhile = some shared ∧
      shared.storage.latestJson "count" = some (.ok latest) ∧ call.ListedIn latest ∧
      shared.sync.backend.get [0] = some [2] ∧
      writtenMeanwhile = first ++ .own (.checkpoint uuid checkpointId range) :: rest ∧
      run (step sharedSetting) (.openNew "count" .full []) first = some before ∧
      ∀ path, shared.storage.files call.partitionInfo.checkpointDir path =
        (valuesFile before.sync.backend.openDb).fileAt path := by
  have distinct : Function.Injective fun upload => (sharedSetting.uploads upload).remoteDir := by decide
  have reached : (run (step sharedSetting) (.openNew "count" .full []) writtenMeanwhile).map
      (fun shared => (shared.storage.latestJson "count", shared.sync.backend.get [0])) =
      some (some (.ok ⟨[⟨"1", [⟨.full, 900, "operators/count/checkpoints/b"⟩,
        ⟨.full, 1000, "operators/count/checkpoints/a"⟩]⟩]⟩), some [2]) := rfl
  obtain ⟨shared, executed, seen⟩ := Option.map_eq_some_iff.mp reached
  obtain ⟨stored, current⟩ := Prod.mk.inj seen
  have listed : CompleteCheckpoint.ListedIn ⟨"1", ⟨.full, 1000, "operators/count/checkpoints/a"⟩⟩
      ⟨[⟨"1", [⟨.full, 900, "operators/count/checkpoints/b"⟩, ⟨.full, 1000, "operators/count/checkpoints/a"⟩]⟩]⟩ := by decide
  obtain ⟨-, first, rest, before, uuid, checkpointId, range, split, ran, -, -, copied⟩ :=
    (listed_snapshot distinct executed).2 _ _ _ true stored listed rfl rfl
  exact ⟨shared, _, _, first, rest, before, uuid, checkpointId, range, executed, stored, listed, current, split, ran, copied⟩

end DatafusionRay.Proofs.ListedSnapshots
