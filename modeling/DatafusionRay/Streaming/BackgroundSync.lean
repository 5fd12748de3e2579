import DatafusionRay.Foundation.BoundedChannel
import DatafusionRay.Streaming.CheckpointUpload

/-! The checkpoints of a backend on their way to the remote storage. The operator waits
only until its checkpoint is in the channel; a background task uploads one after the
other and reports what fails without stopping. -/

namespace DatafusionRay.Streaming
open Foundation

/-- The checkpoint id, the range and the local directory. -/
abbrev SyncRequest := String × PartitionRange × String

/-- A backend with its channel and its background task. The backend may have been
dropped, with the call that was waiting for the channel, and the task then stops at the
end of the channel. -/
structure BackgroundSync where
  backend : StateBackend
  dropped : Bool
  sending : Option SyncRequest
  lost : Option SyncRequest
  channel : BoundedChannel SyncRequest
  uploading : Option SyncRequest
  attempted : List SyncRequest
  stopped : Bool

namespace BackgroundSync

def openNew (stateId : String) (partitions : PartitionRange) (leftover : List (String × Db)) : BackgroundSync where
  backend := .openNew stateId partitions leftover
  dropped := false
  sending := none
  lost := none
  channel := .new 1
  uploading := none
  attempted := []
  stopped := false

/-- A move sees the remote storage and the listing of the local directories. -/
inductive Action where
  | put (key value : Bytes)
  | moveToCheckpoint (remote : RemoteStorage) (listing : List (String × Db)) (checkpoint : Nat)
      (partitionRange : PartitionRange)
  | checkpoint (uuid : String) (checkpointId : Nat) (partitionRange : PartitionRange)
  | send
  | drop
  | receive
  | finish

/-- The operator calls its backend, which it does not share, while no other call is waiting. -/
def idle (sync : BackgroundSync) : Bool := !sync.dropped && sync.sending.isNone

/-- A call that fails leaves the backend as it was; RocksDB refuses a checkpoint
directory that exists. The task goes on after an upload that has failed. -/
def step (sync : BackgroundSync) : Action → Option BackgroundSync
  | .put key value => if sync.idle then some { sync with backend := sync.backend.put key value } else none
  | .moveToCheckpoint remote listing checkpoint partitionRange =>
    if sync.idle && decide (listing.Perm sync.backend.checkpoints) then
      match sync.backend.moveListed remote listing checkpoint partitionRange with
      | .ok moved => some { sync with backend := { sync.backend with openDb := moved.openDb } }
      | .error _ => some sync
    else none
  | .checkpoint uuid checkpointId partitionRange =>
    let directory := s!"{checkpointId}__{uuid}"
    if sync.idle then
      match sync.backend.checkpoints.lookup directory with
      | none =>
        some { sync with
          backend := sync.backend.checkpoint uuid checkpointId partitionRange
          sending := some (toString checkpointId, partitionRange, directory) }
      | some _ => some sync
    else none
  | .send =>
    match sync.sending with
    | some request =>
      match sync.channel.send request with
      | some (.ok channel) => some { sync with sending := none, channel }
      | some (.error ()) => some { sync with sending := none }
      | none => none
    | none => none
  | .drop =>
    if sync.dropped then none
    else some { sync with dropped := true, sending := none, lost := sync.sending, channel := sync.channel.dropSender }
  | .receive =>
    if sync.stopped || sync.uploading.isSome then none
    else
      match sync.channel.recv with
      | some (some request, channel) => some { sync with uploading := some request, channel }
      | some (none, channel) => some { sync with stopped := true, channel := channel.dropReceiver }
      | none => none
  | .finish =>
    match sync.uploading with
    | some request => some { sync with uploading := none, attempted := sync.attempted ++ [request] }
    | none => none

end BackgroundSync

/-- A background task and the storage it uploads to, which others use as well. The task
is inside the `upload_checkpoint` call of its current upload. -/
structure SharedSync (ι : Type) where
  sync : BackgroundSync
  storage : Upload.Storage ι
  current : Option ι
  attempts : List (SyncRequest × ι)

namespace SharedSync
variable {ι : Type}

def openNew (stateId : String) (partitions : PartitionRange) (leftover : List (String × Db)) : SharedSync ι where
  sync := .openNew stateId partitions leftover
  storage := Upload.emptyStorage
  current := none
  attempts := []

inductive Action (ι : Type) where
  | own (action : BackgroundSync.Action)
  | begin (upload : ι)
  | access (action : Upload.Action ι)
  | finish

/-- What RocksDB writes to a directory for a checkpoint of a database, which of the
uploads are those of this task, and the uploads themselves. -/
structure Setting (ι : Type) where
  saved : String → Db → FileTree String Bytes
  mine : ι → Bool
  uploads : ι → Upload

/-- The upload is a new one of this task, made for the request from its local directory. -/
def Setting.Serves (setting : Setting ι) (shared : SharedSync ι) (request : SyncRequest) (upload : ι) : Prop :=
  setting.mine upload = true ∧ shared.storage.phases upload = .starting ∧
    (setting.uploads upload).stateId = shared.sync.backend.stateId ∧
    (setting.uploads upload).checkpointId = request.1 ∧ (setting.uploads upload).partitionRange = request.2.1 ∧
    (shared.sync.backend.checkpoints.lookup request.2.2).map (setting.saved request.2.2) =
      some (setting.uploads upload).tree

instance (setting : Setting ι) (shared : SharedSync ι) (request : SyncRequest) (upload : ι) :
    Decidable (setting.Serves shared request upload) :=
  inferInstanceAs (Decidable (_ ∧ _ ∧ _ ∧ _ ∧ _ ∧ _))

variable [DecidableEq ι]

/-- Any call but those of this task may access the storage at any time. The task begins an
upload with the request it has received and ends it when the call has returned. -/
def step (setting : Setting ι) (shared : SharedSync ι) : Action ι → Option (SharedSync ι)
  | .own action =>
    match shared.sync.step action with
    | some sync => if sync.uploading = shared.sync.uploading then some { shared with sync } else none
    | none => none
  | .begin upload =>
    match shared.sync.step .receive with
    | some sync =>
      match sync.uploading with
      | some request =>
        if setting.Serves shared request upload then
          some { shared with sync, current := some upload, attempts := shared.attempts ++ [(request, upload)] }
        else none
      | none => none
    | none => none
  | .access action =>
    if setting.mine action.caller = false ∨ shared.current = some action.caller then
      (Upload.step setting.uploads shared.storage action).map fun storage => { shared with storage }
    else none
  | .finish =>
    match shared.current with
    | some upload =>
      if shared.storage.phases upload = .finished ∨ shared.storage.phases upload = .stopped then
        (shared.sync.step .finish).map fun sync => { shared with sync, current := none }
      else none
    | none => none

end SharedSync

end DatafusionRay.Streaming
