import DatafusionRay.Foundation.Execution
import DatafusionRay.Foundation.FileTree
import DatafusionRay.Streaming.StateBackend

/-! Uploads of local checkpoint directories to the remote storage, one storage
access at a time: the directory tree is copied file by file, and only then is the
new remote directory listed in the `latest.json` of its operator. -/

namespace DatafusionRay.Streaming
open Foundation

abbrev RelativePath := List String

/-- One `upload_checkpoint` call. Its remote directory is the one that `start_checkpoint`
makes, and its tree is all that is below the local directory. -/
structure Upload where
  stateId : String
  checkpointId : String
  partitionRange : PartitionRange
  remoteDir : String
  tree : FileTree String Bytes

namespace Upload

/-- The `complete_checkpoint` call at the end, once it has asked the clock. -/
def completes (upload : Upload) (timestamp : Nat) : CompleteCheckpoint :=
  .timed upload.checkpointId upload.remoteDir upload.partitionRange timestamp

/-- The next storage access of a call. The top of the queue of directories stands
first. An entry is its name and whether the listing takes it for a directory. -/
inductive Phase where
  | starting
  | making
  | walking (queue : List RelativePath)
  | copying (queue : List RelativePath) (current : RelativePath) (entries : List (String × Bool))
  | writing (queue : List RelativePath) (current : RelativePath) (entries : List (String × Bool)) (name : String)
      (contents : Bytes)
  | completing
  | reading (timestamp : Nat)
  | preparing (latest : LatestCheckpoints)
  | storing (latest : LatestCheckpoints)
  | finished
  | stopped
  deriving DecidableEq, Repr

variable {ι : Type}

/-- The uploads under way and the remote storage: the files of each checkpoint
directory and the `latest.json` of each operator. -/
structure Storage (ι : Type) where
  phases : ι → Phase
  files : String → RelativePath → Option Bytes
  latestJson : String → Option LatestText

def emptyStorage : Storage ι := ⟨fun _ => .starting, fun _ _ => none, fun _ => none⟩

inductive Action (ι : Type) where
  | proceed (upload : ι)
  | list (upload : ι) (entries : List (String × Bool))
  | clock (upload : ι) (timestamp : Nat)
  | readLatest (upload : ι) (intact : Bool)
  | cutFile (upload : ι) (left : Bytes)
  | cutLatest (upload : ι) (message : String)
  | stop (upload : ι)

/-- The call that makes the access. -/
def Action.caller : Action ι → ι
  | .proceed upload | .list upload _ | .clock upload _ | .readLatest upload _ | .cutFile upload _ | .cutLatest upload _
  | .stop upload => upload

variable [DecidableEq ι]

def Storage.enter (storage : Storage ι) (upload : ι) (phase : Phase) : Storage ι :=
  { storage with phases := Function.update storage.phases upload phase }

def Storage.writeFile (storage : Storage ι) (directory : String) (path : RelativePath) (contents : Bytes) : Storage ι :=
  { storage with
    files := Function.update storage.files directory (Function.update (storage.files directory) path (some contents)) }

def Storage.writeLatest (storage : Storage ι) (stateId : String) (text : LatestText) : Storage ι :=
  { storage with latestJson := Function.update storage.latestJson stateId (some text) }

/-- An access that succeeds; what it returns is part of the action. Any upload may
stop in front of any access, by a crash or by an error, and a write that fails may
have cut off its file, so that a `latest.json` no longer parses. A read of
`latest.json` that fails does not stop the upload, but a text that does not parse does. -/
def step (uploads : ι → Upload) (storage : Storage ι) : Action ι → Option (Storage ι)
  | .proceed upload =>
    match storage.phases upload with
    | .starting => some (storage.enter upload .making)
    | .making => some (storage.enter upload (.walking [[]]))
    | .walking [] => some (storage.enter upload .completing)
    | .copying queue _ [] => some (storage.enter upload (.walking queue))
    | .copying queue current ((name, true) :: entries) =>
      some (storage.enter upload (.copying ((current ++ [name]) :: queue) current entries))
    | .copying queue current ((name, false) :: entries) =>
      match (uploads upload).tree.node (current ++ [name]) with
      | some (.file contents) => some (storage.enter upload (.writing queue current entries name contents))
      | _ => none
    | .writing queue current entries name contents =>
      some ((storage.writeFile (uploads upload).remoteDir (current ++ [name]) contents).enter upload
        (.copying queue current entries))
    | .preparing latest => some (storage.enter upload (.storing latest))
    | .storing latest => some ((storage.writeLatest (uploads upload).stateId (.ok latest)).enter upload .finished)
    | _ => none
  | .list upload entries =>
    match storage.phases upload with
    | .walking (current :: queue) =>
      match (uploads upload).tree.node current with
      | some .directory =>
        if (entries.map Prod.fst).Perm ((uploads upload).tree.names current) then
          some (storage.enter upload (.copying queue current entries))
        else none
      | _ => none
    | _ => none
  | .clock upload timestamp =>
    match storage.phases upload with
    | .completing => some (storage.enter upload (.reading timestamp))
    | _ => none
  | .readLatest upload intact =>
    match storage.phases upload with
    | .reading timestamp =>
      match readLatestJson (if intact then storage.latestJson (uploads upload).stateId else none) with
      | .ok latest => some (storage.enter upload (.preparing (((uploads upload).completes timestamp).update latest)))
      | .error _ => some (storage.enter upload .stopped)
    | _ => none
  | .cutFile upload left =>
    match storage.phases upload with
    | .writing _ current _ name _ =>
      some ((storage.writeFile (uploads upload).remoteDir (current ++ [name]) left).enter upload .stopped)
    | _ => none
  | .cutLatest upload message =>
    match storage.phases upload with
    | .storing _ => some ((storage.writeLatest (uploads upload).stateId (.error message)).enter upload .stopped)
    | _ => none
  | .stop upload => if storage.phases upload = .finished then none else some (storage.enter upload .stopped)

end Upload

end DatafusionRay.Streaming
