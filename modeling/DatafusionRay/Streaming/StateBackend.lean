import DatafusionRay.Foundation.BigEndian
import DatafusionRay.Streaming.CheckpointStorage
import Mathlib

/-! The key-value store of one operator. RocksDB is a finite map, a checkpoint
directory is a copy of it, and the remote storage holds uploaded copies next to
the `latest.json` of every operator. -/

namespace DatafusionRay.Streaming
open Foundation

abbrev Bytes := List UInt8

abbrev Db := AList fun _ : Bytes => Bytes

def toBeBytes (value : UInt64) : Bytes := BigEndian.encode 8 value.toNat

def fromBeBytes? (bytes : Bytes) : Option UInt64 :=
  if bytes.length = 8 then some (UInt64.ofNat (BigEndian.decode bytes)) else none

@[simp] theorem fromBeBytes_toBeBytes (value : UInt64) : fromBeBytes? (toBeBytes value) = some value := by
  have bounded : value.toNat < 256 ^ 8 := value.toNat_lt
  rw [fromBeBytes?, toBeBytes, if_pos (BigEndian.length_encode 8 _), BigEndian.decode_encode,
    Nat.mod_eq_of_lt bounded, UInt64.ofNat_toNat]

theorem toBeBytes_injective : Function.Injective toBeBytes := by
  intro left right same
  have := congrArg fromBeBytes? same
  simpa using this

structure RemoteStorage where
  latestJson : String → Option LatestCheckpoints
  directories : String → Option Db

/-- `upload_checkpoint` as one step, for an upload that nobody disturbs and that meets no fault:
the snapshot is copied to a new directory and then listed. -/
def RemoteStorage.upload (remote : RemoteStorage) (stateId : String) (call : CompleteCheckpoint) (snapshot : Db) :
    RemoteStorage where
  latestJson := Function.update remote.latestJson stateId
    (some (call.update (checkpointsIn (remote.latestJson stateId))))
  directories := Function.update remote.directories call.partitionInfo.checkpointDir (some snapshot)

/-- `RocksDBStateBackend` of one operator of one worker. The checkpoints are the
local checkpoint directories in listing order. -/
structure StateBackend where
  stateId : String
  partitions : PartitionRange
  checkpoints : List (String × Db)
  openDb : Db
  backgroundSync : List (String × PartitionRange × String)

namespace StateBackend

/-- The checkpoint directories are those of earlier backends with the same id and range, which nobody removes. -/
def openNew (stateId : String) (partitions : PartitionRange) (checkpoints : List (String × Db)) : StateBackend :=
  ⟨stateId, partitions, checkpoints, ∅, []⟩

def put (backend : StateBackend) (key value : Bytes) : StateBackend :=
  { backend with openDb := backend.openDb.insert key value }

def get (backend : StateBackend) (key : Bytes) : Option Bytes := backend.openDb.lookup key

/-- The directory's name ends in a random identifier. -/
def checkpoint (backend : StateBackend) (uuid : String) (checkpointId : Nat) (partitionRange : PartitionRange) :
    StateBackend :=
  let directory := s!"{checkpointId}__{uuid}"
  { backend with
    checkpoints := backend.checkpoints ++ [(directory, backend.openDb)]
    backgroundSync := backend.backgroundSync ++ [(toString checkpointId, partitionRange, directory)] }

/-- Local directories are tried by name; the remote search is for the range the backend was opened with. -/
def findCheckpoint (remote : RemoteStorage) (backend : StateBackend) (checkpoint : Nat)
    (partitionRange : PartitionRange) : Except Failure (Bool × List (String × PartitionRange)) :=
  match backend.checkpoints.find? fun directory => directory.1.startsWith s!"{checkpoint}__" with
  | some directory => .ok (true, [(directory.1, partitionRange)])
  | none => do
    let found ← getOperatorCheckpoints ((remote.latestJson backend.stateId).map .ok) backend.stateId backend.partitions
      (toString checkpoint)
    return (false, found)

def openDirectory (remote : RemoteStorage) (backend : StateBackend) (isLocal : Bool) (directory : String) :
    Except Failure Db :=
  match if isLocal then backend.checkpoints.lookup directory else remote.directories directory with
  | some snapshot => .ok snapshot
  | none => .error (.error (.external "No such file or directory (os error 2)"))

/-- One checkpoint is copied as it is. The merge of several first creates a
directory at the path of its table file and then opens that path as a file. -/
def moveToCheckpoint (remote : RemoteStorage) (backend : StateBackend) (checkpoint : Nat)
    (partitionRange : PartitionRange) : Except Failure StateBackend := do
  let (isLocal, checkpoints) ← findCheckpoint remote backend checkpoint partitionRange
  let snapshots ← checkpoints.mapM fun found => openDirectory remote backend isLocal found.1
  match snapshots with
  | [snapshot] => return { backend with openDb := snapshot }
  | _ => throw (.panicked "IO error: Is a directory: While open a file for appending")

/-- The move of a backend whose directories are listed in the given order. -/
def moveListed (remote : RemoteStorage) (listing : List (String × Db)) (backend : StateBackend) (number : Nat)
    (range : PartitionRange) : Except Failure StateBackend :=
  { backend with checkpoints := listing }.moveToCheckpoint remote number range

/-- No checkpoint directory goes by the number, so `find_checkpoint` turns to the remote storage. -/
def NoneNumbered (checkpoints : List (String × Db)) (number : Nat) : Prop :=
  ∀ directory ∈ checkpoints, ¬ directory.1.startsWith s!"{number}__" = true

theorem noneNumbered_nil (number : Nat) : NoneNumbered [] number := fun _ member => absurd member List.not_mem_nil

theorem NoneNumbered.find? {checkpoints : List (String × Db)} {number : Nat} (absent : NoneNumbered checkpoints number) :
    checkpoints.find? (fun directory => directory.1.startsWith s!"{number}__") = none :=
  List.find?_eq_none.mpr absent

section Remote
variable {remote : RemoteStorage} {backend : StateBackend} {checkpoint : Nat} {partitionRange : PartitionRange}

theorem moveToCheckpoint_eq_ok {directory : String} {range : PartitionRange} {snapshot : Db}
    (absent : NoneNumbered backend.checkpoints checkpoint)
    (found : getOperatorCheckpoints ((remote.latestJson backend.stateId).map .ok) backend.stateId backend.partitions
      (toString checkpoint) = .ok [(directory, range)])
    (present : remote.directories directory = some snapshot) :
    moveToCheckpoint remote backend checkpoint partitionRange = .ok { backend with openDb := snapshot } := by
  simp only [moveToCheckpoint, findCheckpoint, absent.find?, found, bind, Except.bind, pure, Except.pure,
    List.mapM_cons, List.mapM_nil, openDirectory, Bool.false_eq_true, if_false, present]

theorem moveToCheckpoint_eq_error {failure : Failure} (absent : NoneNumbered backend.checkpoints checkpoint)
    (missing : getOperatorCheckpoints ((remote.latestJson backend.stateId).map .ok) backend.stateId backend.partitions
      (toString checkpoint) = .error failure) :
    moveToCheckpoint remote backend checkpoint partitionRange = .error failure := by
  simp only [moveToCheckpoint, findCheckpoint, absent.find?, missing, bind, Except.bind]

/-- The first directory with a name that passes is the one that its name leads to. -/
private theorem lookup_of_find? {checkpoints : List (String × Db)} {named : String → Bool} {directory : String × Db}
    (found : checkpoints.find? (fun other => named other.1) = some directory) :
    checkpoints.lookup directory.1 = some directory.2 := by
  induction checkpoints with
  | nil => cases found
  | cons head rest ih =>
    by_cases first : named head.1 = true
    · rw [List.find?_cons, first] at found
      cases found
      rw [List.lookup_cons_self]
    · rw [List.find?_cons, Bool.eq_false_of_not_eq_true first] at found
      have passes : named directory.1 = true := @List.find?_some _ (fun other => named other.1) _ rest found
      have other : (directory.1 == head.1) = false := beq_false_of_ne fun same => first (same ▸ passes)
      rw [List.lookup_cons, other]
      exact ih found

theorem moveToCheckpoint_local {directory : String × Db}
    (found : backend.checkpoints.find? (fun other => other.1.startsWith s!"{checkpoint}__") = some directory) :
    moveToCheckpoint remote backend checkpoint partitionRange = .ok { backend with openDb := directory.2 } := by
  have present := @lookup_of_find? _ (fun name => name.startsWith s!"{checkpoint}__") _ found
  simp only [moveToCheckpoint, findCheckpoint, found, bind, Except.bind, pure, Except.pure, List.mapM_cons, List.mapM_nil,
    openDirectory, if_true, present]

theorem moveToCheckpoint_frame {moved : StateBackend}
    (succeeded : moveToCheckpoint remote backend checkpoint partitionRange = .ok moved) :
    ∃ snapshot, moved = { backend with openDb := snapshot } := by
  simp only [moveToCheckpoint, bind, Except.bind] at succeeded
  split at succeeded
  · cases succeeded
  · split at succeeded
    · cases succeeded
    · split at succeeded
      · cases succeeded
        exact ⟨_, rfl⟩
      · cases succeeded

end Remote

end StateBackend

end DatafusionRay.Streaming
