import DatafusionRay.Streaming.DirectoryCopy
import DatafusionRay.Streaming.LocalCopy

/-! The files of `move_to_checkpoint`. Checkpoints that are not local are downloaded to
their own paths in the local storage; a single one is then copied to a new working
directory, where the database is opened. -/

namespace DatafusionRay.Streaming
open Foundation Threaded

variable {κ ν : Type} [DecidableEq κ] [DecidableEq ν]

/-- What a backend sees of the storages, which may be on one machine. -/
structure BackendStorages (κ ν : Type) [DecidableEq ν] where
  os : κ → OperatingSystem ν
  remoteMachine : κ
  remoteStorage : PrefixedLocalFileSystemStorage ν
  localMachine : κ
  localStorage : PrefixedLocalFileSystemStorage ν

namespace BackendStorages
variable (storages : BackendStorages κ ν)

def remoteSystem : FileSystemStorage (κ → Machine ν) ν :=
  (storages.remoteStorage.fileSystemStorage (storages.os storages.remoteMachine)).on storages.remoteMachine

def localFileSystem : FileSystemStorage (κ → Machine ν) ν :=
  (storages.localStorage.fileSystemStorage (storages.os storages.localMachine)).on storages.localMachine

/-- The result is missing if the fuel of one of the downloads does not last. -/
def download (fuel : Nat) : List (Path ν) → (κ → Machine ν) → Option (Except DataFusionError Unit × (κ → Machine ν))
  | [], machines => some (.ok (), machines)
  | checkpointPath :: rest, machines =>
    match copyDirBetweenSystems storages.remoteSystem checkpointPath storages.localFileSystem checkpointPath fuel machines with
    | some (.ok (), after) => download fuel rest after
    | stopped => stopped

/-- `local_file_system.copy`, which has no result if the depth does not last. -/
def copy (depth : Nat) (src dst : Path ν) (machines : κ → Machine ν) :
    Option (Except DataFusionError Unit × (κ → Machine ν)) :=
  match (onThread storages.localMachine
    (storages.localStorage.copy (storages.os storages.localMachine) depth src dst)).outcome machines with
  | (.ok (), after) => some (.ok (), after)
  | (.error (.failed error), after) => some (.error error, after)
  | (.error .exhausted, _) => none

/-- The merge of several checkpoints panics before it has touched a storage: it makes a
directory where it then opens a file. -/
def fetchCheckpoints (isLocal : Bool) (checkpoints : List (Path ν)) (newWorkingDir : Path ν) (fuel depth : Nat)
    (machines : κ → Machine ν) : Option (Except Failure Unit × (κ → Machine ν)) :=
  match if isLocal then some (.ok (), machines) else storages.download fuel checkpoints machines with
  | none => none
  | some (.error error, after) => some (.error (.error error), after)
  | some (.ok (), downloaded) =>
    match checkpoints with
    | [checkpointPath] =>
      (storages.copy depth checkpointPath newWorkingDir downloaded).map fun (result, after) =>
        (result.mapError .error, after)
    | _ => some (.error (.panicked "IO error: Is a directory: While open a file for appending"), downloaded)

end BackendStorages

end DatafusionRay.Streaming
