import DatafusionRay.Streaming.FileSystem

/-! Copying inside a local storage, as a backend does with a checkpoint that becomes its
working directory. A directory is made, listed, and copied entry by entry. -/

namespace DatafusionRay.Streaming
open Foundation

variable {ν : Type} [DecidableEq ν]

/-- `tokio::fs::copy`, which only copies files. -/
def Disk.copyFile (src dst : List ν) (disk : Disk ν) : Except IoError (Unit × Disk ν) :=
  match disk.node src with
  | some (.file contents) => disk.write dst contents
  | some .directory => .error (.other "the source path is neither a regular file nor a symlink to a regular file")
  | none => .error (disk.absence src)

/-- `Path::is_dir` answers that there is no directory if it cannot tell. -/
def OperatingSystem.isDir {ε : Type} (os : OperatingSystem ν) (path : List ν) : Threaded (Machine ν) ε Bool :=
  ExceptT.mk fun machine =>
    match os.fault machine.requests with
    | some _ => (.ok false, ⟨machine.disk, machine.requests + 1⟩)
    | none => (.ok (machine.disk.isDir path), ⟨machine.disk, machine.requests + 1⟩)

theorem OperatingSystem.outcome_isDir {ε : Type} (os : OperatingSystem ν) (path : List ν) (machine : Machine ν) :
    (os.isDir path : Threaded (Machine ν) ε Bool).outcome machine =
      (.ok ((os.fault machine.requests).isNone && machine.disk.isDir path), ⟨machine.disk, machine.requests + 1⟩) := by
  rw [isDir, Threaded.outcome]
  cases fault : os.fault machine.requests <;> simp [ExceptT.run, ExceptT.mk, fault]

/-- Why a copy comes to no good end: an error, or a depth that the model does not reach. -/
inductive Interruption where
  | exhausted
  | failed (error : DataFusionError)
  deriving DecidableEq, Repr

namespace LocalCopy

def failed (message : String) (error : IoError) : Interruption :=
  let e := error.display
  .failed (.execution s!"{message}: {e}")

variable (os : OperatingSystem ν)

/-- The next entry of a directory that has been opened, or its end. -/
def nextEntry : Threaded (Machine ν) Interruption Unit :=
  .mapError (failed "Failed to read directory entry") (os.request fun _ disk => .ok ((), disk))

/-- The loop over the entries, where `copy` is the call for one of them. -/
def copyEntries (copy : Path ν → Path ν → Threaded (Machine ν) Interruption Unit) (src dst : Path ν) (names : List ν) :
    Threaded (Machine ν) Interruption Unit := do
  names.foldlM (fun _ name => do
    nextEntry os
    copy (src.join (.relative [name])) (dst.join (.relative [name]))) ()
  nextEntry os

/-- `copy` of paths below `rootDir`, down to some depth. The names are those that the
directory has when it is opened. -/
def copy (rootDir : Path ν) : Nat → Path ν → Path ν → Threaded (Machine ν) Interruption Unit
  | 0, _, _ => throw .exhausted
  | depth + 1, src, dst => do
    let absoluteSrcPath := os.resolve (rootDir.join src)
    let absoluteDstPath := os.resolve (rootDir.join dst)
    let isDir ← os.isDir absoluteSrcPath
    if isDir then do
      .mapError (failed "Failed to create directory") (os.request fun _ disk => disk.createDirAll absoluteDstPath)
      let names ← .mapError (failed "Failed to read directory") (os.request fun request disk =>
        (disk.readDir absoluteSrcPath).map fun (names, disk) => (os.arrange request names, disk))
      copyEntries os (copy rootDir depth) src dst names
    else .mapError (failed "Failed to copy file") (os.request fun _ disk => disk.copyFile absoluteSrcPath absoluteDstPath)

end LocalCopy

/-- `PrefixedLocalFileSystemStorage::copy`. -/
def PrefixedLocalFileSystemStorage.copy (storage : PrefixedLocalFileSystemStorage ν) (os : OperatingSystem ν) (depth : Nat)
    (src dst : Path ν) : Threaded (Machine ν) Interruption Unit :=
  LocalCopy.copy os storage.dir depth src dst

end DatafusionRay.Streaming
