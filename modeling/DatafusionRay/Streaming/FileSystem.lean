import DatafusionRay.Foundation.FileTree
import DatafusionRay.Foundation.ThreadLocal
import DatafusionRay.Streaming.Item
import DatafusionRay.Streaming.StateBackend

/-! Storages of files. The one on the local disk puts a directory in front of its paths
and hands them to the operating system, which may refuse any request and lists a
directory in any order. -/

namespace DatafusionRay.Streaming
open Foundation

/-- A path of names; `.` and `..` are not among them. -/
structure Path (ν : Type) where
  absolute : Bool
  components : List ν
  deriving DecidableEq, Repr

namespace Path
variable {ν : Type}

/-- An absolute path replaces the one it is joined to. -/
def join (base path : Path ν) : Path ν :=
  if path.absolute then path else { base with components := base.components ++ path.components }

def relative (names : List ν) : Path ν := ⟨false, names⟩

theorem join_relative (base : Path ν) (names : List ν) :
    base.join (relative names) = { base with components := base.components ++ names } := rfl

theorem join_join_relative (base path : Path ν) (names : List ν) :
    base.join (path.join (relative names)) = (base.join path).join (relative names) := by
  obtain ⟨absolute, components⟩ := path
  cases absolute with
  | true => rfl
  | false =>
    rw [join_relative, join_relative]
    change (⟨base.absolute, base.components ++ (components ++ names)⟩ : Path ν) = _
    rw [← List.append_assoc]
    rfl

end Path

inductive IoError where
  | notFound
  | alreadyExists
  | notADirectory
  | isADirectory
  | other (message : String)
  deriving DecidableEq, Repr

def IoError.display : IoError → String
  | .notFound => "No such file or directory (os error 2)"
  | .alreadyExists => "File exists (os error 17)"
  | .notADirectory => "Not a directory (os error 20)"
  | .isADirectory => "Is a directory (os error 21)"
  | .other message => message

variable {ν : Type} [DecidableEq ν]

abbrev Disk (ν : Type) [DecidableEq ν] := FileTree ν Bytes

namespace Disk

/-- Why there is nothing at a path. -/
def absence (disk : Disk ν) (path : List ν) : IoError := if disk.blocked path then .notADirectory else .notFound

def createDirAll (path : List ν) (disk : Disk ν) : Except IoError (Unit × Disk ν) :=
  match disk.node path with
  | some (.file _) => .error .alreadyExists
  | _ => if disk.blocked path then .error .notADirectory else .ok ((), disk.makeDirectories path)

def read (path : List ν) (disk : Disk ν) : Except IoError (Bytes × Disk ν) :=
  match disk.node path with
  | some (.file contents) => .ok (contents, disk)
  | some .directory => .error .isADirectory
  | none => .error (disk.absence path)

def readDir (path : List ν) (disk : Disk ν) : Except IoError (List ν × Disk ν) :=
  match disk.node path with
  | some .directory => .ok (disk.names path, disk)
  | some (.file _) => .error .notADirectory
  | none => .error (disk.absence path)

def isDir (disk : Disk ν) (path : List ν) : Bool := disk.node path == some .directory

def write (path : List ν) (contents : Bytes) (disk : Disk ν) : Except IoError (Unit × Disk ν) :=
  match path.getLast? with
  | none => .error .isADirectory
  | some name =>
    if taken : disk.node (path.dropLast ++ [name]) = some .directory then .error .isADirectory
    else if parent : disk.node path.dropLast = some .directory then
      .ok ((), disk.putFile path.dropLast name contents parent taken)
    else .error (disk.absence path)

section Served
variable {disk after : Disk ν} {path : List ν}

theorem node_createDirAll (served : createDirAll path disk = .ok ((), after)) (other : List ν) :
    after.node other = if other <+: path then some .directory else disk.node other := by
  rw [createDirAll] at served
  split at served
  next => cases served
  next =>
    split at served
    next => cases served
    next =>
      cases served
      exact FileTree.node_makeDirectories other

theorem createDirAll_of_free (free : ∀ above, above <+: path → ∀ contents, disk.node above ≠ some (.file contents)) :
    createDirAll path disk = .ok ((), disk.makeDirectories path) := by
  have open_ : disk.blocked path = false := FileTree.not_blocked_iff.mpr free
  rw [createDirAll]
  split
  next contents file => exact absurd file (free path List.prefix_rfl contents)
  next => rw [if_neg (by rw [open_]; exact Bool.false_ne_true)]

theorem node_write {contents : Bytes} (served : write path contents disk = .ok ((), after)) (other : List ν) :
    after.node other = if other = path then some (.file contents) else disk.node other := by
  rw [write] at served
  split at served
  next => cases served
  next name last =>
    obtain ⟨front, rfl⟩ := List.getLast?_eq_some_iff.mp last
    split at served
    next => cases served
    next =>
      split at served
      next =>
        cases served
        rw [FileTree.node_putFile, List.dropLast_concat]
      next => cases served

theorem write_of_parent {name : ν} (contents : Bytes) (parent : disk.node path = some .directory)
    (free : disk.node (path ++ [name]) ≠ some .directory) :
    write (path ++ [name]) contents disk = .ok ((), disk.putFile path name contents parent free) := by
  simp only [write, List.getLast?_concat, List.dropLast_concat, free, parent, dif_neg, not_false_iff, dif_pos]

theorem read_eq_ok {contents : Bytes} :
    read path disk = .ok (contents, after) ↔ disk.node path = some (.file contents) ∧ after = disk := by
  rw [read]
  split
  next file =>
    rw [file, Except.ok.injEq, Prod.mk.injEq, Option.some.injEq, FileTree.Node.file.injEq, eq_comm (a := disk)]
  next directory => exact iff_of_false nofun (by rw [directory]; nofun)
  next absent => exact iff_of_false nofun (by rw [absent]; nofun)

theorem readDir_eq_ok {names : List ν} :
    readDir path disk = .ok (names, after) ↔ disk.node path = some .directory ∧ names = disk.names path ∧ after = disk := by
  rw [readDir]
  split
  next directory =>
    rw [Except.ok.injEq, Prod.mk.injEq, eq_comm (a := disk), eq_comm (b := names)]
    exact (and_iff_right directory).symm
  next file => exact iff_of_false nofun (by rw [file]; nofun)
  next absent => exact iff_of_false nofun (by rw [absent]; nofun)

end Served

end Disk

/-- What the operating system decides, for each request by its number: whether it fails
and what it leaves of the disk then, in which order a directory is listed, and which of
its entries have a type that cannot be told. -/
structure OperatingSystem (ν : Type) [DecidableEq ν] where
  currentDir : List ν
  fault : Nat → Option IoError
  aftermath : Nat → Disk ν → Disk ν
  arrange : Nat → List ν → List ν
  arrange_perm : ∀ request names, (arrange request names).Perm names
  untyped : Nat → ν → Bool

structure Machine (ν : Type) [DecidableEq ν] where
  disk : Disk ν
  requests : Nat

namespace OperatingSystem

def resolve (os : OperatingSystem ν) (path : Path ν) : List ν :=
  if path.absolute then path.components else os.currentDir ++ path.components

theorem resolve_join (os : OperatingSystem ν) (path : Path ν) (names : List ν) :
    os.resolve (path.join (.relative names)) = os.resolve path ++ names := by
  obtain ⟨absolute, components⟩ := path
  cases absolute with
  | true => rfl
  | false => exact (List.append_assoc _ _ _).symm

variable {α : Type}

def answer (os : OperatingSystem ν) (serve : Nat → Disk ν → Except IoError (α × Disk ν)) (machine : Machine ν) :
    Except IoError α × Machine ν :=
  match os.fault machine.requests with
  | some error => (.error error, ⟨os.aftermath machine.requests machine.disk, machine.requests + 1⟩)
  | none =>
    match serve machine.requests machine.disk with
    | .error error => (.error error, ⟨machine.disk, machine.requests + 1⟩)
    | .ok (value, disk) => (.ok value, ⟨disk, machine.requests + 1⟩)

def request (os : OperatingSystem ν) (serve : Nat → Disk ν → Except IoError (α × Disk ν)) :
    Threaded (Machine ν) IoError α :=
  ExceptT.mk (os.answer serve)

end OperatingSystem

structure FileSystemEntry (ν : Type) where
  name : ν
  directory : Bool
  deriving DecidableEq, Repr

/-- The operations of a storage whose state is `σ`. -/
structure FileSystemStorage (σ ν : Type) where
  writeFile : Path ν → Bytes → Threaded σ DataFusionError Unit
  readFile : Path ν → Threaded σ DataFusionError Bytes
  listFiles : Path ν → Threaded σ DataFusionError (List (FileSystemEntry ν))
  mkdirAll : Path ν → Threaded σ DataFusionError Unit

/-- A storage on one of several machines. -/
def FileSystemStorage.on {κ σ ν : Type} [DecidableEq κ] (storage : FileSystemStorage σ ν) (machine : κ) :
    FileSystemStorage (κ → σ) ν where
  writeFile path contents := .onThread machine (storage.writeFile path contents)
  readFile path := .onThread machine (storage.readFile path)
  listFiles path := .onThread machine (storage.listFiles path)
  mkdirAll path := .onThread machine (storage.mkdirAll path)

structure PrefixedLocalFileSystemStorage (ν : Type) where
  dir : Path ν

namespace PrefixedLocalFileSystemStorage
variable (storage : PrefixedLocalFileSystemStorage ν) (os : OperatingSystem ν)

def prefixedPath (path : Path ν) : Path ν := storage.dir.join path

/-- Where a path of the storage is on the disk. -/
def place (path : Path ν) : List ν := os.resolve (storage.prefixedPath path)

def writeFile (path : Path ν) (contents : Bytes) : Threaded (Machine ν) DataFusionError Unit :=
  .mapError (fun error => let e := error.display; .execution s!"Failed to write file: {e}")
    (os.request fun _ disk => disk.write (storage.place os path) contents)

def readFile (path : Path ν) : Threaded (Machine ν) DataFusionError Bytes :=
  .mapError (fun error => let e := error.display; .execution s!"Failed to read file: {e}")
    (os.request fun _ disk => disk.read (storage.place os path))

/-- An entry whose type cannot be told counts as a file. -/
def entry (request : Nat) (disk : Disk ν) (path : List ν) (name : ν) : FileSystemEntry ν :=
  ⟨name, !os.untyped request name && disk.isDir (path ++ [name])⟩

def listFiles (path : Path ν) : Threaded (Machine ν) DataFusionError (List (FileSystemEntry ν)) := do
  let names ← .mapError (fun error => let e := error.display; .execution s!"Failed to read dir: {e}")
    (os.request fun _ disk => disk.readDir (storage.place os path))
  .mapError (fun error => let e := error.display; .internal s!"Error when reading directory: {e}")
    (os.request fun request disk =>
      .ok ((os.arrange request names).map (entry os request disk (storage.place os path)), disk))

def mkdirAll (path : Path ν) : Threaded (Machine ν) DataFusionError Unit :=
  .mapError (fun error => let e := error.display; .execution s!"Failed to create directory: {e}")
    (os.request fun _ disk => disk.createDirAll (storage.place os path))

def fileSystemStorage : FileSystemStorage (Machine ν) ν where
  writeFile := storage.writeFile os
  readFile := storage.readFile os
  listFiles := storage.listFiles os
  mkdirAll := storage.mkdirAll os

end PrefixedLocalFileSystemStorage

end DatafusionRay.Streaming
