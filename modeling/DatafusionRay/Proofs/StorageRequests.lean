import DatafusionRay.Streaming.FileSystem

/-! What an operation of the local storage does to the disk if it returns, and when it
does return. -/

namespace DatafusionRay.Proofs.DirectoryCopy
open Streaming Foundation Threaded

variable {ν : Type} [DecidableEq ν] {os : OperatingSystem ν} {storage : PrefixedLocalFileSystemStorage ν}
  {before after : Machine ν} {path : Path ν}

/-- The operating system refuses nothing by itself and tells the type of every entry. -/
structure Quiet (os : OperatingSystem ν) : Prop where
  served : ∀ request, os.fault request = none
  typed : ∀ request name, os.untyped request name = false

/-- An operating system that serves what it can and lists in the order of the disk. -/
def plainSystem : OperatingSystem ν where
  currentDir := []
  fault _ := none
  aftermath _ disk := disk
  arrange _ names := names
  arrange_perm _ _ := .refl _
  untyped _ _ := false

theorem plainSystem_quiet : Quiet (plainSystem : OperatingSystem ν) := ⟨fun _ => rfl, fun _ _ => rfl⟩

section Request
variable {α : Type} {serve : Nat → Disk ν → Except IoError (α × Disk ν)} {value : α}

theorem request_served (returned : Returns (os.request serve) before value after) :
    serve before.requests before.disk = .ok (value, after.disk) := by
  change os.answer serve before = _ at returned
  rw [OperatingSystem.answer] at returned
  split at returned
  next => cases returned
  next =>
    split at returned
    next => cases returned
    next served =>
      cases returned
      exact served

theorem Quiet.request_returns (quiet : Quiet os) {disk : Disk ν}
    (served : serve before.requests before.disk = .ok (value, disk)) :
    Returns (os.request serve) before value ⟨disk, before.requests + 1⟩ := by
  change os.answer serve before = _
  rw [OperatingSystem.answer, quiet.served, served]

end Request

theorem place_join (path : Path ν) (names : List ν) :
    storage.place os (path.join (.relative names)) = storage.place os path ++ names := by
  rw [PrefixedLocalFileSystemStorage.place, PrefixedLocalFileSystemStorage.prefixedPath, Path.join_join_relative,
    OperatingSystem.resolve_join]
  rfl

section MakeDirectories

theorem mkdirAll_effect (returned : Returns (storage.mkdirAll os path) before () after) (other : List ν) :
    after.disk.node other = if other <+: storage.place os path then some .directory else before.disk.node other :=
  Disk.node_createDirAll (request_served (returns_mapError_iff.mp returned)) other

theorem Quiet.mkdirAll_returns (quiet : Quiet os)
    (free : ∀ above, above <+: storage.place os path → ∀ contents, before.disk.node above ≠ some (.file contents)) :
    ∃ after, Returns (storage.mkdirAll os path) before () after :=
  ⟨_, returns_mapError_iff.mpr (quiet.request_returns (Disk.createDirAll_of_free free))⟩

end MakeDirectories

section Contents
variable {contents : Bytes}

theorem writeFile_effect (returned : Returns (storage.writeFile os path contents) before () after) (other : List ν) :
    after.disk.node other = if other = storage.place os path then some (.file contents) else before.disk.node other :=
  Disk.node_write (request_served (returns_mapError_iff.mp returned)) other

theorem Quiet.writeFile_returns (quiet : Quiet os) {parent : List ν} {name : ν}
    (placed : storage.place os path = parent ++ [name]) (directory : before.disk.node parent = some .directory)
    (free : before.disk.node (parent ++ [name]) ≠ some .directory) :
    ∃ after, Returns (storage.writeFile os path contents) before () after := by
  have served := Disk.write_of_parent contents directory free
  rw [← placed] at served
  exact ⟨_, returns_mapError_iff.mpr (quiet.request_returns served)⟩

theorem readFile_effect (returned : Returns (storage.readFile os path) before contents after) :
    before.disk.node (storage.place os path) = some (.file contents) ∧ after.disk = before.disk :=
  Disk.read_eq_ok.mp (request_served (returns_mapError_iff.mp returned))

theorem Quiet.readFile_returns (quiet : Quiet os)
    (file : before.disk.node (storage.place os path) = some (.file contents)) :
    ∃ after, Returns (storage.readFile os path) before contents after :=
  ⟨_, returns_mapError_iff.mpr (quiet.request_returns (Disk.read_eq_ok.mpr ⟨file, rfl⟩))⟩

end Contents

section Listing
variable {entries : List (FileSystemEntry ν)}

/-- The entries of a directory, each once. What is listed as a directory is one; a
directory is listed as a file only if its type could not be told. -/
structure Listing (os : OperatingSystem ν) (disk : Disk ν) (path : List ν) (entries : List (FileSystemEntry ν)) : Prop where
  directory : disk.node path = some .directory
  names : (entries.map FileSystemEntry.name).Perm (disk.names path)
  directories : ∀ entry ∈ entries, entry.directory = true → disk.node (path ++ [entry.name]) = some .directory
  files : Quiet os → ∀ entry ∈ entries, entry.directory = false → disk.node (path ++ [entry.name]) ≠ some .directory

theorem listFiles_effect (returned : Returns (storage.listFiles os path) before entries after) :
    Listing os before.disk (storage.place os path) entries ∧ after.disk = before.disk := by
  obtain ⟨names, middle, opened, streamed⟩ := returns_bind_iff.mp returned
  obtain ⟨directory, rfl, kept⟩ := Disk.readDir_eq_ok.mp (request_served (returns_mapError_iff.mp opened))
  have listed := request_served (returns_mapError_iff.mp streamed)
  rw [kept, Except.ok.injEq, Prod.mk.injEq] at listed
  obtain ⟨rfl, same⟩ := listed
  refine ⟨⟨directory, ?_, ?_, ?_⟩, same.symm⟩
  · rw [List.map_map]
    exact (List.map_id _).symm ▸ os.arrange_perm _ _
  · intro entry member listed
    obtain ⟨name, _, rfl⟩ := List.mem_map.mp member
    exact eq_of_beq (Bool.and_eq_true_iff.mp listed).2
  · intro quiet entry member listed
    obtain ⟨name, _, rfl⟩ := List.mem_map.mp member
    rw [PrefixedLocalFileSystemStorage.entry, quiet.typed] at listed
    exact ne_of_beq_false listed

theorem Quiet.listFiles_returns (quiet : Quiet os) (directory : before.disk.node (storage.place os path) = some .directory) :
    ∃ entries after, Returns (storage.listFiles os path) before entries after := by
  have opened : Returns (os.request fun _ disk => disk.readDir (storage.place os path)) before
      (before.disk.names (storage.place os path)) ⟨before.disk, before.requests + 1⟩ :=
    quiet.request_returns (Disk.readDir_eq_ok.mpr ⟨directory, rfl, rfl⟩)
  exact ⟨_, _, (returns_mapError_iff.mpr opened).bind (returns_mapError_iff.mpr (quiet.request_returns rfl))⟩

end Listing

end DatafusionRay.Proofs.DirectoryCopy
