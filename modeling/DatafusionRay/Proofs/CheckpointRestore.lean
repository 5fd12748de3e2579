import DatafusionRay.Proofs.DirectoryCopy
import DatafusionRay.Proofs.LocalCopy
import DatafusionRay.Streaming.CheckpointRestore

/-! A checkpoint that one worker has uploaded is fetched by another one. What the second
opens as its database is, file by file, what the first had in its checkpoint directory,
and the remote directory is left for the next. -/

namespace DatafusionRay.Proofs.CheckpointRestore
open Streaming Foundation Threaded DirectoryCopy LocalCopy

variable {κ ν : Type} [DecidableEq ν]

section Storages
variable (storages : BackendStorages κ ν)

def remotePlace (path : Path ν) : List ν := storages.remoteStorage.place (storages.os storages.remoteMachine) path

def localPlace (path : Path ν) : List ν := storages.localStorage.place (storages.os storages.localMachine) path

/-- The download of one checkpoint. -/
def downloadCall (checkpointPath : Path ν) : CopyCall κ ν where
  os := storages.os
  sourceMachine := storages.remoteMachine
  sourceStorage := storages.remoteStorage
  sourceDir := checkpointPath
  destMachine := storages.localMachine
  destStorage := storages.localStorage
  destDir := checkpointPath

/-- The backend has neither the checkpoint nor the new working directory, and the places
that are read and written are not inside one another. -/
structure Vacant (checkpointPath newWorkingDir : Path ν) (machines : κ → Machine ν) : Prop where
  separate : (downloadCall storages checkpointPath).Separate
  fresh : (downloadCall storages checkpointPath).Fresh machines
  apart : FileTree.Apart (localPlace storages checkpointPath) (localPlace storages newWorkingDir)
  absent : (machines storages.localMachine).disk.node (localPlace storages newWorkingDir) = none
  outside : storages.remoteMachine = storages.localMachine →
    FileTree.Apart (localPlace storages newWorkingDir) (remotePlace storages checkpointPath)

/-- No file is in the way of the two directories. -/
def Free (checkpointPath newWorkingDir : Path ν) (machines : κ → Machine ν) : Prop :=
  ∀ path, path <+: localPlace storages checkpointPath ∨ path <+: localPlace storages newWorkingDir →
    ∀ contents, (machines storages.localMachine).disk.node path ≠ some (.file contents)

/-- What the two copies leave, if both succeed. -/
structure Fetched (checkpointPath newWorkingDir : Path ν) (before after : κ → Machine ν) : Prop where
  opened : ∀ path, (after storages.localMachine).disk.node (localPlace storages newWorkingDir ++ path) =
    (before storages.remoteMachine).disk.node (remotePlace storages checkpointPath ++ path)
  remote : ∀ path, (after storages.remoteMachine).disk.node (remotePlace storages checkpointPath ++ path) =
    (before storages.remoteMachine).disk.node (remotePlace storages checkpointPath ++ path)

variable {storages} {checkpointPath newWorkingDir : Path ν} {machines downloaded after : κ → Machine ν}

theorem Vacant.downloaded_absent (vacant : Vacant storages checkpointPath newWorkingDir machines)
    (copied : DirectoryCopied (downloadCall storages checkpointPath) machines downloaded) :
    (downloaded storages.localMachine).disk.node (localPlace storages newWorkingDir) = none :=
  (copied.elsewhere _ vacant.apart.1 vacant.apart.2).trans vacant.absent

variable [DecidableEq κ] {fuel depth : Nat}

theorem copy_eq_ok : storages.copy depth checkpointPath newWorkingDir machines = some (.ok (), after) ↔
    Returns (onThread storages.localMachine
      (storages.localStorage.copy (storages.os storages.localMachine) depth checkpointPath newWorkingDir)) machines () after := by
  rw [BackendStorages.copy]
  constructor
  · intro ran
    split at ran
    next copied =>
      cases ran
      exact copied
    next => cases ran
    next => cases ran
  · intro copied
    rw [copied]

theorem fetch_eq_ok :
    storages.fetchCheckpoints false [checkpointPath] newWorkingDir fuel depth machines = some (.ok (), after) ↔
      ∃ downloaded, (downloadCall storages checkpointPath).run fuel machines = some (.ok (), downloaded) ∧
        storages.copy depth checkpointPath newWorkingDir downloaded = some (.ok (), after) := by
  have single : storages.download fuel [checkpointPath] machines = (downloadCall storages checkpointPath).run fuel machines := by
    have same : copyDirBetweenSystems storages.remoteSystem checkpointPath storages.localFileSystem checkpointPath fuel
        machines = (downloadCall storages checkpointPath).run fuel machines := rfl
    rw [BackendStorages.download, same]
    cases (downloadCall storages checkpointPath).run fuel machines with
    | none => rfl
    | some stopped =>
      obtain ⟨result, after⟩ := stopped
      cases result <;> rfl
  rw [BackendStorages.fetchCheckpoints, if_neg Bool.false_ne_true, single]
  constructor
  · intro ran
    split at ran
    next => cases ran
    next => cases ran
    next middle fetched =>
      obtain ⟨⟨result, last⟩, copied, same⟩ := Option.map_eq_some_iff.mp ran
      cases result with
      | error error => cases same
      | ok =>
        cases same
        exact ⟨middle, fetched, copied⟩
  · rintro ⟨middle, fetched, copied⟩
    simp only [fetched, copied]
    rfl

theorem fetch_fetched (tree : (machines storages.remoteMachine).disk.node (remotePlace storages checkpointPath) = some .directory)
    (vacant : Vacant storages checkpointPath newWorkingDir machines)
    (ran : storages.fetchCheckpoints false [checkpointPath] newWorkingDir fuel depth machines = some (.ok (), after)) :
    Fetched storages checkpointPath newWorkingDir machines after := by
  obtain ⟨downloaded, ran, copied⟩ := fetch_eq_ok.mp ran
  have download := run_copied tree vacant.separate vacant.fresh ran
  obtain ⟨returned, others⟩ := returns_onThread_iff.mp (copy_eq_ok.mp copied)
  have grafts := copy_grafts returned (vacant.downloaded_absent download) vacant.apart
  refine ⟨fun path => (grafts.contents path).trans (download.contents path), fun path => ?_⟩
  by_cases same : storages.remoteMachine = storages.localMachine
  · have outside := (vacant.outside same).append [] path
    have separate := (vacant.separate same).append path []
    rw [List.append_nil] at outside separate
    rw [same]
    have untouched := download.elsewhere (remotePlace storages checkpointPath ++ path) separate.2 separate.1
    exact (grafts.elsewhere _ outside).trans untouched
  · rw [others _ same]
    exact congrArg (FileTree.node · _) (download.others _ same)

theorem fetch_succeeds
    (tree : (machines storages.remoteMachine).disk.node (remotePlace storages checkpointPath) = some .directory)
    (vacant : Vacant storages checkpointPath newWorkingDir machines) (free : Free storages checkpointPath newWorkingDir machines)
    (quiet : ∀ machine, Quiet (storages.os machine)) :
    ∃ bound, ∀ fuel depth, bound < fuel → bound < depth → ∃ after,
      storages.fetchCheckpoints false [checkpointPath] newWorkingDir fuel depth machines = some (.ok (), after) := by
  obtain ⟨result, downloaded, bound, ran, succeeds⟩ := run_halts tree vacant.separate
  obtain rfl := succeeds vacant.fresh quiet fun path leads => free path (.inl leads)
  have download := run_copied tree vacant.separate vacant.fresh (ran _ (Nat.lt_succ_self bound))
  have fetched : (downloaded storages.localMachine).disk.node (localPlace storages checkpointPath) = some .directory :=
    download.parents _ List.prefix_rfl
  have unblocked (above : List ν) (leads : above <+: localPlace storages newWorkingDir) (contents : Bytes) :
      (downloaded storages.localMachine).disk.node above ≠ some (.file contents) := by
    by_cases parent : above <+: localPlace storages checkpointPath
    · intro file
      cases file.symm.trans (download.parents above parent)
    · have untouched := download.elsewhere above (fun inside => vacant.apart.1 (inside.trans leads)) parent
      intro file
      exact free above (.inr leads) contents (untouched.symm.trans file)
  have ready : Ready (downloaded storages.localMachine).disk (localPlace storages checkpointPath)
      (localPlace storages newWorkingDir) :=
    ⟨by rw [fetched]; rfl, vacant.downloaded_absent download, unblocked, fun contents file => by rw [fetched] at file; cases file⟩
  refine ⟨bound + size (downloaded storages.localMachine).disk (localPlace storages checkpointPath), ?_⟩
  intro fuel depth enough deep
  obtain ⟨last, returned⟩ := copy_returns (quiet _) vacant.apart ready (Nat.lt_of_le_of_lt (Nat.le_add_left _ _) deep)
  have ran := ran fuel (Nat.lt_of_le_of_lt (Nat.le_add_right _ _) enough)
  exact ⟨_, fetch_eq_ok.mpr ⟨downloaded, ran, copy_eq_ok.mpr returned.onThread⟩⟩

end Storages

variable [DecidableEq κ]

/-- A checkpoint has been uploaded, and its remote directory is as the upload has left it. -/
structure Uploaded (upload : CopyCall κ ν) (storages : BackendStorages κ ν) (checkpointPath : Path ν)
    (before machines : κ → Machine ν) : Prop where
  tree : (before upload.sourceMachine).disk.node upload.origin = some .directory
  separate : upload.Separate
  fresh : upload.Fresh before
  machine : upload.destMachine = storages.remoteMachine
  place : upload.target = remotePlace storages checkpointPath
  kept : ∃ fuel stored, upload.run fuel before = some (.ok (), stored) ∧
    ∀ path, (machines storages.remoteMachine).disk.node (remotePlace storages checkpointPath ++ path) =
      (stored storages.remoteMachine).disk.node (remotePlace storages checkpointPath ++ path)

theorem Uploaded.contents {upload : CopyCall κ ν} {storages : BackendStorages κ ν} {checkpointPath : Path ν}
    {before machines : κ → Machine ν} (uploaded : Uploaded upload storages checkpointPath before machines) (path : List ν) :
    (machines storages.remoteMachine).disk.node (remotePlace storages checkpointPath ++ path) =
      (before upload.sourceMachine).disk.node (upload.origin ++ path) := by
  obtain ⟨fuel, stored, ran, kept⟩ := uploaded.kept
  have copied := (run_copied uploaded.tree uploaded.separate uploaded.fresh ran).contents path
  rw [uploaded.machine, uploaded.place] at copied
  exact (kept path).trans copied

/-- A backend that fetches an uploaded checkpoint opens its database on the files that
the uploading backend had in its checkpoint directory. The remote directory stays as it
is, so that the checkpoint can be fetched again. If every request is served that can be
served, the fetch succeeds. -/
theorem checkpoint_restored (upload : CopyCall κ ν) (storages : BackendStorages κ ν) (checkpointPath newWorkingDir : Path ν)
    (before machines : κ → Machine ν) (uploaded : Uploaded upload storages checkpointPath before machines)
    (vacant : Vacant storages checkpointPath newWorkingDir machines) :
    (∀ fuel depth after,
      storages.fetchCheckpoints false [checkpointPath] newWorkingDir fuel depth machines = some (.ok (), after) →
        (∀ path, (after storages.localMachine).disk.node (localPlace storages newWorkingDir ++ path) =
          (before upload.sourceMachine).disk.node (upload.origin ++ path)) ∧
        Uploaded upload storages checkpointPath before after) ∧
    (Free storages checkpointPath newWorkingDir machines → (∀ machine, Quiet (storages.os machine)) →
      ∃ bound, ∀ fuel depth, bound < fuel → bound < depth → ∃ after,
        storages.fetchCheckpoints false [checkpointPath] newWorkingDir fuel depth machines = some (.ok (), after)) := by
  have tree : (machines storages.remoteMachine).disk.node (remotePlace storages checkpointPath) = some .directory := by
    have root := uploaded.contents []
    rw [List.append_nil, List.append_nil] at root
    exact root.trans uploaded.tree
  refine ⟨fun fuel depth after ran => ?_, fun free quiet => fetch_succeeds tree vacant free quiet⟩
  have fetched := fetch_fetched tree vacant ran
  obtain ⟨uploadFuel, stored, stores, kept⟩ := uploaded.kept
  refine ⟨fun path => (fetched.opened path).trans (uploaded.contents path), ?_⟩
  exact { uploaded with kept := ⟨uploadFuel, stored, stores, fun path => (fetched.remote path).trans (kept path)⟩ }

/-- The uploading worker, the remote storage and the worker that fetches, each on a
machine of its own. -/
def threeMachines : Fin 3 → Machine Nat
  | 0 => ⟨checkpointDisk, 0⟩
  | _ => ⟨FileTree.empty, 0⟩

def uploadCall : CopyCall (Fin 3) Nat where
  os _ := plainSystem
  sourceMachine := 0
  sourceStorage := workerStorage
  sourceDir := .relative [2]
  destMachine := 1
  destStorage := ⟨⟨true, [8]⟩⟩
  destDir := .relative [9]

def fetchStorages : BackendStorages (Fin 3) Nat where
  os _ := plainSystem
  remoteMachine := 1
  remoteStorage := ⟨⟨true, [8]⟩⟩
  localMachine := 2
  localStorage := workerStorage

private theorem empty_free (path : List Nat) (contents : Bytes) :
    (FileTree.empty : Disk Nat).node path ≠ some (.file contents) := by
  rw [FileTree.node_empty]
  split <;> nofun

private theorem empty_absent {path : List Nat} (below : path ≠ []) : (FileTree.empty : Disk Nat).node path = none :=
  (FileTree.node_empty path).trans (if_neg below)

theorem uploaded_checkpoint_restored :
    ∃ stored fuel depth after, uploadCall.run fuel threeMachines = some (.ok (), stored) ∧
      fetchStorages.fetchCheckpoints false [.relative [9]] (.relative [5]) fuel depth stored = some (.ok (), after) ∧
      (after 2).disk.node [1, 5, 4] = some (.file [7]) ∧ (after 2).disk.node [1, 5, 3] = some .directory := by
  have tree : (threeMachines uploadCall.sourceMachine).disk.node uploadCall.origin = some .directory := rfl
  have separate : uploadCall.Separate := fun same => absurd same (by decide)
  have fresh : uploadCall.Fresh threeMachines := fun _ _ => empty_absent (List.cons_ne_nil _ _)
  obtain ⟨result, stored, uploadBound, ran, uploads⟩ := run_halts tree separate
  obtain rfl := uploads fresh (fun _ => plainSystem_quiet) fun path _ => empty_free path
  have copied := run_copied tree separate fresh (ran _ (Nat.lt_succ_self uploadBound))
  have untouched : (stored 2).disk = FileTree.empty := copied.others 2 (by decide)
  have uploaded : Uploaded uploadCall fetchStorages (.relative [9]) threeMachines stored :=
    ⟨tree, separate, fresh, rfl, rfl, _, _, ran _ (Nat.lt_succ_self uploadBound), fun _ => rfl⟩
  have apart : FileTree.Apart [1, 9] [1, 5] := by simp [FileTree.Apart]
  have vacant : Vacant fetchStorages (.relative [9]) (.relative [5]) stored := by
    have elsewhere : fetchStorages.remoteMachine ≠ fetchStorages.localMachine := by decide
    refine ⟨fun same => absurd same elsewhere, fun path _ => ?_, apart, ?_, fun same => absurd same elsewhere⟩
    · exact (congrArg (FileTree.node · _) untouched).trans (empty_absent (List.cons_ne_nil _ _))
    · exact (congrArg (FileTree.node · _) untouched).trans (empty_absent (List.cons_ne_nil _ _))
  have free : Free fetchStorages (.relative [9]) (.relative [5]) stored := by
    intro path _ contents file
    exact empty_free path contents ((congrArg (FileTree.node · path) untouched).symm.trans file)
  obtain ⟨restores, succeeds⟩ := checkpoint_restored uploadCall fetchStorages _ _ _ _ uploaded vacant
  obtain ⟨bound, fetches⟩ := succeeds free fun _ => plainSystem_quiet
  obtain ⟨after, fetched⟩ := fetches (uploadBound + bound + 1) (bound + 1) (by omega) (by omega)
  obtain ⟨same, -⟩ := restores _ _ _ fetched
  exact ⟨stored, _, _, after, ran _ (by omega), fetched, same [4], same [3]⟩

end DatafusionRay.Proofs.CheckpointRestore
