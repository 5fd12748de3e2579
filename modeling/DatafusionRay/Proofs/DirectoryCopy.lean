import DatafusionRay.Foundation.TreeCopy
import DatafusionRay.Proofs.StorageRequests
import DatafusionRay.Streaming.DirectoryCopy

/-! A directory is copied from one local storage to another. Every directory of the
source goes through the queue once, so the copy ends, whatever the operating systems
refuse and in whatever order they list; and if nothing is refused, what is below the
destination is what is below the source. -/

namespace DatafusionRay.Proofs.DirectoryCopy
open Streaming Foundation Threaded

variable {κ ν : Type} [DecidableEq ν]

/-- One call of `copy_dir_between_systems`, on two systems that are on two machines or
on one. -/
structure CopyCall (κ ν : Type) [DecidableEq ν] where
  os : κ → OperatingSystem ν
  sourceMachine : κ
  sourceStorage : PrefixedLocalFileSystemStorage ν
  sourceDir : Path ν
  destMachine : κ
  destStorage : PrefixedLocalFileSystemStorage ν
  destDir : Path ν

namespace CopyCall
variable (call : CopyCall κ ν)

def sourceSystem [DecidableEq κ] : FileSystemStorage (κ → Machine ν) ν :=
  (call.sourceStorage.fileSystemStorage (call.os call.sourceMachine)).on call.sourceMachine

def destinationSystem [DecidableEq κ] : FileSystemStorage (κ → Machine ν) ν :=
  (call.destStorage.fileSystemStorage (call.os call.destMachine)).on call.destMachine

def origin : List ν := call.sourceStorage.place (call.os call.sourceMachine) call.sourceDir

def target : List ν := call.destStorage.place (call.os call.destMachine) call.destDir

def run [DecidableEq κ] (fuel : Nat) (machines : κ → Machine ν) :
    Option (Except DataFusionError Unit × (κ → Machine ν)) :=
  copyDirBetweenSystems call.sourceSystem call.sourceDir call.destinationSystem call.destDir fuel machines

/-- On one machine, neither directory is inside the other. -/
def Separate : Prop := call.sourceMachine = call.destMachine → FileTree.Apart call.origin call.target

/-- There is nothing in the destination, which need not exist itself. -/
def Fresh (machines : κ → Machine ν) : Prop :=
  ∀ path, path ≠ [] → (machines call.destMachine).disk.node (call.target ++ path) = none

/-- Every request is served that can be served. -/
def Served : Prop := ∀ machine, Quiet (call.os machine)

end CopyCall

structure DirectoryCopied (call : CopyCall κ ν) (before after : κ → Machine ν) : Prop where
  contents : ∀ path, (after call.destMachine).disk.node (call.target ++ path) =
    (before call.sourceMachine).disk.node (call.origin ++ path)
  parents : ∀ path, path <+: call.target → (after call.destMachine).disk.node path = some .directory
  elsewhere : ∀ path, ¬ call.target <+: path → ¬ path <+: call.target →
    (after call.destMachine).disk.node path = (before call.destMachine).disk.node path
  others : ∀ machine, machine ≠ call.destMachine → (after machine).disk = (before machine).disk

/-- The copy is under way and has not reached what it is made from. -/
structure Undisturbed (call : CopyCall κ ν) (start now : κ → Machine ν) : Prop where
  others : ∀ machine, machine ≠ call.destMachine → (now machine).disk = (start machine).disk
  origin : ∀ path, (now call.sourceMachine).disk.node (call.origin ++ path) =
    (start call.sourceMachine).disk.node (call.origin ++ path)

section Undisturbed
variable {call : CopyCall κ ν} {start now after : κ → Machine ν}

private theorem Undisturbed.read (undisturbed : Undisturbed call start now)
    (same : ∀ machine, (after machine).disk = (now machine).disk) : Undisturbed call start after where
  others machine other := (same machine).trans (undisturbed.others machine other)
  origin path := by
    rw [same]
    exact undisturbed.origin path

/-- Neither a directory nor a file that is made below the destination is at or above
anything below the source. -/
theorem Undisturbed.write (separate : call.Separate) (undisturbed : Undisturbed call start now)
    (others : ∀ machine, machine ≠ call.destMachine → after machine = now machine)
    (entry : List ν) (written : ∀ path, ¬ path <+: call.target ++ entry →
      (after call.destMachine).disk.node path = (now call.destMachine).disk.node path) : Undisturbed call start after where
  others machine other := by
    rw [others machine other]
    exact undisturbed.others machine other
  origin path := by
    rw [← undisturbed.origin path]
    by_cases same : call.sourceMachine = call.destMachine
    · have untouched := written (call.origin ++ path) ((separate same).not_leads path entry)
      rwa [← same] at untouched
    · rw [others call.sourceMachine same]

private theorem disks_of_read [DecidableEq κ] {α : Type} {machine : κ}
    {program : Threaded (Machine ν) DataFusionError α} {value : α}
    (returned : Returns (onThread machine program) now value after) (same : (after machine).disk = (now machine).disk)
    (other : κ) : (after other).disk = (now other).disk := by
  by_cases own : other = machine
  · rw [own]
    exact same
  · rw [(returns_onThread_iff.mp returned).2 other own]

end Undisturbed

/-- Which paths are left does not depend on the destination; what has become of the
others is known if it was fresh. -/
structure Progress (call : CopyCall κ ν) (start : κ → Machine ν) (entries queue : List (List ν)) (now : κ → Machine ν) :
    Prop where
  traversal : FileTree.Traversal (start call.sourceMachine).disk call.origin entries queue
  copying : call.Fresh start → FileTree.Copying (start call.sourceMachine).disk (start call.destMachine).disk
    call.origin call.target entries queue (now call.destMachine).disk

section Entries
variable {call : CopyCall κ ν} {start : κ → Machine ν} {next : List ν} {old : List (List ν)}

/-- The loop over the entries of a directory, with those that are left. -/
structure EntryLoop (call : CopyCall κ ν) (start : κ → Machine ν) (next : List ν) (old : List (List ν))
    (entries : List (FileSystemEntry ν)) (queue : List (Path ν)) (now : κ → Machine ν) : Prop where
  undisturbed : Undisturbed call start now
  present : ∀ entry ∈ entries, ((start call.sourceMachine).disk.node (call.origin ++ (next ++ [entry.name]))).isSome
  directories : ∀ entry ∈ entries, entry.directory = true →
    (start call.sourceMachine).disk.node (call.origin ++ (next ++ [entry.name])) = some .directory
  files : call.Served → ∀ entry ∈ entries, entry.directory = false →
    (start call.sourceMachine).disk.node (call.origin ++ (next ++ [entry.name])) ≠ some .directory
  copying : ∃ left, queue = left.map Path.relative ∧
    (∀ directory ∈ left, directory ∈ old ∨ ∃ name, directory = next ++ [name]) ∧
    Progress call start (entries.map fun entry => next ++ [entry.name]) left now

private theorem source_place : call.sourceStorage.place (call.os call.sourceMachine)
    (call.sourceDir.join (.relative next)) = call.origin ++ next := place_join _ _

private theorem source_entry_place (name : ν) : call.sourceStorage.place (call.os call.sourceMachine)
    ((call.sourceDir.join (.relative next)).join (.relative [name])) = call.origin ++ (next ++ [name]) := by
  rw [place_join, source_place, List.append_assoc]

private theorem dest_entry_place (name : ν) : call.destStorage.place (call.os call.destMachine)
    ((call.destDir.join (.relative next)).join (.relative [name])) = call.target ++ (next ++ [name]) := by
  rw [place_join, place_join, List.append_assoc]
  rfl

variable [DecidableEq κ] {entry : FileSystemEntry ν} {rest : List (FileSystemEntry ν)} {queue pushed : List (Path ν)}
  {now after : κ → Machine ν}

theorem EntryLoop.step (separate : call.Separate) (loop : EntryLoop call start next old (entry :: rest) queue now)
    (returned : Returns (copyEntry call.sourceSystem call.sourceDir call.destinationSystem call.destDir
      (.relative next) queue entry) now pushed after) :
    EntryLoop call start next old rest pushed after := by
  obtain ⟨left, rfl, inside, progress⟩ := loop.copying
  have later {other : FileSystemEntry ν} (member : other ∈ rest) : other ∈ entry :: rest := List.mem_cons_of_mem _ member
  have kept (undisturbed : Undisturbed call start after) (copying : ∃ left, pushed = left.map Path.relative ∧
      (∀ directory ∈ left, directory ∈ old ∨ ∃ name, directory = next ++ [name]) ∧
      Progress call start (rest.map fun entry => next ++ [entry.name]) left after) :
      EntryLoop call start next old rest pushed after :=
    ⟨undisturbed, fun other member => loop.present other (later member),
      fun other member => loop.directories other (later member),
      fun served other member => loop.files served other (later member), copying⟩
  rw [copyEntry] at returned
  cases kind : entry.directory with
  | true =>
    rw [if_pos kind, returns_bind_iff] at returned
    obtain ⟨_, middle, made, pushes⟩ := returned
    obtain ⟨rfl, rfl⟩ := returns_pure_iff.mp pushes
    obtain ⟨made, others⟩ := returns_onThread_iff.mp made
    have effect := mkdirAll_effect made
    rw [dest_entry_place] at effect
    refine kept (loop.undisturbed.write separate others (next ++ [entry.name]) fun path outside => ?_)
      ⟨(next ++ [entry.name]) :: left, rfl, ?_, ?_⟩
    · rw [effect, if_neg outside]
    · intro directory member
      rcases List.mem_cons.mp member with rfl | earlier
      · exact .inr ⟨entry.name, rfl⟩
      · exact inside directory earlier
    · have directory := loop.directories entry List.mem_cons_self kind
      exact ⟨progress.traversal.directory directory, fun fresh => (progress.copying fresh).directory directory effect⟩
  | false =>
    rw [if_neg (by rw [kind]; exact Bool.false_ne_true), returns_bind_iff] at returned
    obtain ⟨contents, middle, read, returned⟩ := returned
    obtain ⟨_, last, written, pushes⟩ := returns_bind_iff.mp returned
    obtain ⟨rfl, rfl⟩ := returns_pure_iff.mp pushes
    obtain ⟨file, same⟩ := readFile_effect (returns_onThread_iff.mp read).1
    have disks := disks_of_read read same
    obtain ⟨written, others⟩ := returns_onThread_iff.mp written
    have effect := writeFile_effect written
    rw [source_entry_place, loop.undisturbed.origin] at file
    rw [dest_entry_place, disks] at effect
    refine kept ((loop.undisturbed.read disks).write separate others (next ++ [entry.name]) fun path outside => ?_)
      ⟨left, rfl, inside, ?_⟩
    · have other : path ≠ call.target ++ (next ++ [entry.name]) := by
        rintro rfl
        exact outside List.prefix_rfl
      rw [effect, if_neg other, disks]
    · have below : next ++ [entry.name] ≠ [] := List.append_ne_nil_of_right_ne_nil _ (List.cons_ne_nil _ _)
      exact ⟨progress.traversal.file, fun fresh => (progress.copying fresh).file below file effect⟩

/-- Where every request is served, the entries are what they are listed as, so each of
them can be copied. -/
theorem EntryLoop.returns (loop : EntryLoop call start next old (entry :: rest) queue now) (fresh : call.Fresh start)
    (served : call.Served) :
    ∃ pushed after, Returns (copyEntry call.sourceSystem call.sourceDir call.destinationSystem call.destDir
      (.relative next) queue entry) now pushed after := by
  obtain ⟨left, rfl, _, progress⟩ := loop.copying
  have copying := progress.copying fresh
  have present := loop.present entry List.mem_cons_self
  rw [copyEntry]
  cases kind : entry.directory with
  | true =>
    have free (above : List ν) (leads : above <+: call.target ++ (next ++ [entry.name])) (contents : Bytes) :
        (now call.destMachine).disk.node above ≠ some (.file contents) := copying.free_above present leads contents
    rw [← dest_entry_place] at free
    obtain ⟨after, made⟩ := (served call.destMachine).mkdirAll_returns free
    rw [if_pos rfl]
    exact ⟨_, _, made.onThread.bind (returns_pure _ _)⟩
  | false =>
    obtain ⟨node, found⟩ := Option.isSome_iff_exists.mp present
    cases node with
    | directory => exact absurd found (loop.files served entry List.mem_cons_self kind)
    | file contents =>
      rw [← loop.undisturbed.origin, ← source_entry_place] at found
      obtain ⟨after, read⟩ := (served call.sourceMachine).readFile_returns found
      have disks := disks_of_read read.onThread (by rw [Function.update_self, (readFile_effect read).2])
      have parent : (now call.destMachine).disk.node (call.target ++ next) = some .directory :=
        copying.directory_above rfl (List.cons_ne_nil _ _) present
      have free : (now call.destMachine).disk.node (call.target ++ next ++ [entry.name]) ≠ some .directory := by
        rw [List.append_assoc, copying.entry_untouched]
        nofun
      rw [← disks] at parent free
      have placed := (dest_entry_place entry.name).trans (List.append_assoc call.target next [entry.name]).symm
      obtain ⟨last, written⟩ := (served call.destMachine).writeFile_returns placed parent free
      rw [if_neg Bool.false_ne_true]
      exact ⟨_, _, read.onThread.bind (written.onThread.bind (returns_pure _ _))⟩

end Entries

section Directories
variable {call : CopyCall κ ν} {start : κ → Machine ν}

/-- The loop over the queue. -/
def QueueLoop (call : CopyCall κ ν) (start : κ → Machine ν) (queue : List (Path ν)) (now : κ → Machine ν) : Prop :=
  Undisturbed call start now ∧ ∃ left, queue = left.map Path.relative ∧ Progress call start [] left now

private theorem QueueLoop.top {top : Path ν} {queue : List (Path ν)} {now : κ → Machine ν}
    (loop : QueueLoop call start (top :: queue) now) :
    ∃ next left, top = .relative next ∧ queue = left.map Path.relative ∧ Undisturbed call start now ∧
      Progress call start [] (next :: left) now := by
  obtain ⟨undisturbed, left, split, progress⟩ := loop
  cases left with
  | nil => cases split
  | cons next left =>
    obtain ⟨rfl, rfl⟩ := List.cons.inj split
    exact ⟨next, left, rfl, rfl, undisturbed, progress⟩

/-- What is left of the source below the directories of the queue. -/
def weight (call : CopyCall κ ν) (source : Disk ν) (queue : List (Path ν)) : Nat :=
  (FileTree.remaining source call.origin (queue.map Path.components)).card

private theorem weight_map {source : Disk ν} (left : List (List ν)) :
    weight call source (left.map Path.relative) = (FileTree.remaining source call.origin left).card := by
  rw [weight, List.map_map]
  exact congrArg (fun queue => (FileTree.remaining source call.origin queue).card) (List.map_id left)

variable [DecidableEq κ] {next : List ν} {left : List (List ν)} {entries : List (FileSystemEntry ν)} {pushed : List (Path ν)}
  {now middle after : κ → Machine ν}

/-- A directory that has been listed is copied entry by entry. -/
private theorem EntryLoop.enter (undisturbed : Undisturbed call start now)
    (progress : Progress call start [] (next :: left) now)
    (listed : Returns (call.sourceSystem.listFiles (call.sourceDir.join (.relative next))) now entries middle) :
    EntryLoop call start next left entries (left.map Path.relative) middle := by
  obtain ⟨listing, same⟩ := listFiles_effect (returns_onThread_iff.mp listed).1
  have disks := disks_of_read listed same
  rw [source_place] at listing
  have inside (name : ν) : call.origin ++ (next ++ [name]) = call.origin ++ next ++ [name] :=
    (List.append_assoc _ _ _).symm
  have unchanged (name : ν) : (start call.sourceMachine).disk.node (call.origin ++ (next ++ [name])) =
      (now call.sourceMachine).disk.node (call.origin ++ next ++ [name]) := by
    rw [← undisturbed.origin, inside]
  refine ⟨undisturbed.read disks, ?_, ?_, ?_, left, rfl, fun directory member => .inl member, ?_⟩
  · intro entry member
    rw [unchanged]
    exact FileTree.mem_names.mp (listing.names.mem_iff.mp (List.mem_map_of_mem member))
  · intro entry member kind
    rw [unchanged]
    exact listing.directories entry member kind
  · intro served entry member kind
    rw [unchanged]
    exact listing.files (served call.sourceMachine) entry member kind
  · have names : ((now call.sourceMachine).disk.names (call.origin ++ next)).Perm
        ((start call.sourceMachine).disk.names (call.origin ++ next)) :=
      FileTree.names_perm fun name => by rw [← unchanged, inside]
    have traversal := progress.traversal.list (listing.names.trans names)
    rw [List.map_map] at traversal
    refine ⟨traversal, fun fresh => ?_⟩
    have copying := (progress.copying fresh).list (listing.names.trans names)
    rwa [List.map_map, ← disks] at copying

theorem QueueLoop.step (separate : call.Separate) {top : Path ν} {queue : List (Path ν)}
    (loop : QueueLoop call start (top :: queue) now)
    (returned : Returns (copyNext call.sourceSystem call.sourceDir call.destinationSystem call.destDir top queue)
      now pushed after) :
    QueueLoop call start pushed after ∧
      weight call (start call.sourceMachine).disk pushed < weight call (start call.sourceMachine).disk (top :: queue) := by
  obtain ⟨next, left, rfl, rfl, undisturbed, progress⟩ := loop.top
  obtain ⟨entries, middle, listed, copied⟩ := returns_bind_iff.mp returned
  have finished := Returns.foldlM (fun _ _ _ _ _ _ loop returned => loop.step separate returned)
    (EntryLoop.enter undisturbed progress listed) copied
  obtain ⟨last, rfl, inside, done⟩ := finished.copying
  refine ⟨⟨finished.undisturbed, last, rfl, done⟩, ?_⟩
  rw [weight_map, ← List.map_cons, weight_map]
  exact progress.traversal.remaining_lt inside

theorem QueueLoop.returns (separate : call.Separate) {top : Path ν} {queue : List (Path ν)}
    (loop : QueueLoop call start (top :: queue) now) (fresh : call.Fresh start) (served : call.Served) :
    ∃ pushed after, Returns (copyNext call.sourceSystem call.sourceDir call.destinationSystem call.destDir top queue)
      now pushed after := by
  obtain ⟨next, left, rfl, rfl, undisturbed, progress⟩ := loop.top
  have directory : (now call.sourceMachine).disk.node
      (call.sourceStorage.place (call.os call.sourceMachine) (call.sourceDir.join (.relative next))) =
        some .directory := by
    rw [source_place, undisturbed.origin]
    exact progress.traversal.next_directory
  obtain ⟨entries, middle, listed⟩ := (served call.sourceMachine).listFiles_returns directory
  have entered := EntryLoop.enter undisturbed progress listed.onThread
  obtain ⟨pushed, after, copied⟩ := exists_returns_foldlM
    (fun _ _ _ _ _ _ loop returned => loop.step separate returned) (fun _ _ _ _ loop => loop.returns fresh served) entered
  exact ⟨pushed, after, listed.onThread.bind copied⟩

end Directories

section Calls
variable [DecidableEq κ] {call : CopyCall κ ν} {machines middle after : κ → Machine ν}

/-- The destination is made before the queue is worked off. -/
theorem queue_started (tree : (machines call.sourceMachine).disk.node call.origin = some .directory)
    (separate : call.Separate) (made : Returns (call.destinationSystem.mkdirAll call.destDir) machines () middle) :
    QueueLoop call machines [.relative []] middle := by
  obtain ⟨returned, others⟩ := returns_onThread_iff.mp made
  have effect := mkdirAll_effect returned
  have written (path : List ν) (above : ¬ path <+: call.target ++ []) :
      (middle call.destMachine).disk.node path = (machines call.destMachine).disk.node path := by
    rw [List.append_nil] at above
    exact (effect path).trans (if_neg above)
  have untouched : Undisturbed call machines machines := ⟨fun _ _ => rfl, fun _ => rfl⟩
  exact ⟨untouched.write separate others [] written, [[]], rfl, .start tree, fun fresh => .start tree fresh effect⟩

/-- A call that has succeeded has made a complete copy. -/
theorem run_copied {fuel : Nat} (tree : (machines call.sourceMachine).disk.node call.origin = some .directory)
    (separate : call.Separate) (fresh : call.Fresh machines) (ran : call.run fuel machines = some (.ok (), after)) :
    DirectoryCopied call machines after := by
  rw [CopyCall.run, copyDirBetweenSystems] at ran
  split at ran
  next error middle refused => cases ran
  next middle made =>
    obtain ⟨unchanged, left, none, progress⟩ :=
      workList_returns (fun _ _ _ _ _ loop returned => (loop.step separate returned).1) (queue_started tree separate made) ran
    obtain rfl := List.map_eq_nil_iff.mp none.symm
    have copied := progress.copying fresh
    exact ⟨copied.finished, copied.parents, fun path inside above => copied.elsewhere path ⟨inside, above⟩,
      unchanged.others⟩

/-- Every call ends, and it succeeds where every request is served that can be served. -/
theorem run_halts (tree : (machines call.sourceMachine).disk.node call.origin = some .directory) (separate : call.Separate) :
    ∃ result after bound, (∀ fuel, bound < fuel → call.run fuel machines = some (result, after)) ∧
      (call.Fresh machines → call.Served → (∀ path, path <+: call.target → ∀ contents,
        (machines call.destMachine).disk.node path ≠ some (.file contents)) → result = .ok ()) := by
  simp only [CopyCall.run, copyDirBetweenSystems]
  cases made : (call.destinationSystem.mkdirAll call.destDir).outcome machines with
  | mk result middle =>
    cases result with
    | error error =>
      refine ⟨.error error, middle, 0, fun _ _ => rfl, fun _ served free => ?_⟩
      obtain ⟨after, returned⟩ := (served call.destMachine).mkdirAll_returns free
      cases made.symm.trans (returned.onThread : Returns (call.destinationSystem.mkdirAll call.destDir) machines () _)
    | ok _ =>
      obtain ⟨result, after, halts, -, succeeds⟩ :=
        workList_halts (fun _ _ _ _ _ loop returned => loop.step separate returned) (queue_started tree separate made)
      exact ⟨result, after, _, halts, fun fresh served _ => succeeds fun _ _ _ loop => loop.returns separate fresh served⟩

end Calls

/-- For every directory of the source, the call ends, whatever is at the destination. If
there was nothing in it and no operation fails, it is a copy and nothing else has changed;
and where every request is served that can be served, none fails. -/
theorem directory_copied [DecidableEq κ] (call : CopyCall κ ν) (machines : κ → Machine ν)
    (tree : (machines call.sourceMachine).disk.node call.origin = some .directory)
    (separate : call.Separate) :
    ∃ result after, (∃ bound, ∀ fuel, bound < fuel → call.run fuel machines = some (result, after)) ∧
      (call.Fresh machines → result = .ok () → DirectoryCopied call machines after) ∧
      (call.Fresh machines → call.Served → (∀ path, path <+: call.target → ∀ contents,
        (machines call.destMachine).disk.node path ≠ some (.file contents)) → result = .ok ()) := by
  obtain ⟨result, after, bound, halts, succeeds⟩ := run_halts tree separate
  refine ⟨result, after, ⟨bound, halts⟩, fun fresh same => ?_, succeeds⟩
  subst same
  exact run_copied tree separate fresh (halts _ (Nat.lt_succ_self bound))

section OneDisk

private def stateDirectory : Disk String := FileTree.empty.makeDirectories ["local", "state", "empty"]

private theorem node_stateDirectory (path : List String) :
    stateDirectory.node path = if path <+: ["local", "state", "empty"] then some .directory
      else if path = [] then some .directory else none := by
  rw [stateDirectory, FileTree.node_makeDirectories, FileTree.node_empty]

private def stateDisk : Disk String :=
  stateDirectory.putFile ["local", "state"] "CURRENT" [1] (by simp [node_stateDirectory]) (by simp [node_stateDirectory])

private theorem node_stateDisk (path : List String) :
    stateDisk.node path = if path = ["local", "state", "CURRENT"] then some (.file [1]) else stateDirectory.node path :=
  FileTree.node_putFile _ _ path

/-- An upload to a remote storage that is a directory of the same disk. -/
private def uploadCall : CopyCall Unit String where
  os _ := plainSystem
  sourceMachine := ()
  sourceStorage := ⟨⟨true, ["local"]⟩⟩
  sourceDir := .relative ["state"]
  destMachine := ()
  destStorage := ⟨⟨true, ["remote"]⟩⟩
  destDir := .relative ["backup"]

theorem upload_copied :
    ∃ after, (∃ bound, ∀ fuel, bound < fuel → uploadCall.run fuel (fun _ => ⟨stateDisk, 0⟩) = some (.ok (), after)) ∧
      DirectoryCopied uploadCall (fun _ => ⟨stateDisk, 0⟩) after ∧
      (after ()).disk.node ["remote", "backup", "CURRENT"] = some (.file [1]) ∧
      (after ()).disk.node ["remote", "backup", "empty"] = some .directory := by
  have tree : stateDisk.node ["local", "state"] = some .directory := by simp [node_stateDisk, node_stateDirectory]
  have apart : FileTree.Apart ["local", "state"] ["remote", "backup"] := by simp [FileTree.Apart]
  have absent : stateDisk.node ["remote", "backup"] = none := by simp [node_stateDisk, node_stateDirectory]
  have fresh : uploadCall.Fresh fun _ => ⟨stateDisk, 0⟩ := fun _ _ => FileTree.none_below_none absent
  have free (path : List String) (above : path <+: ["remote", "backup"]) (contents : Bytes) :
      stateDisk.node path ≠ some (.file contents) := by
    rw [node_stateDisk, node_stateDirectory]
    split
    next file =>
      rw [file] at above
      simp at above
    next =>
      split
      · nofun
      · split <;> nofun
  obtain ⟨result, after, halts, copied, succeeds⟩ :=
    directory_copied uploadCall (fun _ => ⟨stateDisk, 0⟩) tree fun _ => apart
  have served : uploadCall.Served := fun _ => ⟨fun _ => rfl, fun _ _ => rfl⟩
  obtain rfl := succeeds fresh served free
  have copy := copied fresh rfl
  refine ⟨after, halts, copy, (copy.contents ["CURRENT"]).trans ?_, (copy.contents ["empty"]).trans ?_⟩
  · exact (node_stateDisk _).trans (if_pos rfl)
  · change stateDisk.node ["local", "state", "empty"] = _
    simp [node_stateDisk, node_stateDirectory]

end OneDisk

end DatafusionRay.Proofs.DirectoryCopy
