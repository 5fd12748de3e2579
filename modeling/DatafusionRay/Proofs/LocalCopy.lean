import DatafusionRay.Foundation.TreeCopy
import DatafusionRay.Proofs.StorageRequests
import DatafusionRay.Streaming.LocalCopy

/-! Copying inside one storage. The calls go as deep as the directories do, each of them
puts one entry with all that is below it in its place, and no call reaches what another
one reads. -/

namespace DatafusionRay.Proofs.LocalCopy
open Streaming Streaming.LocalCopy Foundation Threaded
open DirectoryCopy (Quiet request_served place_join plainSystem plainSystem_quiet)

variable {ν : Type} [DecidableEq ν] {os : OperatingSystem ν} {storage : PrefixedLocalFileSystemStorage ν}
  {before after : Machine ν} {src dst : Path ν} {depth : Nat}

section Requests

theorem isDir_effect {path : List ν} {isDir : Bool}
    (returned : Returns (os.isDir path : Threaded (Machine ν) Interruption Bool) before isDir after) :
    after.disk = before.disk ∧ (isDir = true → before.disk.node path = some .directory) := by
  rw [Returns, OperatingSystem.outcome_isDir] at returned
  cases returned
  refine ⟨rfl, fun answered => ?_⟩
  exact eq_of_beq (Bool.and_eq_true_iff.mp answered).2

theorem nextEntry_effect (returned : Returns (nextEntry os) before () after) : after.disk = before.disk := by
  have served := request_served (returns_mapError_iff.mp returned)
  rw [Except.ok.injEq, Prod.mk.injEq] at served
  exact served.2.symm

theorem copyFile_effect {origin target : List ν} {disk copy : Disk ν} (copied : disk.copyFile origin target = .ok ((), copy)) :
    ∃ contents, disk.node origin = some (.file contents) ∧
      ∀ other, copy.node other = if other = target then some (.file contents) else disk.node other := by
  rw [Disk.copyFile] at copied
  split at copied
  next contents file => exact ⟨contents, file, Disk.node_write copied⟩
  next => cases copied
  next => cases copied

theorem readDir_effect {path names : List ν} {request : Nat} {disk same : Disk ν}
    (listed : ((disk.readDir path).map fun (names, disk) => (os.arrange request names, disk)) = .ok (names, same)) :
    names.Perm (disk.names path) ∧ same = disk := by
  cases read : disk.readDir path with
  | error error =>
    rw [read] at listed
    cases listed
  | ok result =>
    obtain ⟨found, left⟩ := result
    obtain ⟨-, rfl, rfl⟩ := Disk.readDir_eq_ok.mp read
    rw [read] at listed
    cases listed
    exact ⟨os.arrange_perm request _, rfl⟩

end Requests

/-- How a call that returns has gone about it. -/
inductive CopyStep (os : OperatingSystem ν) (storage : PrefixedLocalFileSystemStorage ν) (depth : Nat) (src dst : Path ν)
    (before after : Machine ν) : Prop
  | file (contents : Bytes) (found : before.disk.node (storage.place os src) = some (.file contents))
      (written : ∀ other, after.disk.node other =
        if other = storage.place os dst then some (.file contents) else before.disk.node other)
  | directory (names : List ν) (opened : Machine ν) (found : before.disk.node (storage.place os src) = some .directory)
      (made : ∀ other, opened.disk.node other =
        if other <+: storage.place os dst then some .directory else before.disk.node other)
      (listed : names.Perm (opened.disk.names (storage.place os src)))
      (copied : Returns (copyEntries os (storage.copy os depth) src dst names) opened () after)

theorem copyStep_of_returns (returned : Returns (storage.copy os (depth + 1) src dst) before () after) :
    CopyStep os storage depth src dst before after := by
  obtain ⟨isDir, middle, asked, returned⟩ := returns_bind_iff.mp returned
  obtain ⟨same, directory⟩ := isDir_effect asked
  cases isDir with
  | true =>
    rw [if_pos rfl] at returned
    obtain ⟨_, made, creates, returned⟩ := returns_bind_iff.mp returned
    obtain ⟨names, opened, lists, copied⟩ := returns_bind_iff.mp returned
    have created := Disk.node_createDirAll (request_served (returns_mapError_iff.mp creates))
    obtain ⟨listed, unchanged⟩ := readDir_effect (request_served (returns_mapError_iff.mp lists))
    refine .directory names opened (directory rfl) ?_ ?_ copied
    · rw [unchanged, ← same]
      exact created
    · rw [unchanged]
      exact listed
  | false =>
    rw [if_neg Bool.false_ne_true] at returned
    have copied := request_served (returns_mapError_iff.mp returned)
    rw [same] at copied
    obtain ⟨contents, found, written⟩ := copyFile_effect copied
    exact .file contents found written

/-- One turn of the loop over the entries. -/
theorem entry_returns {name : ν} {copy : Path ν → Path ν → Threaded (Machine ν) Interruption Unit}
    (returned : Returns (do
      nextEntry os
      copy (src.join (.relative [name])) (dst.join (.relative [name]))) before () after) :
    ∃ middle, middle.disk = before.disk ∧
      Returns (copy (src.join (.relative [name])) (dst.join (.relative [name]))) middle () after := by
  obtain ⟨_, middle, read, copied⟩ := returns_bind_iff.mp returned
  exact ⟨middle, nextEntry_effect read, copied⟩

/-- An assertion on the entries that are left and on the disk. -/
def OnDisk (invariant : List ν → Disk ν → Prop) (rest : List ν) (_ : Unit) (now : Machine ν) : Prop :=
  invariant rest now.disk

/-- An invariant of the disk that every call for an entry keeps. -/
theorem copyEntries_keeps {copy : Path ν → Path ν → Threaded (Machine ν) Interruption Unit}
    {invariant : List ν → Disk ν → Prop} {names : List ν}
    (kept : ∀ name rest now next, invariant (name :: rest) now.disk →
      Returns (copy (src.join (.relative [name])) (dst.join (.relative [name]))) now () next → invariant rest next.disk)
    (initial : invariant names before.disk) (returned : Returns (copyEntries os copy src dst names) before () after) :
    invariant [] after.disk := by
  obtain ⟨_, middle, looped, read⟩ := returns_bind_iff.mp returned
  rw [nextEntry_effect read]
  have entered : OnDisk invariant names () before := initial
  refine Returns.foldlM (fun name rest _ _ now next holds returned => ?_) entered looped
  obtain ⟨middle, same, copied⟩ := entry_returns returned
  exact kept name rest middle next (same ▸ holds) copied

def SameAt (path : List ν) (start : Disk ν) (_ : List ν) (now : Disk ν) : Prop := now.node path = start.node path

/-- A call changes nothing that is neither above nor below its destination. -/
theorem copy_elsewhere (returned : Returns (storage.copy os depth src dst) before () after) {path : List ν}
    (apart : FileTree.Apart (storage.place os dst) path) : after.disk.node path = before.disk.node path := by
  induction depth generalizing src dst before after with
  | zero => cases returned
  | succ depth ih =>
    cases copyStep_of_returns returned with
    | file contents found written =>
      rw [written, if_neg]
      rintro rfl
      exact apart.1 List.prefix_rfl
    | directory names opened found made listed copied =>
      have kept : ∀ name rest (now next : Machine ν), SameAt path before.disk (name :: rest) now.disk →
          Returns (storage.copy os depth (src.join (.relative [name])) (dst.join (.relative [name]))) now () next →
            SameAt path before.disk rest next.disk := by
        intro name rest now next same returned
        have inside := apart.append [name] []
        rw [List.append_nil, ← place_join] at inside
        exact (ih returned inside).trans same
      exact copyEntries_keeps kept ((made path).trans (if_neg apart.2)) copied

/-- What is below one path is now below the other as well. -/
structure Grafts (before : Disk ν) (origin target : List ν) (after : Disk ν) : Prop where
  contents : ∀ path, after.node (target ++ path) = before.node (origin ++ path)
  above : ∀ path, path <+: target → path ≠ target → after.node path = some .directory
  elsewhere : ∀ path, FileTree.Apart target path → after.node path = before.node path

theorem Grafts.file {start now : Disk ν} {origin target : List ν} {contents : Bytes}
    (found : start.node origin = some (.file contents)) (fresh : start.node target = none)
    (written : ∀ other, now.node other = if other = target then some (.file contents) else start.node other) :
    Grafts start origin target now where
  contents path := by
    rw [written]
    by_cases root : path = []
    · rw [root, List.append_nil, List.append_nil, if_pos rfl, found]
    · rw [if_neg (mt List.append_right_eq_self.mp root), FileTree.none_below_none fresh, FileTree.none_below found root]
  above path leads other := by
    obtain ⟨rest, rfl⟩ := leads
    have below : rest ≠ [] := by
      rintro rfl
      exact other (List.append_nil path).symm
    apply FileTree.directory_above below
    rw [written, if_pos rfl]
    rfl
  elsewhere path apart := by
    rw [written, if_neg]
    rintro rfl
    exact apart.1 List.prefix_rfl

/-- The loop over the entries of a directory, with those that are left. -/
structure EntryLoop (source : Disk ν) (origin target rest : List ν) (now : Disk ν) : Prop where
  undisturbed : ∀ path, now.node (origin ++ path) = source.node (origin ++ path)
  present : ∀ name ∈ rest, (source.node (origin ++ [name])).isSome
  copying : FileTree.Copying source source origin target (rest.map fun name => [name]) [] now

theorem EntryLoop.enter {source now : Disk ν} {origin target names : List ν}
    (found : source.node origin = some .directory) (fresh : source.node target = none)
    (apart : FileTree.Apart origin target)
    (made : ∀ other, now.node other = if other <+: target then some .directory else source.node other)
    (listed : names.Perm (now.names origin)) : EntryLoop source origin target names now := by
  have undisturbed : ∀ path, now.node (origin ++ path) = source.node (origin ++ path) := by
    intro path
    have outside := apart.not_leads path []
    rw [List.append_nil] at outside
    rw [made, if_neg outside]
  have same : names.Perm (source.names origin) := listed.trans (FileTree.names_perm fun name => undisturbed [name])
  refine ⟨undisturbed, fun name member => FileTree.mem_names.mp (same.mem_iff.mp member), ?_⟩
  have copying := FileTree.Copying.start found (fun path _ => FileTree.none_below_none fresh) made
  refine copying.list ?_
  rwa [List.append_nil]

theorem EntryLoop.entry {source now next : Disk ν} {origin target rest : List ν} {name : ν}
    (loop : EntryLoop source origin target (name :: rest) now) (apart : FileTree.Apart origin target)
    (grafts : Grafts now (origin ++ [name]) (target ++ [name]) next) : EntryLoop source origin target rest next := by
  refine ⟨fun path => ?_, fun other member => loop.present other (List.mem_cons_of_mem name member), ?_⟩
  · rw [grafts.elsewhere _ (apart.append path [name]).symm, loop.undisturbed]
  · refine loop.copying.subtree (loop.present name List.mem_cons_self) (fun path => ?_) grafts.above grafts.elsewhere
      (List.cons_ne_nil _ _)
    rw [grafts.contents, List.append_assoc, loop.undisturbed]

/-- One entry further, if the call for it grafts it where there is room for it. -/
theorem EntryLoop.copied {source : Disk ν} {rest : List ν} {name : ν} {now next : Machine ν}
    (loop : EntryLoop source (storage.place os src) (storage.place os dst) (name :: rest) now.disk)
    (apart : FileTree.Apart (storage.place os src) (storage.place os dst))
    (grafts : now.disk.node (storage.place os (dst.join (.relative [name]))) = none →
      FileTree.Apart (storage.place os (src.join (.relative [name]))) (storage.place os (dst.join (.relative [name]))) →
      Grafts now.disk (storage.place os (src.join (.relative [name]))) (storage.place os (dst.join (.relative [name])))
        next.disk) :
    EntryLoop source (storage.place os src) (storage.place os dst) rest next.disk := by
  rw [place_join, place_join] at grafts
  exact loop.entry apart (grafts loop.copying.entry_untouched (apart.append [name] [name]))

theorem EntryLoop.finish {source now : Disk ν} {origin target : List ν}
    (loop : EntryLoop source origin target [] now) : Grafts source origin target now where
  contents := loop.copying.finished
  above path leads _ := loop.copying.parents path leads
  elsewhere := loop.copying.elsewhere

theorem copy_grafts (returned : Returns (storage.copy os depth src dst) before () after)
    (fresh : before.disk.node (storage.place os dst) = none)
    (apart : FileTree.Apart (storage.place os src) (storage.place os dst)) :
    Grafts before.disk (storage.place os src) (storage.place os dst) after.disk := by
  induction depth generalizing src dst before after with
  | zero => cases returned
  | succ depth ih =>
    cases copyStep_of_returns returned with
    | file contents found written => exact .file found fresh written
    | directory names opened found made listed copied =>
      have kept : ∀ name rest (now next : Machine ν),
          EntryLoop before.disk (storage.place os src) (storage.place os dst) (name :: rest) now.disk →
          Returns (storage.copy os depth (src.join (.relative [name])) (dst.join (.relative [name]))) now () next →
            EntryLoop before.disk (storage.place os src) (storage.place os dst) rest next.disk := by
        intro name rest now next loop returned
        exact loop.copied apart (ih returned)
      exact (copyEntries_keeps kept (.enter found fresh apart made listed) copied).finish

section Depth

/-- How much there is at a path and below it. -/
def size (disk : Disk ν) (origin : List ν) : Nat := (FileTree.remaining disk [] [origin]).card

theorem size_lt {disk : Disk ν} {origin : List ν} (directory : disk.node origin = some .directory) (name : ν) :
    size disk (origin ++ [name]) < size disk origin := by
  have traversal : FileTree.Traversal disk [] [] [origin] := by
    refine ⟨fun path member => ?_, List.pairwise_singleton _ _⟩
    rw [List.mem_singleton.mp member]
    exact directory
  apply traversal.remaining_lt
  intro path member
  exact .inr ⟨name, List.mem_singleton.mp member⟩

theorem size_congr {disk other : Disk ν} {origin : List ν}
    (same : ∀ path, disk.node (origin ++ path) = other.node (origin ++ path)) : size disk origin = size other origin := by
  apply congrArg Finset.card
  ext path
  simp only [FileTree.remaining, Finset.mem_filter, List.mem_toFinset, ← AList.mem_keys, FileTree.mem_iff_node,
    List.mem_singleton, exists_eq_left, List.nil_append]
  apply and_congr_left
  rintro ⟨rest, rfl⟩
  rw [same]

/-- An entry that has not been reached is less than its directory was. -/
theorem size_entry_lt {start now : Disk ν} {origin : List ν} {name : ν} (directory : start.node origin = some .directory)
    (unread : ∀ path, now.node (origin ++ path) = start.node (origin ++ path)) (enough : size start origin < depth + 1) :
    size now (origin ++ [name]) < depth := by
  have unchanged : size now (origin ++ [name]) = size start (origin ++ [name]) :=
    size_congr fun path => by rw [List.append_assoc, unread]
  rw [unchanged]
  exact Nat.lt_of_lt_of_le (size_lt directory name) (Nat.le_of_lt_succ enough)

theorem isDir_ne_exhausted {path : List ν} :
    (os.isDir path : Threaded (Machine ν) Interruption Bool).outcome before ≠ (.error .exhausted, after) := by
  intro failed
  rw [OperatingSystem.outcome_isDir] at failed
  cases failed

/-- A request fails with an error. -/
theorem mapError_ne_exhausted {α : Type} {program : Threaded (Machine ν) IoError α} {message : String} :
    (program.mapError (failed message)).outcome before ≠ (.error .exhausted, after) := by
  intro exhausted
  change ((program.outcome before).1.mapError (failed message), (program.outcome before).2) = _ at exhausted
  generalize program.outcome before = outcome at exhausted
  obtain ⟨result, left⟩ := outcome
  cases result <;> cases exhausted

/-- The entries that have been copied have not reached what is still to be read. -/
def Undisturbed (origin : List ν) (start : Disk ν) (_ : List ν) (now : Disk ν) : Prop :=
  ∀ path, now.node (origin ++ path) = start.node (origin ++ path)

theorem Undisturbed.entry {start : Disk ν} {name : ν} {rest : List ν} {now next : Machine ν}
    (undisturbed : Undisturbed (storage.place os src) start (name :: rest) now.disk)
    (apart : FileTree.Apart (storage.place os src) (storage.place os dst))
    (returned : Returns (storage.copy os depth (src.join (.relative [name])) (dst.join (.relative [name]))) now () next) :
    Undisturbed (storage.place os src) start rest next.disk := by
  intro path
  have outside := (apart.append path [name]).symm
  rw [← place_join] at outside
  rw [copy_elsewhere returned outside]
  exact undisturbed path

/-- If the loop over the entries is cut off, it is in the call for one of them. -/
theorem copyEntries_exhausted {start : Disk ν} {names : List ν}
    (apart : FileTree.Apart (storage.place os src) (storage.place os dst))
    (undisturbed : Undisturbed (storage.place os src) start names before.disk)
    (exhausted : (copyEntries os (storage.copy os depth) src dst names).outcome before = (.error .exhausted, after)) :
    ∃ name now next, (∀ path, now.disk.node (storage.place os src ++ path) = start.node (storage.place os src ++ path)) ∧
      (storage.copy os depth (src.join (.relative [name])) (dst.join (.relative [name]))).outcome now =
        (.error .exhausted, next) := by
  cases outcome_bind_eq_error exhausted with
  | inr later =>
    obtain ⟨_, middle, _, reading⟩ := later
    exact False.elim (mapError_ne_exhausted reading)
  | inl looping =>
    have entered : OnDisk (Undisturbed (storage.place os src) start) names () before := undisturbed
    have kept : ∀ name rest (_ _ : Unit) now next,
        OnDisk (Undisturbed (storage.place os src) start) (name :: rest) () now →
        Returns (do
          nextEntry os
          storage.copy os depth (src.join (.relative [name])) (dst.join (.relative [name]))) now () next →
        OnDisk (Undisturbed (storage.place os src) start) rest () next := by
      intro name rest _ _ now next holds returned
      obtain ⟨middle, same, copied⟩ := entry_returns returned
      have again : Undisturbed (storage.place os src) start (name :: rest) middle.disk := same ▸ holds
      exact again.entry apart copied
    obtain ⟨name, rest, _, now, next, holds, exhausted⟩ := outcome_foldlM_eq_error kept entered looping
    cases outcome_bind_eq_error exhausted with
    | inl reading => exact False.elim (mapError_ne_exhausted reading)
    | inr later =>
      obtain ⟨_, middle, read, exhausted⟩ := later
      refine ⟨name, middle, next, ?_, exhausted⟩
      rw [nextEntry_effect read]
      exact holds

/-- The calls go no deeper than there is something below the source. -/
theorem copy_ne_exhausted (apart : FileTree.Apart (storage.place os src) (storage.place os dst))
    (enough : size before.disk (storage.place os src) < depth) :
    (storage.copy os depth src dst).outcome before ≠ (.error .exhausted, after) := by
  induction depth generalizing src dst before after with
  | zero => exact absurd enough (Nat.not_lt_zero _)
  | succ depth ih =>
    intro exhausted
    cases outcome_bind_eq_error exhausted with
    | inl asking => exact isDir_ne_exhausted asking
    | inr later =>
      obtain ⟨isDir, middle, asked, exhausted⟩ := later
      obtain ⟨same, directory⟩ := isDir_effect asked
      cases isDir with
      | false => exact mapError_ne_exhausted exhausted
      | true =>
        rw [if_pos rfl] at exhausted
        cases outcome_bind_eq_error exhausted with
        | inl creating => exact mapError_ne_exhausted creating
        | inr later =>
          obtain ⟨_, made, creates, exhausted⟩ := later
          cases outcome_bind_eq_error exhausted with
          | inl listing => exact mapError_ne_exhausted listing
          | inr later =>
            obtain ⟨names, opened, lists, exhausted⟩ := later
            have created := Disk.node_createDirAll (request_served (returns_mapError_iff.mp creates))
            have unchanged := (readDir_effect (request_served (returns_mapError_iff.mp lists))).2
            have undisturbed : Undisturbed (storage.place os src) before.disk names opened.disk := by
              intro path
              have outside := apart.not_leads path []
              rw [List.append_nil] at outside
              rw [unchanged, ← same]
              exact (created _).trans (if_neg outside)
            obtain ⟨name, now, next, unread, exhausted⟩ := copyEntries_exhausted apart undisturbed exhausted
            have inside := apart.append [name] [name]
            rw [← place_join, ← place_join] at inside
            refine ih inside ?_ exhausted
            rw [place_join]
            exact size_entry_lt (directory rfl) unread enough

end Depth

section Success

theorem Quiet.isDir_returns (quiet : Quiet os) (path : List ν) :
    Returns (os.isDir path : Threaded (Machine ν) Interruption Bool) before (before.disk.isDir path)
      ⟨before.disk, before.requests + 1⟩ := by
  rw [Returns, OperatingSystem.outcome_isDir, quiet.served]
  rfl

theorem Quiet.createDirAll_returns (quiet : Quiet os) {disk : Disk ν} {path : List ν} {message : String}
    (free : ∀ above, above <+: path → ∀ contents, disk.node above ≠ some (.file contents)) (requests : Nat) :
    ∃ made, Returns (.mapError (failed message) (os.request fun _ disk => disk.createDirAll path)) ⟨disk, requests⟩ () made ∧
      ∀ other, made.disk.node other = if other <+: path then some .directory else disk.node other :=
  ⟨_, returns_mapError_iff.mpr (quiet.request_returns (Disk.createDirAll_of_free free)),
    fun other => FileTree.node_makeDirectories other⟩

theorem Quiet.readDir_returns (quiet : Quiet os) {path : List ν} {message : String}
    (directory : before.disk.node path = some .directory) :
    ∃ names opened, Returns (.mapError (failed message) (os.request fun request disk =>
        (disk.readDir path).map fun (names, disk) => (os.arrange request names, disk))) before names opened ∧
      names.Perm (before.disk.names path) ∧ opened.disk = before.disk := by
  have read : before.disk.readDir path = .ok (before.disk.names path, before.disk) :=
    Disk.readDir_eq_ok.mpr ⟨directory, rfl, rfl⟩
  refine ⟨_, _, returns_mapError_iff.mpr (quiet.request_returns ?_), os.arrange_perm before.requests _, rfl⟩
  rw [read]
  rfl

/-- Nothing is in the way of the destination, and there is a directory for a file. -/
structure Ready (disk : Disk ν) (origin target : List ν) : Prop where
  present : (disk.node origin).isSome
  fresh : disk.node target = none
  free : ∀ above, above <+: target → ∀ contents, disk.node above ≠ some (.file contents)
  parent : ∀ contents, disk.node origin = some (.file contents) →
    ∃ directory name, target = directory ++ [name] ∧ disk.node directory = some .directory

theorem EntryLoop.ready {source now : Disk ν} {origin target rest : List ν} {name : ν}
    (loop : EntryLoop source origin target (name :: rest) now) : Ready now (origin ++ [name]) (target ++ [name]) := by
  have present := loop.present name List.mem_cons_self
  refine ⟨?_, loop.copying.entry_untouched, fun above leads => loop.copying.free_above present leads, fun contents file => ?_⟩
  · rw [loop.undisturbed]
    exact present
  · refine ⟨target, name, rfl, ?_⟩
    have directory : now.node (target ++ []) = some .directory :=
      loop.copying.directory_above rfl (List.cons_ne_nil name []) present
    rwa [List.append_nil] at directory

theorem copyEntries_returns (quiet : Quiet os) {source : Disk ν} {names : List ν}
    (apart : FileTree.Apart (storage.place os src) (storage.place os dst))
    (entered : EntryLoop source (storage.place os src) (storage.place os dst) names before.disk)
    (each : ∀ name (now : Machine ν), Ready now.disk (storage.place os src ++ [name]) (storage.place os dst ++ [name]) →
      (∀ path, now.disk.node (storage.place os src ++ path) = source.node (storage.place os src ++ path)) →
      ∃ next, Returns (storage.copy os depth (src.join (.relative [name])) (dst.join (.relative [name]))) now () next) :
    ∃ after, Returns (copyEntries os (storage.copy os depth) src dst names) before () after := by
  have read : ∀ machine : Machine ν, Returns (nextEntry os) machine () ⟨machine.disk, machine.requests + 1⟩ :=
    fun machine => returns_mapError_iff.mpr (quiet.request_returns rfl)
  have started : OnDisk (EntryLoop source (storage.place os src) (storage.place os dst)) names () before := entered
  have looped : ∃ last after, Returns (names.foldlM (fun _ name => do
      nextEntry os
      storage.copy os depth (src.join (.relative [name])) (dst.join (.relative [name]))) ()) before last after := by
    refine exists_returns_foldlM (fun name rest _ _ now next holds returned => ?_)
      (fun name rest _ now holds => ?_) started
    · obtain ⟨middle, same, copied⟩ := entry_returns returned
      have loop : EntryLoop source (storage.place os src) (storage.place os dst) (name :: rest) middle.disk := same ▸ holds
      exact loop.copied apart (copy_grafts copied)
    · obtain ⟨next, copied⟩ := each name ⟨now.disk, now.requests + 1⟩ (EntryLoop.ready holds) (EntryLoop.undisturbed holds)
      exact ⟨(), next, (read now).bind copied⟩
  obtain ⟨last, after, looped⟩ := looped
  exact ⟨_, looped.bind (read after)⟩

/-- Where every request is served that can be served, a call that goes deep enough returns. -/
theorem copy_returns (quiet : Quiet os) (apart : FileTree.Apart (storage.place os src) (storage.place os dst))
    (ready : Ready before.disk (storage.place os src) (storage.place os dst))
    (enough : size before.disk (storage.place os src) < depth) :
    ∃ after, Returns (storage.copy os depth src dst) before () after := by
  induction depth generalizing src dst before with
  | zero => exact absurd enough (Nat.not_lt_zero _)
  | succ depth ih =>
    have asked : Returns (os.isDir (storage.place os src) : Threaded (Machine ν) Interruption Bool) before _ _ :=
      Quiet.isDir_returns quiet (storage.place os src)
    obtain ⟨node, found⟩ := Option.isSome_iff_exists.mp ready.present
    cases node with
    | file contents =>
      have notDir : before.disk.isDir (storage.place os src) = false := by
        rw [Disk.isDir, found]
        exact beq_eq_false_iff_ne.mpr nofun
      obtain ⟨directory, name, placed, parent⟩ := ready.parent contents found
      have free : before.disk.node (directory ++ [name]) ≠ some .directory := by
        rw [← placed, ready.fresh]
        nofun
      obtain ⟨disk, served⟩ : ∃ disk, before.disk.copyFile (storage.place os src) (storage.place os dst) = .ok ((), disk) := by
        rw [Disk.copyFile, found, placed]
        exact ⟨_, Disk.write_of_parent contents parent free⟩
      rw [notDir] at asked
      exact ⟨_, asked.bind (returns_mapError_iff.mpr (quiet.request_returns served))⟩
    | directory =>
      have isDir : before.disk.isDir (storage.place os src) = true := by
        rw [Disk.isDir, found]
        exact beq_self_eq_true _
      rw [isDir] at asked
      obtain ⟨made, created, effect⟩ := Quiet.createDirAll_returns quiet ready.free (before.requests + 1)
      have still : made.disk.node (storage.place os src) = some .directory := by
        rw [effect, if_neg apart.1, found]
      obtain ⟨names, opened, listed, perm, same⟩ := Quiet.readDir_returns quiet still
      have entered : EntryLoop before.disk (storage.place os src) (storage.place os dst) names opened.disk := by
        rw [same]
        exact .enter found ready.fresh apart effect perm
      have each : ∀ name (now : Machine ν), Ready now.disk (storage.place os src ++ [name]) (storage.place os dst ++ [name]) →
          (∀ path, now.disk.node (storage.place os src ++ path) = before.disk.node (storage.place os src ++ path)) →
          ∃ next, Returns (storage.copy os depth (src.join (.relative [name])) (dst.join (.relative [name]))) now () next := by
        intro name now ready unread
        have inside := apart.append [name] [name]
        rw [← place_join, ← place_join] at inside ready
        refine ih inside ready ?_
        rw [place_join]
        exact size_entry_lt found unread enough
      obtain ⟨after, copied⟩ := copyEntries_returns quiet apart entered each
      exact ⟨after, asked.bind (created.bind (listed.bind copied))⟩

end Success

/-- A call that may go as deep as the source comes to an end, whatever the operating
system refuses and in whatever order it lists. If it succeeds, what was below the source
is below the destination as well and nothing else has changed; and it does succeed for a
directory if nothing is refused that can be served. -/
theorem local_copy_complete (fresh : before.disk.node (storage.place os dst) = none)
    (apart : FileTree.Apart (storage.place os src) (storage.place os dst))
    (enough : size before.disk (storage.place os src) < depth) :
    ∃ result after, (storage.copy os depth src dst).outcome before = (result, after) ∧ result ≠ .error .exhausted ∧
      (result = .ok () → Grafts before.disk (storage.place os src) (storage.place os dst) after.disk) ∧
      (Quiet os → before.disk.node (storage.place os src) = some .directory →
        (∀ above, above <+: storage.place os dst → ∀ contents, before.disk.node above ≠ some (.file contents)) →
        result = .ok ()) := by
  refine ⟨_, _, rfl, ?_, ?_, ?_⟩
  · intro exhausted
    exact copy_ne_exhausted apart enough (Prod.ext exhausted rfl)
  · intro succeeded
    exact copy_grafts (Prod.ext succeeded rfl) fresh apart
  · intro quiet directory free
    have ready : Ready before.disk (storage.place os src) (storage.place os dst) :=
      ⟨by rw [directory]; rfl, fresh, free, fun contents file => by rw [directory] at file; cases file⟩
    obtain ⟨after, returned⟩ := copy_returns quiet apart ready enough
    exact congrArg Prod.fst returned

/-- A checkpoint directory with a directory and a file in it. -/
def checkpointDisk : Disk Nat := (FileTree.empty.makeDirectories [1, 2, 3]).putFile [1, 2] 4 [7] rfl nofun

def workerStorage : PrefixedLocalFileSystemStorage Nat := ⟨⟨true, [1]⟩⟩

theorem checkpoint_copied :
    ∃ after, (workerStorage.copy plainSystem (size checkpointDisk [1, 2] + 1) (.relative [2]) (.relative [5])).outcome
        ⟨checkpointDisk, 0⟩ = (.ok (), after) ∧
      after.disk.node [1, 5, 4] = some (.file [7]) ∧ after.disk.node [1, 5, 3] = some .directory := by
  have fresh : (⟨checkpointDisk, 0⟩ : Machine Nat).disk.node (workerStorage.place plainSystem (.relative [5])) = none := rfl
  have apart : FileTree.Apart (workerStorage.place plainSystem (.relative [2]))
      (workerStorage.place plainSystem (.relative [5])) := by
    change FileTree.Apart [1, 2] [1, 5]
    simp [FileTree.Apart]
  have enough : size (⟨checkpointDisk, 0⟩ : Machine Nat).disk (workerStorage.place plainSystem (.relative [2])) <
      size checkpointDisk [1, 2] + 1 := Nat.lt_succ_self _
  have free (above : List Nat) (leads : above <+: [1, 5]) (contents : Bytes) :
      checkpointDisk.node above ≠ some (.file contents) := by
    have listed : above ∈ [[], [1], [1, 5]] := (List.mem_inits _ _).mpr leads
    simp only [List.mem_cons, List.not_mem_nil, or_false] at listed
    rcases listed with rfl | rfl | rfl <;> nofun
  obtain ⟨result, after, ran, -, grafts, succeeds⟩ := local_copy_complete fresh apart enough
  obtain rfl := succeeds plainSystem_quiet rfl free
  have grafts := grafts rfl
  exact ⟨after, ran, grafts.contents [4], grafts.contents [3]⟩

end DatafusionRay.Proofs.LocalCopy
