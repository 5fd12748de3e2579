import DatafusionRay.Foundation.FileTree

/-! Copying a tree of files from below one path to below another, one node at a time and
directory by directory. At any time every path is either copied already or still empty;
which of them it is follows from the entries and the directories that are left. -/

namespace DatafusionRay.Foundation.FileTree

variable {ν α : Type}

/-- Neither of two paths leads to the other. -/
def Apart (left right : List ν) : Prop := ¬ left <+: right ∧ ¬ right <+: left

theorem Apart.symm {left right : List ν} (apart : Apart left right) : Apart right left := ⟨apart.2, apart.1⟩

/-- What is below one of them does not lead to what is below the other. -/
theorem Apart.not_leads {left right : List ν} (apart : Apart left right) (first second : List ν) :
    ¬ left ++ first <+: right ++ second := by
  intro leads
  have above := (List.prefix_append left first).trans leads
  rcases List.prefix_or_prefix_of_prefix above (List.prefix_append right second) with inside | inside
  · exact apart.1 inside
  · exact apart.2 inside

/-- What is in a directory is apart from all that the directory is apart from. -/
private theorem Apart.inside {directory other : List ν} (apart : Apart directory other) (name : ν) :
    Apart (directory ++ [name]) other := by
  refine ⟨fun leads => apart.1 ((List.prefix_append _ _).trans leads), fun leads => ?_⟩
  rcases List.prefix_concat_iff.mp leads with rfl | above
  · exact apart.1 (List.prefix_append _ _)
  · exact apart.2 above

theorem Apart.append {left right : List ν} (apart : Apart left right) (first second : List ν) :
    Apart (left ++ first) (right ++ second) :=
  ⟨apart.not_leads first second, apart.symm.not_leads second first⟩

private theorem apart_siblings {directory : List ν} {first second : ν} (different : first ≠ second) :
    Apart (directory ++ [first]) (directory ++ [second]) := by
  constructor
  · intro leads
    exact different (List.singleton_inj.mp (List.append_cancel_left (leads.eq_of_length (by simp))))
  · intro leads
    exact different (List.singleton_inj.mp (List.append_cancel_left (leads.eq_of_length (by simp)))).symm

/-- The path is at or below an entry that is left, or inside a directory that is left. -/
def Unfinished (entries queue : List (List ν)) (path : List ν) : Prop :=
  (∃ entry ∈ entries, entry <+: path) ∨ ∃ directory ∈ queue, directory <+: path ∧ directory ≠ path

section Unfinished
variable {entries queue : List (List ν)} {path : List ν}

private theorem not_unfinished_nil : ¬ Unfinished [] [] path := by
  rintro (⟨_, none, _⟩ | ⟨_, none, _⟩)
  · cases none
  · cases none

private theorem unfinished_entry_iff {entry : List ν} :
    Unfinished (entry :: entries) queue path ↔ entry <+: path ∨ Unfinished entries queue path := by
  simp only [Unfinished, List.exists_mem_cons_iff, or_assoc]

private theorem unfinished_directory_iff {directory : List ν} :
    Unfinished entries (directory :: queue) path ↔
      (directory <+: path ∧ directory ≠ path) ∨ Unfinished entries queue path := by
  simp only [Unfinished, List.exists_mem_cons_iff, or_left_comm]

private theorem unfinished_listed_iff {next names : List ν} :
    Unfinished (names.map fun name => next ++ [name]) queue path ↔
      (∃ name ∈ names, next ++ [name] <+: path) ∨ Unfinished [] queue path := by
  simp only [Unfinished, List.mem_map, exists_exists_and_eq_and, List.not_mem_nil, false_and, exists_false, false_or]

end Unfinished

/-- A path does not lead to what is above it. -/
private theorem not_append_leads {path : List ν} (target : List ν) (below : path ≠ []) : ¬ target ++ path <+: target := by
  intro leads
  have shorter := leads.length_le
  rw [List.length_append] at shorter
  exact below (List.length_eq_zero_iff.mp (by omega))

variable [DecidableEq ν]

/-- The entries and the directories below `origin` that are left. -/
structure Traversal (source : FileTree ν α) (origin : List ν) (entries queue : List (List ν)) : Prop where
  directories : ∀ directory ∈ queue, source.node (origin ++ directory) = some .directory
  apart : (entries ++ queue).Pairwise Apart

section Traverse
variable {source : FileTree ν α} {origin : List ν} {entries queue : List (List ν)}

theorem Traversal.start (directory : source.node origin = some .directory) : Traversal source origin [] [[]] where
  directories path member := by
    rw [List.mem_singleton.mp member, List.append_nil]
    exact directory
  apart := List.pairwise_singleton _ _

section Entry
variable {entry : List ν} (traversal : Traversal source origin (entry :: entries) queue)
include traversal

private theorem Traversal.entry_apart {other : List ν} (member : other ∈ entries ++ queue) : Apart entry other :=
  (List.pairwise_cons.mp traversal.apart).1 other member

/-- What leads to an entry is not left for any other reason. -/
private theorem Traversal.not_unfinished {path : List ν} (above : path <+: entry) : ¬ Unfinished entries queue path := by
  rintro (⟨found, member, leads⟩ | ⟨found, member, leads, _⟩)
  · exact (traversal.entry_apart (List.mem_append_left _ member)).2 (leads.trans above)
  · exact (traversal.entry_apart (List.mem_append_right _ member)).2 (leads.trans above)

private theorem Traversal.not_unfinished_above {path : List ν} (above : path <+: entry) (other : path ≠ entry) :
    ¬ Unfinished (entry :: entries) queue path := by
  intro unfinished
  rcases unfinished_entry_iff.mp unfinished with leads | left
  · exact other (above.eq_of_length_le leads.length_le)
  · exact traversal.not_unfinished above left

/-- Nor is what is at an entry or below it. -/
private theorem Traversal.not_unfinished_below {path : List ν} (below : entry <+: path) :
    ¬ Unfinished entries queue path := by
  rintro (⟨found, member, leads⟩ | ⟨found, member, leads, _⟩)
  · have apart := traversal.entry_apart (List.mem_append_left _ member)
    rcases List.prefix_or_prefix_of_prefix below leads with above | above
    · exact apart.1 above
    · exact apart.2 above
  · have apart := traversal.entry_apart (List.mem_append_right _ member)
    rcases List.prefix_or_prefix_of_prefix below leads with above | above
    · exact apart.1 above
    · exact apart.2 above

theorem Traversal.directory (directory : source.node (origin ++ entry) = some .directory) :
    Traversal source origin entries (entry :: queue) where
  directories found member := by
    rcases List.mem_cons.mp member with rfl | later
    · exact directory
    · exact traversal.directories found later
  apart := (List.pairwise_middle Apart.symm).mpr traversal.apart

theorem Traversal.file : Traversal source origin entries queue :=
  ⟨traversal.directories, (List.pairwise_cons.mp traversal.apart).2⟩

end Entry

section Next
variable {next : List ν} (traversal : Traversal source origin [] (next :: queue))
include traversal

theorem Traversal.list {names : List ν} (listed : names.Perm (source.names (origin ++ next))) :
    Traversal source origin (names.map fun name => next ++ [name]) queue where
  directories found member := traversal.directories found (List.mem_cons_of_mem _ member)
  apart := by
    obtain ⟨others, rest⟩ := List.pairwise_cons.mp traversal.apart
    refine List.pairwise_append.mpr ⟨?_, rest, ?_⟩
    · rw [List.pairwise_map]
      exact (listed.nodup_iff.mpr (nodup_names _ _)).imp apart_siblings
    · intro entry member other later
      obtain ⟨name, _, rfl⟩ := List.mem_map.mp member
      exact (others other later).inside name

theorem Traversal.next_directory : source.node (origin ++ next) = some .directory :=
  traversal.directories next List.mem_cons_self

end Next

end Traverse

/-- The part of the source at or below the directories that are left. -/
def remaining (source : FileTree ν α) (origin : List ν) (queue : List (List ν)) : Finset (List ν) :=
  source.nodes.keys.toFinset.filter fun path => ∃ directory ∈ queue, origin ++ directory <+: path

/-- There is less of it once a directory is replaced by some that it contains. -/
theorem Traversal.remaining_lt {source : FileTree ν α} {origin next : List ν} {queue pushed : List (List ν)}
    (traversal : Traversal source origin [] (next :: queue))
    (inside : ∀ directory ∈ pushed, directory ∈ queue ∨ ∃ name, directory = next ++ [name]) :
    (remaining source origin pushed).card < (remaining source origin (next :: queue)).card := by
  apply Finset.card_lt_card
  rw [Finset.ssubset_iff_of_subset]
  · refine ⟨origin ++ next, ?_, ?_⟩
    · rw [remaining, Finset.mem_filter, List.mem_toFinset, ← AList.mem_keys, mem_iff_node, traversal.next_directory]
      exact ⟨rfl, next, List.mem_cons_self, List.prefix_rfl⟩
    · rw [remaining, Finset.mem_filter]
      rintro ⟨_, directory, member, leads⟩
      rw [List.prefix_append_right_inj] at leads
      rcases inside directory member with old | ⟨name, rfl⟩
      · exact ((List.pairwise_cons.mp traversal.apart).1 directory old).2 leads
      · exact not_append_leads next (List.cons_ne_nil _ _) leads
  · intro path member
    rw [remaining, Finset.mem_filter] at member ⊢
    obtain ⟨present, directory, left, leads⟩ := member
    refine ⟨present, ?_⟩
    rcases inside directory left with old | ⟨name, rfl⟩
    · exact ⟨directory, List.mem_cons_of_mem _ old, leads⟩
    · refine ⟨next, List.mem_cons_self, List.IsPrefix.trans ?_ leads⟩
      exact (List.prefix_append_right_inj origin).mpr (List.prefix_append _ _)

/-- What is below `origin` of the source on its way to below `target`. -/
structure Copying (source before : FileTree ν α) (origin target : List ν) (entries queue : List (List ν))
    (now : FileTree ν α) : Prop extends Traversal source origin entries queue where
  settled : ∀ path, ¬ Unfinished entries queue path → now.node (target ++ path) = source.node (origin ++ path)
  untouched : ∀ path, Unfinished entries queue path → now.node (target ++ path) = none
  parents : ∀ path, path <+: target → now.node path = some .directory
  elsewhere : ∀ path, Apart target path → now.node path = before.node path

section Copy
variable {source before now after : FileTree ν α} {origin target : List ν} {entries queue : List (List ν)}

theorem Copying.start (directory : source.node origin = some .directory)
    (fresh : ∀ path, path ≠ [] → before.node (target ++ path) = none)
    (made : ∀ path, now.node path = if path <+: target then some .directory else before.node path) :
    Copying source before origin target [] [[]] now where
  toTraversal := .start directory
  settled path finished := by
    have root : path = [] := by
      by_contra below
      exact finished (unfinished_directory_iff.mpr (.inl ⟨List.nil_prefix, Ne.symm below⟩))
    rw [root, List.append_nil, List.append_nil, made, if_pos List.prefix_rfl, directory]
  untouched path unfinished := by
    rcases unfinished_directory_iff.mp unfinished with ⟨_, other⟩ | none
    · rw [made, if_neg (not_append_leads target other.symm)]
      exact fresh path other.symm
    · exact absurd none not_unfinished_nil
  parents path above := by rw [made, if_pos above]
  elsewhere path apart := by rw [made, if_neg apart.2]

theorem Copying.finished (copying : Copying source before origin target [] [] now) (path : List ν) :
    now.node (target ++ path) = source.node (origin ++ path) := by
  apply copying.settled
  exact not_unfinished_nil

section Entry
variable {entry : List ν} (copying : Copying source before origin target (entry :: entries) queue now)
include copying

theorem Copying.entry_untouched : now.node (target ++ entry) = none :=
  copying.untouched entry (.inl ⟨entry, List.mem_cons_self, List.prefix_rfl⟩)

/-- The directories that lead to an entry are there. -/
theorem Copying.directory_above {path rest : List ν} (split : entry = path ++ rest) (below : rest ≠ [])
    (present : (source.node (origin ++ entry)).isSome) : now.node (target ++ path) = some .directory := by
  have shorter : path ≠ entry := by
    rw [split]
    exact fun same => below (List.append_right_eq_self.mp same.symm)
  rw [copying.settled path (copying.not_unfinished_above (split ▸ List.prefix_append _ _) shorter)]
  rw [split, ← List.append_assoc] at present
  exact FileTree.directory_above below present

/-- No file is in the way of an entry. -/
theorem Copying.free_above (present : (source.node (origin ++ entry)).isSome) {path : List ν}
    (leads : path <+: target ++ entry) (contents : α) : now.node path ≠ some (.file contents) := by
  rcases List.prefix_or_prefix_of_prefix leads (List.prefix_append target entry) with above | ⟨middle, rfl⟩
  · rw [copying.parents path above]
    nofun
  · obtain ⟨rest, split⟩ := (List.prefix_append_right_inj target).mp leads
    by_cases last : rest = []
    · rw [last, List.append_nil] at split
      rw [split, copying.entry_untouched]
      nofun
    · rw [copying.directory_above split.symm last present]
      nofun

/-- The entry is a directory: it has been made, and what is inside is left. -/
theorem Copying.directory (directory : source.node (origin ++ entry) = some .directory)
    (made : ∀ path, after.node path = if path <+: target ++ entry then some .directory else now.node path) :
    Copying source before origin target entries (entry :: queue) after where
  toTraversal := copying.toTraversal.directory directory
  settled path finished := by
    rw [made]
    by_cases above : path <+: entry
    · rw [if_pos ((List.prefix_append_right_inj target).mpr above)]
      by_cases same : path = entry
      · rw [same, directory]
      · obtain ⟨rest, split⟩ := above
        have below : rest ≠ [] := by
          rintro rfl
          exact same (split ▸ (List.append_nil path).symm)
        rw [← split, ← List.append_assoc] at directory
        exact (FileTree.directory_above below (directory ▸ rfl)).symm
    · rw [if_neg (mt (List.prefix_append_right_inj target).mp above)]
      apply copying.settled
      intro unfinished
      apply finished
      rcases unfinished_entry_iff.mp unfinished with leads | left
      · refine unfinished_directory_iff.mpr (.inl ⟨leads, ?_⟩)
        rintro rfl
        exact above List.prefix_rfl
      · exact unfinished_directory_iff.mpr (.inr left)
  untouched path unfinished := by
    have outside : ¬ path <+: entry := by
      intro above
      rcases unfinished_directory_iff.mp unfinished with ⟨leads, other⟩ | left
      · exact other (leads.eq_of_length_le above.length_le)
      · exact copying.not_unfinished above left
    rw [made, if_neg (mt (List.prefix_append_right_inj target).mp outside)]
    apply copying.untouched
    rcases unfinished_directory_iff.mp unfinished with ⟨leads, _⟩ | left
    · exact unfinished_entry_iff.mpr (.inl leads)
    · exact unfinished_entry_iff.mpr (.inr left)
  parents path above := by rw [made, if_pos (above.trans (List.prefix_append _ _))]
  elsewhere path apart := by
    have outside : ¬ path <+: target ++ entry := by
      intro leads
      rcases List.prefix_or_prefix_of_prefix leads (List.prefix_append target entry) with above | below
      · exact apart.2 above
      · exact apart.1 below
    rw [made, if_neg outside]
    exact copying.elsewhere path apart

/-- The entry is a file: it has been written, and nothing is left of it. -/
theorem Copying.file {contents : α} (below : entry ≠ []) (file : source.node (origin ++ entry) = some (.file contents))
    (written : ∀ path, after.node path = if path = target ++ entry then some (.file contents) else now.node path) :
    Copying source before origin target entries queue after where
  toTraversal := copying.toTraversal.file
  settled path finished := by
    rw [written]
    by_cases same : path = entry
    · rw [same, if_pos rfl, file]
    · rw [if_neg (mt List.append_cancel_left same)]
      by_cases inside : entry <+: path
      · rw [copying.untouched path (unfinished_entry_iff.mpr (.inl inside))]
        obtain ⟨rest, rfl⟩ := inside
        have deeper : rest ≠ [] := by
          rintro rfl
          exact same (List.append_nil entry)
        rw [← List.append_assoc, none_below file deeper]
      · apply copying.settled
        intro unfinished
        rcases unfinished_entry_iff.mp unfinished with leads | left
        · exact inside leads
        · exact finished left
  untouched path unfinished := by
    have other : path ≠ entry := by
      rintro rfl
      exact copying.not_unfinished List.prefix_rfl unfinished
    rw [written, if_neg (mt List.append_cancel_left other)]
    apply copying.untouched
    exact unfinished_entry_iff.mpr (.inr unfinished)
  parents path above := by
    have shorter : path ≠ target ++ entry := by
      rintro rfl
      exact not_append_leads target below above
    rw [written, if_neg shorter]
    exact copying.parents path above
  elsewhere path apart := by
    have outside : path ≠ target ++ entry := by
      rintro rfl
      exact apart.1 (List.prefix_append _ _)
    rw [written, if_neg outside]
    exact copying.elsewhere path apart

/-- The entry has been copied with all that is below it. -/
theorem Copying.subtree (present : (source.node (origin ++ entry)).isSome)
    (contents : ∀ path, after.node (target ++ entry ++ path) = source.node (origin ++ entry ++ path))
    (above : ∀ path, path <+: target ++ entry → path ≠ target ++ entry → after.node path = some .directory)
    (others : ∀ path, Apart (target ++ entry) path → after.node path = now.node path) (below : entry ≠ []) :
    Copying source before origin target entries queue after where
  toTraversal := copying.toTraversal.file
  settled path finished := by
    by_cases inside : entry <+: path
    · obtain ⟨rest, rfl⟩ := inside
      rw [← List.append_assoc, ← List.append_assoc]
      exact contents rest
    · by_cases leads : path <+: entry
      · obtain ⟨rest, split⟩ := leads
        have shorter : rest ≠ [] := by
          rintro rfl
          rw [List.append_nil] at split
          exact inside (split ▸ List.prefix_rfl)
        rw [above _ ((List.prefix_append_right_inj target).mpr ⟨rest, split⟩), eq_comm]
        · rw [← split, ← List.append_assoc] at present
          exact FileTree.directory_above shorter present
        · intro same
          exact inside (List.append_cancel_left same ▸ List.prefix_rfl)
      · rw [others _ ⟨mt (List.prefix_append_right_inj target).mp inside, mt (List.prefix_append_right_inj target).mp leads⟩]
        apply copying.settled
        intro unfinished
        rcases unfinished_entry_iff.mp unfinished with below | left
        · exact inside below
        · exact finished left
  untouched path unfinished := by
    have apart : Apart (target ++ entry) (target ++ path) :=
      ⟨fun leads => copying.not_unfinished_below ((List.prefix_append_right_inj target).mp leads) unfinished,
        fun leads => copying.not_unfinished ((List.prefix_append_right_inj target).mp leads) unfinished⟩
    rw [others _ apart]
    apply copying.untouched
    exact unfinished_entry_iff.mpr (.inr unfinished)
  parents path leads := by
    apply above path (leads.trans (List.prefix_append _ _))
    rintro rfl
    exact not_append_leads target below leads
  elsewhere path apart := by
    have outside : Apart (target ++ entry) path := by
      refine ⟨fun leads => apart.1 ((List.prefix_append _ _).trans leads), fun leads => ?_⟩
      rcases List.prefix_or_prefix_of_prefix leads (List.prefix_append target entry) with above | below
      · exact apart.2 above
      · exact apart.1 below
    rw [others path outside]
    exact copying.elsewhere path apart

end Entry

/-- The next directory has been listed: its entries are left. -/
theorem Copying.list {next names : List ν} (copying : Copying source before origin target [] (next :: queue) now)
    (listed : names.Perm (source.names (origin ++ next))) :
    Copying source before origin target (names.map fun name => next ++ [name]) queue now where
  toTraversal := copying.toTraversal.list listed
  settled path finished := by
    by_cases inside : next <+: path ∧ next ≠ path
    · rw [copying.untouched path (unfinished_directory_iff.mpr (.inl inside))]
      obtain ⟨⟨rest, rfl⟩, other⟩ := inside
      cases rest with
      | nil => exact absurd (List.append_nil next).symm other
      | cons name rest =>
        have unlisted : name ∉ names := by
          intro member
          refine finished (unfinished_listed_iff.mpr (.inl ⟨name, member, rest, ?_⟩))
          rw [List.append_assoc, List.singleton_append]
        have absent : source.node (origin ++ next ++ [name]) = none := by
          by_contra present
          apply unlisted
          exact listed.mem_iff.mpr (mem_names.mpr (Option.isSome_iff_ne_none.mpr present))
        rw [← List.append_assoc, ← List.singleton_append, ← List.append_assoc]
        exact (none_below_none absent).symm
    · apply copying.settled
      intro unfinished
      rcases unfinished_directory_iff.mp unfinished with leads | left
      · exact inside leads
      · exact finished (unfinished_listed_iff.mpr (.inr left))
  untouched path unfinished := by
    apply copying.untouched
    rcases unfinished_listed_iff.mp unfinished with ⟨name, _, leads⟩ | left
    · refine unfinished_directory_iff.mpr (.inl ⟨(List.prefix_append _ _).trans leads, ?_⟩)
      rintro rfl
      exact not_append_leads next (List.cons_ne_nil _ _) leads
    · exact unfinished_directory_iff.mpr (.inr left)
  parents := copying.parents
  elsewhere := copying.elsewhere

end Copy

end DatafusionRay.Foundation.FileTree
