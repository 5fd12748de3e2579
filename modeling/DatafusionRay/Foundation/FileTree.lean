import DatafusionRay.Foundation.FiniteMap

/-! A tree of files as a finite map from paths. Whatever it holds stands in a
directory, so nothing lies below a file or below a path that is absent. -/

namespace DatafusionRay.Foundation

inductive FileTree.Node (α : Type) where
  | file (contents : α)
  | directory
  deriving DecidableEq, Repr

structure FileTree (ν α : Type) [DecidableEq ν] where
  nodes : AList fun _ : List ν => FileTree.Node α
  root : nodes.lookup [] = some .directory
  closed : ∀ path name, path ++ [name] ∈ nodes → nodes.lookup path = some .directory

namespace FileTree
variable {ν α : Type} [DecidableEq ν]

theorem eq_of_entries {left right : FileTree ν α} (same : left.nodes.entries = right.nodes.entries) : left = right := by
  cases left
  cases right
  cases AList.ext same
  rfl

instance [DecidableEq α] : DecidableEq (FileTree ν α) := fun left right =>
  decidable_of_iff (left.nodes.entries = right.nodes.entries) ⟨eq_of_entries, fun same => by rw [same]⟩

def node (tree : FileTree ν α) (path : List ν) : Option (Node α) := tree.nodes.lookup path

def Node.contents? : Node α → Option α
  | .file contents => some contents
  | .directory => none

/-- The contents of the file at a path, if it is one. -/
def fileAt (tree : FileTree ν α) (path : List ν) : Option α := (tree.node path).bind Node.contents?

/-- What stands in a directory. -/
def names (tree : FileTree ν α) (path : List ν) : List ν :=
  tree.nodes.keys.filterMap fun key => if key.dropLast = path then key.getLast? else none

def Node.isFile : Node α → Bool
  | .file _ => true
  | .directory => false

/-- A file stands at the path or above it. -/
def blocked (tree : FileTree ν α) (path : List ν) : Bool := path.inits.any fun above => (tree.node above).any Node.isFile

def empty : FileTree ν α where
  nodes := AList.singleton [] .directory
  root := AList.lookup_insert ∅
  closed path name member := by
    rw [AList.mem_keys, AList.keys_singleton, List.mem_singleton] at member
    cases path <;> cases member

theorem node_empty (path : List ν) : (empty : FileTree ν α).node path = if path = [] then some .directory else none := by
  cases path with
  | nil => exact AList.lookup_insert ∅
  | cons name rest =>
    rw [if_neg (List.cons_ne_nil name rest)]
    exact (AList.lookup_insert_ne (List.cons_ne_nil name rest)).trans (AList.lookup_empty _)

section Lookup
variable {tree : FileTree ν α} {path rest : List ν} {name : ν}

theorem fileAt_eq_some {contents : α} : tree.fileAt path = some contents ↔ tree.node path = some (.file contents) := by
  rw [fileAt, Option.bind_eq_some_iff]
  constructor
  · rintro ⟨node, found, file⟩
    cases node with
    | file =>
      cases file
      exact found
    | directory => cases file
  · intro found
    exact ⟨_, found, rfl⟩

theorem mem_iff_node : path ∈ tree.nodes ↔ (tree.node path).isSome := AList.lookup_isSome.symm

theorem mem_names : name ∈ tree.names path ↔ (tree.node (path ++ [name])).isSome := by
  rw [names, List.mem_filterMap, ← mem_iff_node, AList.mem_keys]
  constructor
  · rintro ⟨key, member, found⟩
    split at found
    next same =>
      obtain ⟨front, rfl⟩ := List.getLast?_eq_some_iff.mp found
      rw [List.dropLast_concat] at same
      rwa [← same]
    next => cases found
  · intro member
    refine ⟨path ++ [name], member, ?_⟩
    rw [List.dropLast_concat, if_pos rfl, List.getLast?_concat]

theorem nodup_names (tree : FileTree ν α) (path : List ν) : (tree.names path).Nodup := by
  refine List.Nodup.filterMap ?_ tree.nodes.keys_nodup
  intro first second name one other
  split at one
  next same =>
    split at other
    next also =>
      obtain ⟨front, rfl⟩ := List.getLast?_eq_some_iff.mp one
      obtain ⟨front', rfl⟩ := List.getLast?_eq_some_iff.mp other
      rw [List.dropLast_concat] at same also
      rw [same, also]
    next => cases other
  next => cases one

/-- Trees that agree below a path list it alike, but for the order. -/
theorem names_perm {other : FileTree ν α} (same : ∀ name, tree.node (path ++ [name]) = other.node (path ++ [name])) :
    (tree.names path).Perm (other.names path) := by
  apply (List.perm_ext_iff_of_nodup (tree.nodup_names path) (other.nodup_names path)).mpr
  intro name
  rw [mem_names, mem_names, same]

/-- All that is above something is a directory. -/
theorem directory_above (below : rest ≠ []) (found : (tree.node (path ++ rest)).isSome) :
    tree.node path = some .directory := by
  induction rest using List.reverseRecOn with
  | nil => exact absurd rfl below
  | append_singleton rest name ih =>
    have parent : tree.node (path ++ rest) = some .directory := by
      apply tree.closed
      rw [List.append_assoc]
      exact mem_iff_node.mpr found
    by_cases last : rest = []
    · subst last
      rwa [List.append_nil] at parent
    · apply ih last
      rw [parent]
      rfl

theorem none_below {contents : α} (file : tree.node path = some (.file contents)) (below : rest ≠ []) :
    tree.node (path ++ rest) = none := by
  by_contra found
  have directory := directory_above below (Option.isSome_iff_ne_none.mpr found)
  rw [file] at directory
  cases directory

theorem none_below_none (absent : tree.node path = none) : tree.node (path ++ rest) = none := by
  by_cases below : rest = []
  · rw [below, List.append_nil]
    exact absent
  · by_contra found
    have directory := directory_above below (Option.isSome_iff_ne_none.mpr found)
    rw [absent] at directory
    cases directory

theorem not_blocked_iff :
    tree.blocked path = false ↔ ∀ above, above <+: path → ∀ contents, tree.node above ≠ some (.file contents) := by
  rw [blocked, List.any_eq_false]
  simp only [List.mem_inits]
  refine forall_congr' fun above => imp_congr_right fun _ => ?_
  cases tree.node above with
  | none => exact iff_of_true nofun nofun
  | some node =>
    cases node with
    | file contents => exact iff_of_false (fun free => free rfl) fun free => free contents rfl
    | directory => exact iff_of_true nofun nofun

end Lookup

section Write

/-- Makes a directory of the path and of all that is above it. -/
def makeDirectories (tree : FileTree ν α) (path : List ν) : FileTree ν α where
  nodes := FiniteMap.insertAll (path.inits.map fun above => ⟨above, .directory⟩) tree.nodes
  root := by
    rw [FiniteMap.lookup_insertAll_map, if_pos ((List.mem_inits _ _).mpr List.nil_prefix)]
  closed above name member := by
    rw [← AList.lookup_isSome, FiniteMap.lookup_insertAll_map] at member
    rw [FiniteMap.lookup_insertAll_map]
    split
    next => rfl
    next outside =>
      have old : above ++ [name] ∉ path.inits := by
        intro inside
        apply outside
        rw [List.mem_inits] at inside ⊢
        exact (List.prefix_append above [name]).trans inside
      rw [if_neg old] at member
      exact tree.closed above name (AList.lookup_isSome.mp member)

/-- Writes a file into a directory, over the file that stands there or as a new one. -/
def putFile (tree : FileTree ν α) (path : List ν) (name : ν) (contents : α)
    (parent : tree.node path = some .directory) (free : tree.node (path ++ [name]) ≠ some .directory) : FileTree ν α where
  nodes := tree.nodes.insert (path ++ [name]) (.file contents)
  root := by
    rw [AList.lookup_insert_ne (List.append_ne_nil_of_right_ne_nil _ (List.cons_ne_nil _ _)).symm]
    exact tree.root
  closed above last member := by
    have directory : tree.node above = some .directory := by
      rcases (AList.mem_insert _).mp member with same | old
      · rw [(List.append_inj' same rfl).1]
        exact parent
      · exact tree.closed above last old
    rw [AList.lookup_insert_ne]
    · exact directory
    · rintro rfl
      exact free directory

variable {tree : FileTree ν α} {path : List ν}

theorem node_makeDirectories (other : List ν) :
    (tree.makeDirectories path).node other = if other <+: path then some .directory else tree.node other := by
  rw [node, makeDirectories, FiniteMap.lookup_insertAll_map]
  simp only [List.mem_inits]
  rfl

theorem node_putFile {name : ν} {contents : α} (parent : tree.node path = some .directory)
    (free : tree.node (path ++ [name]) ≠ some .directory) (other : List ν) :
    (tree.putFile path name contents parent free).node other =
      if other = path ++ [name] then some (.file contents) else tree.node other := by
  by_cases same : other = path ++ [name]
  · subst same
    rw [if_pos rfl]
    exact AList.lookup_insert _
  · rw [if_neg same]
    exact AList.lookup_insert_ne same

end Write

end FileTree

end DatafusionRay.Foundation
