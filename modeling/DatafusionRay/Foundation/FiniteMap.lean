import Mathlib

/-! Writing a list of entries into a finite map, lists of entries whose keys are
distinct, and lists as maps from positions. -/

namespace DatafusionRay.Foundation.FiniteMap

section Distinct
variable {ι κ ν : Type}

private theorem split_of_mem {key : ι → κ} {items : List ι} (distinct : (items.map key).Nodup) {item : ι}
    (member : item ∈ items) :
    ∃ before after, items = before ++ item :: after ∧ ∀ other ∈ before, key item ≠ key other := by
  obtain ⟨before, after, rfl⟩ := List.mem_iff_append.mp member
  rw [List.map_append, List.map_cons, List.nodup_append] at distinct
  refine ⟨before, after, rfl, fun other earlier same => ?_⟩
  exact distinct.2.2 _ (List.mem_map_of_mem earlier) _ List.mem_cons_self same.symm

variable [DecidableEq κ]

theorem find_of_mem {key : ι → κ} {items : List ι} (distinct : (items.map key).Nodup) {item : ι}
    (member : item ∈ items) : items.find? (fun other => key other == key item) = some item := by
  obtain ⟨before, after, split, others⟩ := split_of_mem distinct member
  refine List.find?_eq_some_iff_append.mpr ⟨BEq.rfl, before, after, split, fun other earlier => ?_⟩
  simpa using Ne.symm (others other earlier)

theorem lookup_of_mem {entries : List (κ × ν)} (distinct : (entries.map Prod.fst).Nodup) {entry : κ × ν}
    (member : entry ∈ entries) : entries.lookup entry.1 = some entry.2 := by
  obtain ⟨before, after, split, others⟩ := split_of_mem distinct member
  exact List.lookup_eq_some_iff.mpr ⟨before, after, split, fun other earlier => bne_iff_ne.mpr (others other earlier)⟩

theorem eraseDups_append_singleton (items : List κ) (item : κ) :
    (items ++ [item]).eraseDups = if item ∈ items then items.eraseDups else items.eraseDups ++ [item] := by
  rw [List.eraseDups_append]
  split
  next old => simp [List.removeAll, old]
  next new => simp [List.removeAll, new, List.eraseDups_cons]

theorem nodup_eraseDups (items : List κ) : items.eraseDups.Nodup := by
  induction items using List.reverseRecOn with
  | nil => exact List.nodup_nil
  | append_singleton items item ih =>
    rw [eraseDups_append_singleton]
    split
    next => exact ih
    next new =>
      refine List.nodup_append.mpr ⟨ih, List.nodup_singleton _, fun other member last same => ?_⟩
      rintro rfl
      exact new (List.mem_singleton.mp same ▸ List.mem_eraseDups.mp member)

end Distinct

/-- The entries of a map as pairs. -/
theorem lookup_pairs {κ ν : Type} [DecidableEq κ] (entries : List (Sigma fun _ : κ => ν)) (key : κ) :
    (entries.map fun entry => (entry.1, entry.2)).lookup key = entries.dlookup key := by
  induction entries with
  | nil => rfl
  | cons entry rest ih =>
    obtain ⟨head, value⟩ := entry
    by_cases same : key = head
    · subst same
      simp [List.dlookup_cons_eq]
    · rw [List.map_cons, List.lookup_cons, List.dlookup_cons_ne _ _ same, ← ih, beq_false_of_ne same]

theorem lookup_filter_ne {κ ν : Type} [BEq κ] [LawfulBEq κ] [DecidableEq κ] {key other : κ} (different : other ≠ key)
    (entries : List (κ × ν)) : (entries.filter fun entry => entry.1 ≠ key).lookup other = entries.lookup other := by
  induction entries with
  | nil => rfl
  | cons entry rest ih =>
    obtain ⟨at_, value⟩ := entry
    by_cases same : at_ = key
    · have skipped : (other == at_) = false := beq_false_of_ne (same ▸ different)
      rw [List.filter_cons_of_neg (by simpa using same), ih, List.lookup_cons, skipped]
    · rw [List.filter_cons_of_pos (by simpa using same), List.lookup_cons, List.lookup_cons, ih]

section Positions
variable {ι : Type} {items : List ι} {position other : Nat} {item found : ι}

/-- What a list holds after a write to one position. -/
theorem getElem?_set_cases (held : (items.set position item)[other]? = some found) :
    (other = position ∧ found = item) ∨ (other ≠ position ∧ items[other]? = some found) := by
  by_cases same : position = other
  · subst same
    have inside := (List.getElem?_eq_some_iff.mp held).1
    rw [List.length_set] at inside
    rw [List.getElem?_set_self inside] at held
    cases held
    exact .inl ⟨rfl, rfl⟩
  · rw [List.getElem?_set_ne same] at held
    exact .inr ⟨Ne.symm same, held⟩

end Positions

variable {α : Type} {β : α → Type} [DecidableEq α]

theorem lookup_of_lookup_erase {map : AList β} {erased key : α} {value : β key}
    (found : (map.erase erased).lookup key = some value) : map.lookup key = some value := by
  by_cases same : key = erased
  · subst same
    rw [AList.lookup_erase] at found
    cases found
  · rwa [AList.lookup_erase_ne same] at found

def insertAll (items : List (Sigma β)) (map : AList β) : AList β :=
  items.foldl (fun map item => map.insert item.1 item.2) map

@[simp] theorem insertAll_nil (map : AList β) : insertAll [] map = map := rfl

@[simp] theorem insertAll_cons (item : Sigma β) (items : List (Sigma β)) (map : AList β) :
    insertAll (item :: items) map = insertAll items (map.insert item.1 item.2) := rfl

theorem insertAll_append_singleton (items : List (Sigma β)) (item : Sigma β) (map : AList β) :
    insertAll (items ++ [item]) map = (insertAll items map).insert item.1 item.2 := by
  rw [insertAll, List.foldl_append]
  rfl

/-- Entries with new and distinct keys are put in front, last first. -/
theorem entries_insertAll {items : List (Sigma β)} {map : AList β} (distinct : items.NodupKeys)
    (new : ∀ item ∈ items, item.1 ∉ map) : (insertAll items map).entries = items.reverse ++ map.entries := by
  induction items generalizing map with
  | nil => rfl
  | cons item rest ih =>
    rw [List.nodupKeys_cons] at distinct
    rw [List.forall_mem_cons] at new
    rw [insertAll_cons, ih distinct.2, AList.entries_insert_of_notMem new.1]
    · simp
    · intro other member
      rw [AList.mem_insert, not_or]
      refine ⟨fun same => distinct.1 ?_, new.2 other member⟩
      exact same ▸ List.mem_keys_of_mem member

/-- Of distinct entries each is found, and what they do not name is as before. -/
theorem lookup_insertAll {items : List (Sigma β)} (distinct : items.NodupKeys) (map : AList β) (key : α) :
    (insertAll items map).lookup key = (items.dlookup key).or (map.lookup key) := by
  induction items generalizing map with
  | nil => rfl
  | cons item rest ih =>
    rw [List.nodupKeys_cons] at distinct
    rw [insertAll_cons, ih distinct.2]
    by_cases same : item.1 = key
    · obtain ⟨head, value⟩ := item
      subst same
      have absent : rest.dlookup head = none := List.dlookup_eq_none.mpr distinct.1
      simp [absent, List.dlookup_cons_eq]
    · rw [AList.lookup_insert_ne (Ne.symm same), List.dlookup_cons_ne _ _ (Ne.symm same)]

/-- Writing one value to several keys. -/
theorem lookup_insertAll_map {γ : Type} (keys : List α) (value : γ) (map : AList fun _ : α => γ) (key : α) :
    (insertAll (keys.map fun key => ⟨key, value⟩) map).lookup key = if key ∈ keys then some value else map.lookup key := by
  induction keys generalizing map with
  | nil => rfl
  | cons head rest ih =>
    rw [List.map_cons, insertAll_cons, ih]
    by_cases later : key ∈ rest
    · rw [if_pos later, if_pos (List.mem_cons_of_mem _ later)]
    · by_cases same : key = head
      · subst same
        rw [if_neg later, if_pos List.mem_cons_self, AList.lookup_insert]
      · rw [if_neg later, if_neg (List.not_mem_cons_of_ne_of_not_mem same later), AList.lookup_insert_ne same]

/-- What is found afterwards was written, or there before. -/
theorem mem_of_lookup_insertAll {items : List (Sigma β)} {map : AList β} {key : α} {value : β key}
    (found : (insertAll items map).lookup key = some value) : ⟨key, value⟩ ∈ items ∨ map.lookup key = some value := by
  induction items generalizing map with
  | nil => exact .inr found
  | cons item rest ih =>
    rcases ih found with later | earlier
    · exact .inl (List.mem_cons_of_mem _ later)
    · by_cases same : key = item.1
      · obtain ⟨head, written⟩ := item
        subst same
        rw [AList.lookup_insert] at earlier
        cases earlier
        exact .inl List.mem_cons_self
      · rw [AList.lookup_insert_ne same] at earlier
        exact .inr earlier

theorem keys_insertAll_subset (items : List (Sigma β)) : (insertAll items ∅).keys ⊆ items.keys := by
  intro key member
  obtain ⟨value, found⟩ := Option.isSome_iff_exists.mp (AList.lookup_isSome.mpr (AList.mem_keys.mpr member))
  rcases mem_of_lookup_insertAll found with new | old
  · exact List.mem_keys_of_mem new
  · rw [AList.lookup_empty] at old
    cases old

/-- Writing a list into an empty map keeps an entry of the map for each of the list exactly
when their keys are distinct. -/
theorem length_insertAll_iff {items : List (Sigma β)} :
    (insertAll items ∅).entries.length = items.length ↔ items.NodupKeys := by
  constructor
  · intro same
    have few := List.subperm_of_subset (insertAll items ∅).keys_nodup (keys_insertAll_subset items)
    have all : items.keys.length ≤ (insertAll items ∅).keys.length := by
      simp [AList.keys, List.keys, same]
    exact ((few.perm_of_length_le all).nodup_iff).mp (insertAll items ∅).keys_nodup
  · intro distinct
    rw [entries_insertAll distinct fun _ _ => AList.notMem_empty _]
    simp

/-- Maps with the same lookups hold the same entries. -/
theorem entries_perm {first second : AList β} (same : ∀ key, first.lookup key = second.lookup key) :
    first.entries.Perm second.entries := by
  apply List.lookup_ext first.nodupKeys second.nodupKeys
  intro key value
  exact iff_of_eq (congrArg (value ∈ ·) (same key))

end DatafusionRay.Foundation.FiniteMap
