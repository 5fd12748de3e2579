import DatafusionRay.Foundation.FiniteMap
import DatafusionRay.Streaming.CountByKey

/-! Counts by key in memory and in the database. A marker brings the database up
to date, whatever older counts it held, and a load reads the same counts back. -/

namespace DatafusionRay.Proofs.KeyCounts
open Foundation FiniteMap Streaming CountByKeyFunction

def encodeEntry : (Sigma fun _ : UInt64 => UInt64) → Sigma fun _ : Bytes => Bytes :=
  Sigma.map toBeBytes fun _ => toBeBytes

theorem storeCounts_eq (counts : Counts) (db : Db) :
    storeCounts counts db = insertAll (counts.entries.map encodeEntry) db := by
  rw [insertAll, List.foldl_map]
  rfl

theorem nodupKeys_encoded (items : List (Sigma fun _ : UInt64 => UInt64)) :
    (items.map encodeEntry).NodupKeys ↔ items.NodupKeys := by
  have keys : (items.map encodeEntry).keys = items.keys.map toBeBytes := by
    simp [List.keys, encodeEntry, Sigma.map, Function.comp_def]
  rw [List.NodupKeys, List.NodupKeys, keys]
  exact List.nodup_map_iff toBeBytes_injective

theorem dlookup_encoded (items : List (Sigma fun _ : UInt64 => UInt64)) (key : UInt64) :
    (items.map encodeEntry).dlookup (toBeBytes key) = (items.dlookup key).map toBeBytes :=
  @List.dlookup_map _ _ (fun _ => UInt64) (fun _ => Bytes) _ _ items toBeBytes toBeBytes_injective (fun _ => toBeBytes) key

theorem decodeCounts_encoded (items : List (Sigma fun _ : UInt64 => UInt64)) (counts : Counts) :
    decodeCounts (items.map encodeEntry) counts = .ok (insertAll items counts) := by
  induction items generalizing counts with
  | nil => rfl
  | cons item rest ih =>
    simp only [List.map_cons, encodeEntry, Sigma.map, decodeCounts, decodeEntry, fromBeBytes_toBeBytes]
    exact ih _

theorem decodeCounts_storeCounts (counts : Counts) : decodeCounts (storeCounts counts ∅).entries ∅ = .ok counts := by
  rw [storeCounts_eq, entries_insertAll ((nodupKeys_encoded _).mpr counts.nodupKeys) (by simp),
    AList.empty_entries, List.append_nil, ← List.map_reverse, decodeCounts_encoded]
  congr 1
  apply AList.ext
  have distinct : counts.entries.reverse.NodupKeys := by
    have keys : counts.entries.reverse.keys = counts.entries.keys.reverse := by simp [List.keys]
    rw [List.NodupKeys, keys]
    exact List.nodup_reverse.mpr counts.nodupKeys
  rw [entries_insertAll distinct (by simp)]
  simp

/-- Every key of the database is one of the counted keys. -/
def Within (db : Db) (counts : Counts) : Prop := ∀ key ∈ db, ∃ counted ∈ counts, key = toBeBytes counted

structure Holds (db : Db) (counts : Counts) : Prop where
  found : ∀ key, db.lookup (toBeBytes key) = (counts.lookup key).map toBeBytes
  within : Within db counts

variable {db : Db} {counts : Counts}

/-- The keys of a database are only ever added to, so a marker needs no delete. -/
theorem Within.storeCounts_holds (older : Within db counts) : Holds (storeCounts counts db) counts := by
  have distinct := (nodupKeys_encoded counts.entries).mpr counts.nodupKeys
  have found (key : Bytes) : (storeCounts counts db).lookup key =
      ((counts.entries.map encodeEntry).dlookup key).or (db.lookup key) := by
    rw [storeCounts_eq, lookup_insertAll distinct]
  constructor
  · intro key
    rw [found, dlookup_encoded]
    change ((counts.lookup key).map toBeBytes).or _ = _
    cases counted : counts.lookup key with
    | some count => rfl
    | none =>
      rw [Option.map_none, Option.none_or, AList.lookup_eq_none]
      intro member
      obtain ⟨other, known, same⟩ := older _ member
      rw [← toBeBytes_injective same] at known
      exact AList.lookup_eq_none.mp counted known
  · intro key member
    rw [← AList.lookup_isSome, found, Option.isSome_or, Bool.or_eq_true, AList.lookup_isSome, List.dlookup_isSome] at member
    rcases member with new | old
    · obtain ⟨entry, known, same⟩ := List.mem_map.mp new
      obtain ⟨item, listed, rfl⟩ := List.mem_map.mp known
      exact ⟨item.1, List.mem_keys_of_mem listed, same.symm⟩
    · exact older key old

theorem Holds.decodeCounts_ok (holds : Holds db counts) :
    ∃ decoded, decodeCounts db.entries ∅ = .ok decoded ∧ ∀ key, decoded.lookup key = counts.lookup key := by
  have encoded : db.entries ∈ Set.range (List.map encodeEntry) := by
    rw [Set.range_list_map]
    intro entry member
    obtain ⟨key, -, same⟩ := holds.within entry.1 (List.mem_keys_of_mem member)
    have value : db.lookup entry.1 = some entry.2 := List.mem_dlookup db.nodupKeys member
    rw [same, holds.found key, Option.map_eq_some_iff] at value
    obtain ⟨count, -, stored⟩ := value
    exact ⟨⟨key, count⟩, Sigma.ext same.symm (heq_of_eq stored)⟩
  obtain ⟨items, same⟩ := encoded
  have distinct : items.NodupKeys := (nodupKeys_encoded items).mp (same ▸ db.nodupKeys)
  refine ⟨insertAll items ∅, by rw [← same, decodeCounts_encoded], fun key => ?_⟩
  rw [lookup_insertAll distinct, AList.lookup_empty, Option.or_none]
  apply Option.map_injective toBeBytes_injective
  rw [← dlookup_encoded, same]
  exact holds.found key

/-- A tally does not depend on how the counts are laid out. -/
theorem lookup_tally {first second : Counts} (same : ∀ key, first.lookup key = second.lookup key) (keys : List UInt64)
    (key : UInt64) : (keys.foldl increment first).lookup key = (keys.foldl increment second).lookup key := by
  induction keys generalizing first second with
  | nil => exact same key
  | cons head rest ih =>
    apply ih
    intro other
    by_cases here : other = head
    · subst here
      rw [increment, increment, AList.lookup_insert, AList.lookup_insert, same]
    · rw [increment, increment, AList.lookup_insert_ne here, AList.lookup_insert_ne here, same]

theorem lookup_increments (keys : List UInt64) (counts : Counts) (key : UInt64) :
    (keys.foldl increment counts).lookup key =
      if keys.count key = 0 then counts.lookup key
      else some ((counts.lookup key).getD 0 + .ofNat (keys.count key)) := by
  induction keys generalizing counts with
  | nil => rfl
  | cons head rest ih =>
    rw [List.foldl_cons, ih]
    by_cases same : head = key
    · subst same
      rw [increment, AList.lookup_insert, List.count_cons_self]
      by_cases last : rest.count head = 0
      · simp [last]
      · simp [last, UInt64.add_assoc, UInt64.add_comm 1]
    · rw [increment, AList.lookup_insert_ne (Ne.symm same), List.count_cons_of_ne same]

theorem Within.tally (older : Within db counts) (keys : List UInt64) : Within db (keys.foldl increment counts) := by
  induction keys generalizing counts with
  | nil => exact older
  | cons head rest ih =>
    apply ih
    intro key member
    obtain ⟨counted, known, same⟩ := older key member
    exact ⟨counted, (AList.mem_insert _).mpr (.inr known), same⟩

end DatafusionRay.Proofs.KeyCounts
