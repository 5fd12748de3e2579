import DatafusionRay.Proofs.PausedStreams
import DatafusionRay.Streaming.FiberReuse

/-! The fibers of a pull against the addresses it was given. The map of fibers has a
place for each stream and address, while the barrier counts the entries of the list. -/

namespace DatafusionRay.Proofs.FiberPerAddress
open Streaming FiberReuse Foundation.FiniteMap

variable {σ : Type}

/-- Where the fiber for an entry of the address list is stored. -/
def key (entry : String × String × PartitionRange) : String × String := (entry.1, entry.2.1)

/-- The fiber that is stored for a stream and address before the pull. -/
def previous (stored : Option (ExistingFibers σ)) (place : String × String) : Option (FiberReuse.RunningFiber σ) :=
  stored.bind fun existing => existing.fibers.lookup place

/-- The remote stream a fiber has open for these partitions, if it has. -/
def openFor (partitions : PartitionRange) (fiber : FiberReuse.RunningFiber σ) : Option σ :=
  if fiber.currentPartitions = partitions then fiber.remoteStream else none

/-- A fiber for each entry with its partitions, no other fibers, as many as the barrier
waits for, and an open stream is kept exactly when its partitions have not changed. -/
structure OneFiberPerAddress (stored : Option (ExistingFibers σ)) (addresses : List (String × String × PartitionRange)) :
    Prop where
  fiber : ∀ entry ∈ addresses, ∃ fiber,
    (makeFibersForAllAddresses stored addresses).fibers.lookup (key entry) = some fiber ∧
      fiber.currentPartitions = entry.2.2 ∧
      fiber.remoteStream = (previous stored (key entry)).bind (openFor entry.2.2)
  noOthers : ∀ place ∈ (makeFibersForAllAddresses stored addresses).fibers, ∃ entry ∈ addresses, key entry = place
  counted : ∀ marker, (makeFibersForAllAddresses stored addresses).fibers.entries.length =
    (SharedFiberState.new marker addresses.length).sharedTriggerState.count

section Gathered
variable {addresses : List (String × String × PartitionRange)} {fibers : FiberMap σ}

/-- Every entry goes to one of the two lists, under its own key. -/
private theorem intersect_keys
    (keyed : ∀ place fiber, fibers.lookup place = some fiber → (fiber.streamId, fiber.address) = place) :
    (((intersectAddressesAndFibers addresses fibers).1.map fun taken => (taken.1, taken.2.1.address)) ++
      (intersectAddressesAndFibers addresses fibers).2.map key).Perm (addresses.map key) := by
  induction addresses generalizing fibers with
  | nil => exact .nil
  | cons head rest ih =>
    have kept : ∀ place fiber, (fibers.erase (key head)).lookup place = some fiber →
        (fiber.streamId, fiber.address) = place := by
      intro place fiber found
      exact keyed place fiber (lookup_of_lookup_erase found)
    have later := ih kept
    rw [key] at later
    rw [intersectAddressesAndFibers]
    cases held : fibers.lookup (head.1, head.2.1) with
    | none => exact List.perm_middle.trans (later.cons _)
    | some fiber =>
      have address : fiber.address = head.2.1 := congrArg Prod.snd (keyed _ _ held)
      have same : (head.1, fiber.address) = key head := by rw [address, key]
      simpa [same] using later

/-- Entries with distinct keys do not take each other's fibers. -/
private theorem intersect_mem (distinct : (addresses.map key).Nodup) {entry : String × String × PartitionRange}
    (member : entry ∈ addresses) :
    (∀ fiber, fibers.lookup (key entry) = some fiber →
      (entry.1, fiber, entry.2.2) ∈ (intersectAddressesAndFibers addresses fibers).1) ∧
    (fibers.lookup (key entry) = none → entry ∈ (intersectAddressesAndFibers addresses fibers).2) := by
  induction addresses generalizing fibers with
  | nil => cases member
  | cons head rest ih =>
    rw [List.map_cons, List.nodup_cons] at distinct
    rw [intersectAddressesAndFibers]
    rcases List.mem_cons.mp member with rfl | member
    · rw [key]
      constructor
      · intro fiber found
        simp [found]
      · intro absent
        simp [absent]
    · have other : key entry ≠ key head := by
        intro same
        exact distinct.1 (same ▸ List.mem_map_of_mem member)
      have later := @ih (fibers.erase (key head)) distinct.2 member
      rw [AList.lookup_erase_ne other, key] at later
      cases held : fibers.lookup (head.1, head.2.1) with
      | none =>
        constructor
        · intro fiber found
          exact later.1 fiber found
        · intro absent
          exact List.mem_cons_of_mem _ (later.2 absent)
      | some taken =>
        constructor
        · intro fiber found
          exact List.mem_cons_of_mem _ (later.1 fiber found)
        · intro absent
          exact later.2 absent

end Gathered

section Made
variable (stored : Option (ExistingFibers σ)) (addresses : List (String × String × PartitionRange))

/-- The fibers are stored under the keys of the entries. -/
private theorem loadFibers_keys : (loadFibers (gatherFibers stored addresses)).keys.Perm (addresses.map key) := by
  have stored_keys : ∀ gathered : List (String × FiberReuse.RunningFiber σ × PartitionRange),
      (loadFibers gathered).keys = gathered.map fun taken => (taken.1, taken.2.1.address) := by
    intro gathered
    rw [List.keys, loadFibers, List.map_map]
    rfl
  have new_keys : ∀ entries : List (String × String × PartitionRange),
      ((newFibers entries : List (String × FiberReuse.RunningFiber σ × PartitionRange)).map
        fun taken => (taken.1, taken.2.1.address)) = entries.map key := by
    intro entries
    rw [newFibers, List.map_map]
    rfl
  rw [stored_keys]
  cases stored with
  | none => rw [gatherFibers_none, new_keys]
  | some existing =>
    rw [gatherFibers_some, List.map_append, new_keys]
    exact intersect_keys existing.keyed

private theorem loadFibers_distinct :
    (loadFibers (gatherFibers stored addresses)).NodupKeys ↔ (addresses.map key).Nodup :=
  (loadFibers_keys stored addresses).nodup_iff

private theorem length_loadFibers : (loadFibers (gatherFibers stored addresses)).length = addresses.length := by
  have same := (loadFibers_keys stored addresses).length_eq
  simpa [List.keys] using same

/-- The fiber for an entry is the one stored before, or a new one, loaded with the
partitions of the entry. -/
private theorem lookup_made (distinct : (addresses.map key).Nodup) {entry : String × String × PartitionRange}
    (member : entry ∈ addresses) :
    (makeFibersForAllAddresses stored addresses).fibers.lookup (key entry) =
      some (((previous stored (key entry)).getD (.new entry.1 entry.2.1 entry.2.2)).load entry.2.2) := by
  let fiber := (previous stored (key entry)).getD (.new entry.1 entry.2.1 entry.2.2)
  have made : ∀ entries : List (String × String × PartitionRange), entry ∈ entries →
      (entry.1, .new entry.1 entry.2.1 entry.2.2, entry.2.2) ∈
        (newFibers entries : List (String × FiberReuse.RunningFiber σ × PartitionRange)) := by
    intro entries new
    exact List.mem_map.mpr ⟨entry, new, rfl⟩
  have gathered : (entry.1, fiber, entry.2.2) ∈ gatherFibers stored addresses ∧ fiber.address = entry.2.1 := by
    cases stored with
    | none => exact ⟨made addresses member, rfl⟩
    | some existing =>
      rw [gatherFibers_some, List.mem_append]
      have placed := @intersect_mem _ _ existing.fibers distinct entry member
      cases found : existing.fibers.lookup (key entry) with
      | none =>
        have new : fiber = .new entry.1 entry.2.1 entry.2.2 := by simp [fiber, previous, found]
        rw [new]
        exact ⟨.inr (made _ (placed.2 found)), rfl⟩
      | some held =>
        have taken : fiber = held := by simp [fiber, previous, found]
        rw [taken]
        exact ⟨.inl (placed.1 held found), congrArg Prod.snd (existing.keyed _ _ found)⟩
  have loaded : ⟨key entry, fiber.load entry.2.2⟩ ∈ loadFibers (gatherFibers stored addresses) := by
    refine List.mem_map.mpr ⟨_, gathered.1, ?_⟩
    simp only [gathered.2, key]
  have distinctKeys := (loadFibers_distinct stored addresses).mpr distinct
  rw [makeFibersForAllAddresses, lookup_insertAll distinctKeys, List.mem_dlookup distinctKeys loaded, Option.some_or]

end Made

/-- There is one fiber per address exactly when no stream has two entries for one address. -/
theorem one_fiber_per_address_iff (stored : Option (ExistingFibers σ))
    (addresses : List (String × String × PartitionRange)) :
    OneFiberPerAddress stored addresses ↔ (addresses.map key).Nodup := by
  constructor
  · intro one
    have counted := one.counted 0
    rw [SharedFiberState.new, InnerQueueState.opened_count] at counted
    rw [← loadFibers_distinct stored, ← length_insertAll_iff, length_loadFibers]
    exact counted
  · intro distinct
    refine ⟨?_, ?_, ?_⟩
    · intro entry member
      refine ⟨_, lookup_made stored addresses distinct member, FiberReuse.RunningFiber.load_currentPartitions _ _, ?_⟩
      rw [FiberReuse.RunningFiber.load_remoteStream]
      cases previous stored (key entry) with
      | none => simp [FiberReuse.RunningFiber.new]
      | some fiber => rfl
    · intro place held
      have written := keys_insertAll_subset _ (AList.mem_keys.mp held)
      have listed := (loadFibers_keys stored addresses).mem_iff.mp written
      exact List.mem_map.mp listed
    · intro marker
      have length := length_insertAll_iff.mpr ((loadFibers_distinct stored addresses).mpr distinct)
      rw [length_loadFibers] at length
      rw [SharedFiberState.new, InnerQueueState.opened_count]
      exact length

/-- One worker runs both copies of the upstream task. -/
def sharedWorker : GenerationInputDetail :=
  ⟨"rows", [⟨"worker", (0, 8), ⟨0, 1, 2⟩⟩, ⟨"worker", (0, 8), ⟨1, 2, 2⟩⟩]⟩

/-- Two parts of a stream at one worker get one fiber, and the barrier waits for two. -/
theorem shared_worker_has_one_fiber :
    ∃ addresses, getAddresses ⟨0, 2, 2⟩ 0 ["rows"] [sharedWorker] = .ok addresses ∧
      (makeFibersForAllAddresses (none : Option (ExistingFibers Nat)) addresses).fibers.entries.length = 1 ∧
      (SharedFiberState.new 0 addresses.length).sharedTriggerState.count = 2 :=
  ⟨[("rows", "worker", ⟨0, 1, 2⟩), ("rows", "worker", ⟨1, 2, 2⟩)], rfl, rfl, rfl⟩

section FirstPull

private theorem mem_fiberKeys_append_singleton {addresses : List (String × String × PartitionRange)}
    {last entry : String × String × PartitionRange} :
    entry ∈ fiberKeys (addresses ++ [last]) ↔ entry = last ∨ (entry ∈ fiberKeys addresses ∧ key entry ≠ key last) := by
  induction addresses with
  | nil => simp [fiberKeys]
  | cons head rest ih =>
    rw [List.cons_append, fiberKeys, fiberKeys, List.any_append]
    by_cases repeated : (rest.any fun other => (other.1, other.2.1) = (head.1, head.2.1)) = true
    · rw [if_pos (by rw [repeated, Bool.true_or]), if_pos repeated]
      exact ih
    · by_cases replaced : (last.1, last.2.1) = (head.1, head.2.1)
      · grind [key]
      · grind [key]

/-- The fibers of a first pull, one insertion after the other. -/
private theorem lookup_first_pull (addresses : List (String × String × PartitionRange)) (place : String × String)
    (partitions : PartitionRange) :
    (((makeFibersForAllAddresses (none : Option (ExistingFibers σ)) addresses).fibers.lookup place).map
      RunningFiber.currentPartitions = some partitions) ↔ (place.1, place.2, partitions) ∈ fiberKeys addresses := by
  induction addresses using List.reverseRecOn with
  | nil => simp [makeFibersForAllAddresses, gatherFibers_none, newFibers, loadFibers, fiberKeys]
  | append_singleton addresses last ih =>
    have inserted : (makeFibersForAllAddresses (none : Option (ExistingFibers σ)) (addresses ++ [last])).fibers =
        (makeFibersForAllAddresses none addresses).fibers.insert (key last)
          ((RunningFiber.new last.1 last.2.1 last.2.2).load last.2.2) := by
      simp only [makeFibersForAllAddresses, gatherFibers_none, newFibers, loadFibers, List.map_append]
      exact insertAll_append_singleton _ _ _
    rw [mem_fiberKeys_append_singleton, inserted, ← ih]
    by_cases same : place = key last
    · rw [same, AList.lookup_insert, Option.map_some, RunningFiber.load_currentPartitions]
      grind [key]
    · rw [AList.lookup_insert_ne same]
      grind [key]

/-- The first pull, with nothing stored, has the fibers it is modelled with. -/
theorem first_pull_fibers (addresses : List (String × String × PartitionRange)) :
    ((makeFibersForAllAddresses (none : Option (ExistingFibers σ)) addresses).fibers.entries.map fun fiber =>
      (fiber.1.1, fiber.1.2, fiber.2.currentPartitions)).Perm (fiberKeys addresses) := by
  let made := (makeFibersForAllAddresses (none : Option (ExistingFibers σ)) addresses).fibers
  have distinct : (made.entries.map fun fiber => (fiber.1.1, fiber.1.2, fiber.2.currentPartitions)).Nodup := by
    have keys : (made.entries.map Sigma.fst).Nodup := made.nodupKeys
    apply List.Nodup.of_map key
    rw [List.map_map]
    exact keys
  rw [List.perm_ext_iff_of_nodup distinct (nodup_fiberKeys addresses)]
  intro (streamId, address, partitions)
  rw [← @lookup_first_pull σ addresses (streamId, address), List.mem_map, Option.map_eq_some_iff]
  constructor
  · intro ⟨entry, member, same⟩
    cases same
    exact ⟨entry.2, AList.mem_lookup_iff.mpr member, rfl⟩
  · intro ⟨fiber, found, same⟩
    refine ⟨⟨(streamId, address), fiber⟩, AList.mem_lookup_iff.mp found, ?_⟩
    rw [same]

end FirstPull

end DatafusionRay.Proofs.FiberPerAddress
