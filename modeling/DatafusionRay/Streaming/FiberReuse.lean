import DatafusionRay.Foundation.FiniteMap
import DatafusionRay.Streaming.Fibers
import DatafusionRay.Streaming.Generation

/-! The fibers that a remote source keeps between two pulls. A pull takes over the
fibers whose stream and address it still needs, with the remote stream they have open,
and makes new ones for the other addresses. -/

namespace DatafusionRay.Streaming.FiberReuse
open Foundation.FiniteMap

variable {σ : Type}

/-- `σ` are the remote streams. -/
structure RunningFiber (σ : Type) where
  streamId : String
  address : String
  currentPartitions : PartitionRange
  remoteStream : Option σ
  deriving DecidableEq, Repr

namespace RunningFiber

def new (streamId address : String) (range : PartitionRange) : RunningFiber σ := ⟨streamId, address, range, none⟩

def load (fiber : RunningFiber σ) (partitions : PartitionRange) : RunningFiber σ :=
  if fiber.currentPartitions ≠ partitions then { fiber with remoteStream := none, currentPartitions := partitions }
  else fiber

@[simp] theorem load_streamId (fiber : RunningFiber σ) (partitions : PartitionRange) :
    (fiber.load partitions).streamId = fiber.streamId := by
  unfold load
  split <;> rfl

@[simp] theorem load_address (fiber : RunningFiber σ) (partitions : PartitionRange) :
    (fiber.load partitions).address = fiber.address := by
  unfold load
  split <;> rfl

@[simp] theorem load_currentPartitions (fiber : RunningFiber σ) (partitions : PartitionRange) :
    (fiber.load partitions).currentPartitions = partitions := by
  by_cases same : fiber.currentPartitions = partitions <;> simp [load, same]

@[simp] theorem load_remoteStream (fiber : RunningFiber σ) (partitions : PartitionRange) :
    (fiber.load partitions).remoteStream =
      if fiber.currentPartitions = partitions then fiber.remoteStream else none := by
  by_cases same : fiber.currentPartitions = partitions <;> simp [load, same]

end RunningFiber

abbrev FiberMap (σ : Type) := AList fun _ : String × String => RunningFiber σ

/-- The fibers of a source by stream and address. They are private to it, and it stores
them under their own stream and address only. -/
structure ExistingFibers (σ : Type) where
  fibers : FiberMap σ
  keyed : ∀ key fiber, fibers.lookup key = some fiber → (fiber.streamId, fiber.address) = key

/-- Every address takes its fiber out of the map, so a second entry for one address finds
none. -/
def intersectAddressesAndFibers : List (String × String × PartitionRange) → FiberMap σ →
    List (String × RunningFiber σ × PartitionRange) × List (String × String × PartitionRange)
  | [], _ => ([], [])
  | (streamId, address, partitions) :: rest, fibers =>
    let (existingFibers, newAddresses) := intersectAddressesAndFibers rest (fibers.erase (streamId, address))
    match fibers.lookup (streamId, address) with
    | none => (existingFibers, (streamId, address, partitions) :: newAddresses)
    | some fiber => ((streamId, fiber, partitions) :: existingFibers, newAddresses)

/-- The loop that makes new fibers. -/
def newFibers (addresses : List (String × String × PartitionRange)) :
    List (String × RunningFiber σ × PartitionRange) :=
  addresses.map fun (streamId, address, partitions) => (streamId, .new streamId address partitions, partitions)

/-- The fibers for the addresses: those taken over, then the new ones. -/
def gatherFibers (stored : Option (ExistingFibers σ)) (addresses : List (String × String × PartitionRange)) :
    List (String × RunningFiber σ × PartitionRange) :=
  let (existingFibers, newAddresses) := match stored with
    | some existing => intersectAddressesAndFibers addresses existing.fibers
    | none => ([], addresses)
  existingFibers ++ newFibers newAddresses

theorem gatherFibers_none (addresses : List (String × String × PartitionRange)) :
    gatherFibers (none : Option (ExistingFibers σ)) addresses = newFibers addresses := rfl

theorem gatherFibers_some (existing : ExistingFibers σ) (addresses : List (String × String × PartitionRange)) :
    gatherFibers (some existing) addresses = (intersectAddressesAndFibers addresses existing.fibers).1 ++
      newFibers (intersectAddressesAndFibers addresses existing.fibers).2 := rfl

/-- The fibers with their partitions updated, under the keys they are stored at. -/
def loadFibers (gathered : List (String × RunningFiber σ × PartitionRange)) :
    List (Sigma fun _ : String × String => RunningFiber σ) :=
  gathered.map fun (streamId, fiber, partitions) => ⟨(streamId, fiber.address), fiber.load partitions⟩

/-- A taken over fiber is the one stored for its stream and address. -/
theorem mem_intersectAddressesAndFibers {addresses : List (String × String × PartitionRange)} {fibers : FiberMap σ}
    {entry : String × RunningFiber σ × PartitionRange}
    (member : entry ∈ (intersectAddressesAndFibers addresses fibers).1) :
    ∃ address, fibers.lookup (entry.1, address) = some entry.2.1 := by
  induction addresses generalizing fibers with
  | nil => cases member
  | cons head rest ih =>
    have later : entry ∈ (intersectAddressesAndFibers rest (fibers.erase (head.1, head.2.1))).1 →
        ∃ address, fibers.lookup (entry.1, address) = some entry.2.1 := by
      intro earlier
      obtain ⟨address, found⟩ := ih earlier
      exact ⟨address, lookup_of_lookup_erase found⟩
    rw [intersectAddressesAndFibers] at member
    cases held : fibers.lookup (head.1, head.2.1) with
    | none =>
      simp only [held] at member
      exact later member
    | some fiber =>
      simp only [held, List.mem_cons] at member
      rcases member with rfl | member
      · exact ⟨head.2.1, held⟩
      · exact later member

theorem gatherFibers_keyed {stored : Option (ExistingFibers σ)} {addresses : List (String × String × PartitionRange)}
    {entry : String × RunningFiber σ × PartitionRange} (member : entry ∈ gatherFibers stored addresses) :
    entry.2.1.streamId = entry.1 := by
  have made : ∀ entries : List (String × String × PartitionRange),
      entry ∈ newFibers entries → entry.2.1.streamId = entry.1 := by
    intro entries new
    obtain ⟨address, _, rfl⟩ := List.mem_map.mp new
    rfl
  cases stored with
  | none => exact made _ member
  | some existing =>
    rw [gatherFibers_some] at member
    rcases List.mem_append.mp member with taken | new
    · obtain ⟨address, found⟩ := mem_intersectAddressesAndFibers taken
      exact congrArg Prod.fst (existing.keyed _ _ found)
    · exact made _ new

def makeFibersForAllAddresses (stored : Option (ExistingFibers σ))
    (addresses : List (String × String × PartitionRange)) : ExistingFibers σ where
  fibers := insertAll (loadFibers (gatherFibers stored addresses)) ∅
  keyed := by
    intro key fiber found
    rcases mem_of_lookup_insertAll found with written | old
    · obtain ⟨entry, member, same⟩ := List.mem_map.mp written
      cases same
      simp [gatherFibers_keyed member]
    · cases old

end DatafusionRay.Streaming.FiberReuse
