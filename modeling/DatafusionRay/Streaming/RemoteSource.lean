import DatafusionRay.Streaming.ExchangeStore
import DatafusionRay.Streaming.Fibers

/-! The operator that reads the exchange channels of other tasks: which streams
it opens for a checkpoint, what it asks the other workers for, and when it is
told to stop at a marker. -/

namespace DatafusionRay.Streaming

structure SchedulingDetails where
  generations : Option (List GenerationSpec)
  inputDetails : Option (List GenerationInputDetail)
  deriving DecidableEq, Repr

namespace SchedulingDetails

/-- How `pull` and `check_generation_and_addresses` begin. -/
def current (details : SchedulingDetails) (streamIds : List String) (marker : Nat) :
    Except DataFusionError (GenerationSpec × List GenerationInputDetail) := do
  let some generations := details.generations | throw (.internal "No initial generations were provided")
  let some inputDetails := details.inputDetails | throw (.internal "No initial input_details were provided")
  let generation ← findCurrentGeneration streamIds generations marker
  return (generation, inputDetails)

def checkGenerationAndAddresses (details : SchedulingDetails) (streamIds : List String) (currentGenerationId : String)
    (currentAddresses : List (String × String × PartitionRange)) (marker : Nat) : Except DataFusionError FiberState := do
  let (generation, inputDetails) ← details.current streamIds marker
  if generation.id ≠ currentGenerationId then return .pause
  let newAddresses ← getAddresses generation.partitions marker streamIds inputDetails
  if newAddresses.all (· ∈ currentAddresses) && currentAddresses.all (· ∈ newAddresses) then return .«continue»
  return .pause

end SchedulingDetails

structure StreamingFlightTicketData where
  partitions : Option PartitionRange
  streamId : String
  checkpointNumber : Nat
  deriving DecidableEq, Repr

/-- `get_stream` of a worker: the channel it opens a stream on and the filter of
that stream. The stream starts at the first item of the channel; the checkpoint
number of the ticket is not read. -/
def getStream {ρ : Type} (store : ExchangeChannelStore ρ) (ticket : StreamingFlightTicketData) :
    Except String (Nat × Option (ChannelPartitioningDetails ρ)) :=
  (store.stream ticket.streamId (ticket.partitions.getD .empty)).mapError fun error =>
    let shown := error.display
    s!"Failed to get stream: {shown}"

/-- The workers a source can reach by address. `received` is what arrives of the
stream on a channel with a filter, up to its end: on the way a batch may be cut into
several, an empty one is dropped, and a failure of the channel, the filter or the
transport arrives as an error. -/
structure Peers (ρ : Type) where
  getClient : String → Except DataFusionError (ExchangeChannelStore ρ)
  received : String → Nat → Option (ChannelPartitioningDetails ρ) → List (SResult ρ)

def createRemoteStream {ρ : Type} (peers : Peers ρ) (streamId address : String) (partitions : PartitionRange) :
    Except DataFusionError (List (SResult ρ)) := do
  let store ← peers.getClient address
  match getStream store ⟨some partitions, streamId, 0⟩ with
  | .error status => throw (.internal s!"Error getting flight stream: {status}")
  | .ok (channel, filter) => return peers.received address channel filter

/-- The map of fibers by stream and address keeps the last of equal keys. -/
def fiberKeys : List (String × String × PartitionRange) → List (String × String × PartitionRange)
  | [] => []
  | entry :: rest =>
    if rest.any fun other => (other.1, other.2.1) = (entry.1, entry.2.1) then fiberKeys rest
    else entry :: fiberKeys rest

section FiberKeys
variable {addresses : List (String × String × PartitionRange)} {entry : String × String × PartitionRange}

theorem mem_of_mem_fiberKeys (member : entry ∈ fiberKeys addresses) : entry ∈ addresses := by
  induction addresses with
  | nil => cases member
  | cons head rest ih =>
    rw [fiberKeys] at member
    split at member
    · exact List.mem_cons_of_mem _ (ih member)
    · rcases List.mem_cons.mp member with rfl | later
      · exact List.mem_cons_self
      · exact List.mem_cons_of_mem _ (ih later)

theorem nodup_fiberKeys (addresses : List (String × String × PartitionRange)) : (fiberKeys addresses).Nodup := by
  induction addresses with
  | nil => exact .nil
  | cons head rest ih =>
    rw [fiberKeys]
    split
    next => exact ih
    next fresh =>
      refine List.nodup_cons.mpr ⟨fun repeated => fresh ?_, ih⟩
      exact List.any_eq_true.mpr ⟨head, mem_of_mem_fiberKeys repeated, decide_eq_true rfl⟩

/-- Some fiber reads the stream of every entry at its address, though perhaps other partitions of it. -/
theorem exists_mem_fiberKeys (member : entry ∈ addresses) :
    ∃ kept ∈ fiberKeys addresses, (kept.1, kept.2.1) = (entry.1, entry.2.1) := by
  induction addresses generalizing entry with
  | nil => cases member
  | cons head rest ih =>
    rw [fiberKeys]
    split
    next repeated =>
      rcases List.mem_cons.mp member with rfl | later
      · obtain ⟨other, present, same⟩ := List.any_eq_true.mp repeated
        obtain ⟨kept, inside, equal⟩ := ih present
        exact ⟨kept, inside, equal.trans (of_decide_eq_true same)⟩
      · exact ih later
    next =>
      rcases List.mem_cons.mp member with rfl | later
      · exact ⟨_, List.mem_cons_self, rfl⟩
      · obtain ⟨kept, inside, equal⟩ := ih later
        exact ⟨kept, List.mem_cons_of_mem _ inside, equal⟩

end FiberKeys

/-- The fibers of one pull with what the check at a marker compares: the generation
and the addresses at the time of the pull. -/
structure PulledFibers (ρ : Type) where
  generationId : String
  addresses : List (String × String × PartitionRange)
  streams : List (List (SResult ρ))
  running : RunningFibers ρ

structure RemoteSourceFunction where
  streamIds : List String
  loadedCheckpoint : Nat := 0
  deriving DecidableEq, Repr

namespace RemoteSourceFunction
variable {ρ : Type}

def load (source : RemoteSourceFunction) (checkpoint : Nat) : RemoteSourceFunction :=
  { source with loadedCheckpoint := checkpoint }

/-- The generation and the addresses that serve it at a marker. -/
def addressesAt (source : RemoteSourceFunction) (details : SchedulingDetails) (marker : Nat) :
    Except DataFusionError (String × List (String × String × PartitionRange)) := do
  let (generation, inputDetails) ← details.current source.streamIds marker
  let addresses ← getAddresses generation.partitions marker source.streamIds inputDetails
  return (generation.id, addresses)

/-- A `pull` that opens streams. The barrier counts the addresses. -/
def pull (peers : Peers ρ) (details : SchedulingDetails) (source : RemoteSourceFunction) (marker : Nat) :
    Except DataFusionError (PulledFibers ρ) := do
  let (generationId, addresses) ← source.addressesAt details marker
  let streams ← (fiberKeys addresses).mapM fun key => createRemoteStream peers key.1 key.2.1 key.2.2
  let running := RunningFibers.start marker streams
  return ⟨generationId, addresses, streams, { running with shared := .new marker addresses.length }⟩

end RemoteSourceFunction

/-- What the fibers of a pull are told at a marker under the scheduling details of the moment. -/
def PulledFibers.check {ρ : Type} (fibers : PulledFibers ρ) (source : RemoteSourceFunction) (details : SchedulingDetails) :
    Nat → Except DataFusionError FiberState :=
  details.checkGenerationAndAddresses source.streamIds fibers.generationId fibers.addresses

end DatafusionRay.Streaming
