import DatafusionRay.Foundation.WireFormat
import DatafusionRay.Streaming.RemoteSource

/-! How a stream of another worker is asked for: the ticket as it travels, the service that
answers it, and the retries of a client that collects the results of a run. -/

namespace DatafusionRay.Streaming
open Foundation WireFormat

variable {ρ : Type}

/-- The message for a range, as it is generated. -/
structure PartitionRangeMessage where
  start : UInt64 := 0
  stop : UInt64 := 0
  partitions : UInt64 := 0
  deriving DecidableEq, Repr

namespace PartitionRangeMessage

def ofRange (range : PartitionRange) : PartitionRangeMessage :=
  ⟨UInt64.ofNat range.start, UInt64.ofNat range.stop, UInt64.ofNat range.partitions⟩

def toRange (message : PartitionRangeMessage) : PartitionRange :=
  ⟨message.start.toNat, message.stop.toNat, message.partitions.toNat⟩

def fields (message : PartitionRangeMessage) : List WireFormat.Field :=
  uint64Field 1 message.start ++ uint64Field 2 message.stop ++ uint64Field 3 message.partitions

def mergeField (message : PartitionRangeMessage) (field : WireFormat.Field) : Option PartitionRangeMessage :=
  match field.number with
  | 1 => field.value.toUInt64.map fun start => { message with start }
  | 2 => field.value.toUInt64.map fun stop => { message with stop }
  | 3 => field.value.toUInt64.map fun partitions => { message with partitions }
  | _ => some message

/-- A message that comes more than once is merged with the earlier ones. -/
def merge (message : PartitionRangeMessage) (buf : Bytes) : Option PartitionRangeMessage :=
  WireFormat.decodeMessage message mergeField buf

end PartitionRangeMessage

namespace StreamingFlightTicketData

def fields (ticket : StreamingFlightTicketData) : List WireFormat.Field :=
  stringField 1 ticket.streamId ++
    (ticket.partitions.elim [] fun range => messageField 2 (encodeFields (PartitionRangeMessage.ofRange range).fields)) ++
    uint64Field 3 (UInt64.ofNat ticket.checkpointNumber)

def encodeToVec (ticket : StreamingFlightTicketData) : Bytes := encodeFields ticket.fields

def mergeField (ticket : StreamingFlightTicketData) (field : WireFormat.Field) : Option StreamingFlightTicketData :=
  match field.number with
  | 1 => field.value.toText.map fun streamId => { ticket with streamId }
  | 2 => field.value.toMessage.bind fun bytes =>
      (PartitionRangeMessage.merge ((ticket.partitions.map .ofRange).getD {}) bytes).map fun message =>
        { ticket with partitions := some message.toRange }
  | 3 => field.value.toUInt64.map fun checkpointNumber => { ticket with checkpointNumber := checkpointNumber.toNat }
  | _ => some ticket

def decode (buf : Bytes) : Option StreamingFlightTicketData := WireFormat.decodeMessage ⟨none, "", 0⟩ mergeField buf

end StreamingFlightTicketData

/-- `get_stream` from the bytes of a ticket. Why bytes are no ticket is told by their text. -/
def DataExchangeFlightService.getStream (store : ExchangeChannelStore ρ) (decodeError : Bytes → String) (ticket : Bytes) :
    Except String (Nat × Option (ChannelPartitioningDetails ρ)) :=
  match StreamingFlightTicketData.decode ticket with
  | none =>
    let error := decodeError ticket
    .error s!"Failed to decode ticket data: {error}"
  | some data => Streaming.getStream store data

/-- `retry_future`. The attempts are numbered from the first one on. -/
def retryFuture {ε α : Type} (attempt : Nat → Except ε α) : (retries made : Nat) → Except ε α
  | 0, made => attempt made
  | retries + 1, made =>
    match attempt made with
    | .ok result => .ok result
    | .error _ => retryFuture attempt retries (made + 1)

/-- The batches of a stream; the markers are left out. -/
def onlyBatches : List (SResult ρ) → List (Except DataFusionError (RecordBatch ρ)) :=
  List.filterMap fun
    | .error error => some (.error error)
    | .ok (.recordBatch batch) => some (.ok batch)
    | .ok _ => none

/-- `stream_results`, where the workers may be others at each attempt. -/
def streamResults (peers : Nat → Peers ρ) (address streamId : String) :
    Except DataFusionError (List (Except DataFusionError (RecordBatch ρ))) :=
  (retryFuture (fun attempt => createRemoteStream (peers attempt) streamId address .empty) 5 0).map onlyBatches

def collectInner (peers : Nat → Peers ρ) (address streamId : String) : Except DataFusionError (List (RecordBatch ρ)) := do
  let stream ← streamResults peers address streamId
  stream.mapM id

end DatafusionRay.Streaming
