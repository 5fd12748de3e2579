import DatafusionRay.Streaming.DataChannel
import DatafusionRay.Streaming.Generation
import Mathlib

/-! The exchange channels of one worker by stream id, and the requests that open
a stream on one of them with the partition filter that goes with it. -/

namespace DatafusionRay.Streaming

structure PartitioningSpec (Expr : Type) where
  expressions : List Expr
  deriving DecidableEq, Repr

/-- What a partitioning specification comes to on a row: the hash of what its
expressions evaluate to. -/
abbrev RowHash (ρ : Type) := ρ → UInt64

structure ChannelPartitioningDetails (ρ : Type) where
  partitioningSpec : RowHash ρ
  partitions : PartitionRange

/-- The channel itself is shared with its sender, so the store only holds a handle to it. -/
structure OutputStream (ρ : Type) where
  channel : Nat
  partitioningDetails : Option (ChannelPartitioningDetails ρ)

abbrev ExchangeChannelStore (ρ : Type) := AList fun _ : String => OutputStream ρ

namespace ExchangeChannelStore
variable {ρ : Type}

/-- A stream id that is already present is overwritten. -/
def create (store : ExchangeChannelStore ρ) (streamId : String)
    (partitioningDetails : Option (ChannelPartitioningDetails ρ)) (channel : Nat) : ExchangeChannelStore ρ :=
  store.insert streamId ⟨channel, partitioningDetails⟩

/-- The channel to read and the filter its batches pass through. -/
def stream (store : ExchangeChannelStore ρ) (streamId : String) (partitions : PartitionRange) :
    Except DataFusionError (Nat × Option (ChannelPartitioningDetails ρ)) :=
  match store.lookup streamId with
  | none => .error (.internal s!"No channel found for stream id: {streamId}")
  | some ⟨channel, none⟩ =>
    if partitions.isEmpty then .ok (channel, none)
    else .error (.internal s!"A partitioned stream was requested for a non partitioned output: {streamId}")
  | some ⟨channel, some details⟩ =>
    let intersection := details.partitions.intersection partitions
    if intersection.isEmpty then
      let requested := partitions.debug
      let available := details.partitions.debug
      .error (.internal s!"Requested partitions {requested} do not intersect available partitions {available}")
    else .ok (channel, some { details with partitions := intersection })

end ExchangeChannelStore

/-- The map over the channel's items that `DataChannel::stream` ends with. -/
def filterItem {ρ : Type} (filter : Option (ChannelPartitioningDetails ρ)) : StreamItem ρ → StreamItem ρ
  | .marker cut => .marker cut
  | .recordBatch batch =>
    match filter with
    | none => .recordBatch batch
    | some details => .recordBatch (filterByPartitionRange details.partitioningSpec details.partitions batch)

def StreamItem.rows {ρ : Type} : StreamItem ρ → List ρ
  | .marker _ => []
  | .recordBatch batch => batch.rows

structure RemoteExchangeOperator (Schema Expr : Type) where
  outputStreamId : String
  schema : Schema
  partitioning : Option (PartitioningSpec Expr)
  deriving DecidableEq, Repr

structure RemoteExchangeOperatorFunction (ρ : Type) where
  outputStreamId : String
  partitioning : Option (RowHash ρ)

def RemoteExchangeOperator.createOperatorFunction {Schema Expr ρ : Type} (hash : List Expr → RowHash ρ)
    (operator : RemoteExchangeOperator Schema Expr) : RemoteExchangeOperatorFunction ρ :=
  ⟨operator.outputStreamId, operator.partitioning.map fun spec => hash spec.expressions⟩

/-- `init` publishes the output under the partitions of the first generation. -/
def RemoteExchangeOperatorFunction.init {ρ : Type} (operator : RemoteExchangeOperatorFunction ρ) (store : ExchangeChannelStore ρ)
    (channel : Nat) (generations : List GenerationSpec) : Except Failure (ExchangeChannelStore ρ) :=
  match generations with
  | [] => .error (.panicked "index out of bounds: the len is 0 but the index is 0")
  | generation :: _ =>
    let partitioningDetails := operator.partitioning.map fun partitioningSpec =>
      { partitioningSpec, partitions := generation.partitions }
    .ok (store.create operator.outputStreamId partitioningDetails channel)

end DatafusionRay.Streaming
