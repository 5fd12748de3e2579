import DatafusionRay.Foundation.WireFormat
import DatafusionRay.Streaming.Item

/-! The codec for the extension nodes of a physical plan. A node is written as one
of four messages without a tag, and read by trying the four types in turn. How
schemas and partitionings are turned into messages is given. -/

namespace DatafusionRay.Batch
open Foundation.WireFormat
open Streaming (DataFusionError Failure)

/-- The expressions of a hash partitioning play no part in its partition count. -/
inductive Partitioning where
  | roundRobinBatch (partitions : UInt64)
  | hash (partitions : UInt64)
  | unknownPartitioning (partitions : UInt64)
  deriving DecidableEq, Repr

def Partitioning.partitionCount : Partitioning → UInt64
  | roundRobinBatch partitions | hash partitions | unknownPartitioning partitions => partitions

/-- A type of messages that was generated elsewhere. -/
structure MessageType (μ : Type) where
  empty : μ
  encode : μ → Bytes
  merge : μ → Bytes → Option μ

/-- What the codec uses of `datafusion_proto`. -/
structure ProtoConversions (σ μ π : Type) where
  schema : MessageType μ
  partitioning : MessageType π
  schemaToProto : σ → Except DataFusionError μ
  schemaFromProto : μ → Except DataFusionError σ
  serializePartitioning : Partitioning → Except DataFusionError π
  parseProtobufPartitioning : Option π → σ → Except DataFusionError (Option Partitioning)

/-- Every constructor makes the partitioning an unknown one, so only its count is kept. -/
structure DFRayStageReaderExec (σ : Type) where
  partitions : UInt64
  schema : σ
  stageId : UInt64
  deriving DecidableEq, Repr

namespace DFRayStageReaderExec
variable {σ : Type}

def tryNew (partitioning : Partitioning) (schema : σ) (stageId : UInt64) : DFRayStageReaderExec σ :=
  ⟨partitioning.partitionCount, schema, stageId⟩

def outputPartitioning (reader : DFRayStageReaderExec σ) : Partitioning := .unknownPartitioning reader.partitions

end DFRayStageReaderExec

inductive ExecutionPlan (σ : Type) where
  | stageReader (reader : DFRayStageReaderExec σ)
  | partitionIsolator (input : ExecutionPlan σ) (partitionCount : UInt64)
  | maxRows (input : ExecutionPlan σ) (maxRows : UInt64)
  | prefetch (input : ExecutionPlan σ) (bufSize : UInt64)
  | other (children : List (ExecutionPlan σ))

namespace ExecutionPlan
variable {σ : Type}

def children : ExecutionPlan σ → List (ExecutionPlan σ)
  | stageReader _ => []
  | partitionIsolator input _ | maxRows input _ | prefetch input _ => [input]
  | other children => children

def prefetchNew (input : ExecutionPlan σ) (bufSize : UInt64) : Except Failure (ExecutionPlan σ) :=
  if input.children.length ≠ 1 then .error (.panicked "PrefetchExec must have exactly one input")
  else .ok (.prefetch input bufSize)

end ExecutionPlan

/-- The float is given by its bits. -/
structure PartitionIsolatorExecNode where
  dummy : UInt32 := 0
  partitionCount : UInt64 := 0
  deriving DecidableEq, Repr

namespace PartitionIsolatorExecNode

def fields (node : PartitionIsolatorExecNode) : List Field :=
  floatField 1 node.dummy ++ uint64Field 2 node.partitionCount

def mergeField (node : PartitionIsolatorExecNode) (field : Field) : Option PartitionIsolatorExecNode :=
  match field.number with
  | 1 => field.value.toBits32.map fun dummy => { node with dummy }
  | 2 => field.value.toUInt64.map fun partitionCount => { node with partitionCount }
  | _ => some node

def decode (buf : Bytes) : Option PartitionIsolatorExecNode := decodeMessage {} mergeField buf

end PartitionIsolatorExecNode

structure DfRayStageReaderExecNode (μ π : Type) where
  schema : Option μ := none
  partitioning : Option π := none
  stageId : UInt64 := 0

namespace DfRayStageReaderExecNode
variable {σ μ π : Type} (conversions : ProtoConversions σ μ π)

def fields (node : DfRayStageReaderExecNode μ π) : List Field :=
  ((node.schema.map conversions.schema.encode).elim [] (messageField 1)) ++
    ((node.partitioning.map conversions.partitioning.encode).elim [] (messageField 2)) ++ uint64Field 3 node.stageId

/-- A message that comes more than once is merged with the earlier ones. -/
def mergeField (node : DfRayStageReaderExecNode μ π) (field : Field) : Option (DfRayStageReaderExecNode μ π) :=
  match field.number with
  | 1 => field.value.toMessage.bind fun bytes =>
      (conversions.schema.merge (node.schema.getD conversions.schema.empty) bytes).map fun schema =>
        { node with schema := some schema }
  | 2 => field.value.toMessage.bind fun bytes =>
      (conversions.partitioning.merge (node.partitioning.getD conversions.partitioning.empty) bytes).map
        fun partitioning => { node with partitioning := some partitioning }
  | 3 => field.value.toUInt64.map fun stageId => { node with stageId }
  | _ => some node

def decode (buf : Bytes) : Option (DfRayStageReaderExecNode μ π) := decodeMessage {} (mergeField conversions) buf

end DfRayStageReaderExecNode

structure MaxRowsExecNode where
  maxRows : UInt64 := 0
  deriving DecidableEq, Repr

namespace MaxRowsExecNode

def fields (node : MaxRowsExecNode) : List Field := uint64Field 1 node.maxRows

def mergeField (node : MaxRowsExecNode) (field : Field) : Option MaxRowsExecNode :=
  match field.number with
  | 1 => field.value.toUInt64.map fun maxRows => { node with maxRows }
  | _ => some node

def decode (buf : Bytes) : Option MaxRowsExecNode := decodeMessage {} mergeField buf

end MaxRowsExecNode

structure PrefetchExecNode where
  dummy : UInt32 := 0
  bufSize : UInt64 := 0
  deriving DecidableEq, Repr

namespace PrefetchExecNode

def fields (node : PrefetchExecNode) : List Field := uint32Field 1 node.dummy ++ uint64Field 2 node.bufSize

def mergeField (node : PrefetchExecNode) (field : Field) : Option PrefetchExecNode :=
  match field.number with
  | 1 => field.value.toUInt32.map fun dummy => { node with dummy }
  | 2 => field.value.toUInt64.map fun bufSize => { node with bufSize }
  | _ => some node

def decode (buf : Bytes) : Option PrefetchExecNode := decodeMessage {} mergeField buf

end PrefetchExecNode

namespace RayCodec
variable {σ μ π : Type} (conversions : ProtoConversions σ μ π)

/-- The reader that a message stands for. -/
def readStageReader (node : DfRayStageReaderExecNode μ π) : Except DataFusionError (DFRayStageReaderExec σ) := do
  let message ← node.schema.elim (.error (.internal "missing schema in proto")) .ok
  let schema ← conversions.schemaFromProto message
  let parsed ← conversions.parseProtobufPartitioning node.partitioning schema
  let partitioning ← parsed.elim (.error (.internal "missing partitioning in proto")) .ok
  .ok (.tryNew partitioning schema node.stageId)

/-- An error of one decoder only leads to the next, so it is not told apart from another. -/
def tryDecode (buf : Bytes) (inputs : List (ExecutionPlan σ)) : Except Failure (ExecutionPlan σ) :=
  match PartitionIsolatorExecNode.decode buf with
  | some node =>
    match inputs with
    | [input] => .ok (.partitionIsolator input node.partitionCount)
    | _ => .error (.error (.internal "PartitionIsolatorExec requires one input"))
  | none =>
    match DfRayStageReaderExecNode.decode conversions buf with
    | some node =>
      match readStageReader conversions node with
      | .ok reader => .ok (.stageReader reader)
      | .error error => .error (.error error)
    | none =>
      match MaxRowsExecNode.decode buf with
      | some node =>
        match inputs with
        | [input] => .ok (.maxRows input node.maxRows)
        | _ => .error (.error (.internal s!"MaxRowsExec requires one input, got {inputs.length}"))
      | none =>
        match PrefetchExecNode.decode buf with
        | some node =>
          match inputs with
          | [input] => input.prefetchNew node.bufSize
          -- The message is that of the node before.
          | _ => .error (.error (.internal s!"MaxRowsExec requires one input, got {inputs.length}"))
        | none => .error (.error (.internal "Should not reach this point"))

/-- A vector has room for every message, so writing one does not fail. -/
def tryEncode (node : ExecutionPlan σ) (buf : Bytes) : Except DataFusionError Bytes :=
  match node with
  | .stageReader reader => do
    let schema ← conversions.schemaToProto reader.schema
    let partitioning ← conversions.serializePartitioning reader.outputPartitioning
    let message : DfRayStageReaderExecNode μ π := ⟨some schema, some partitioning, reader.stageId⟩
    .ok (buf ++ encodeFields (message.fields conversions))
  | .partitionIsolator _ partitionCount =>
    .ok (buf ++ encodeFields (PartitionIsolatorExecNode.fields ⟨0, partitionCount⟩))
  | .maxRows _ maxRows => .ok (buf ++ encodeFields (MaxRowsExecNode.fields ⟨maxRows⟩))
  | .prefetch _ bufSize => .ok (buf ++ encodeFields (PrefetchExecNode.fields ⟨0, bufSize⟩))
  | .other _ => .error (.internal "Not supported")

end RayCodec

end DatafusionRay.Batch
