import DatafusionRay.Batch.Codec

/-! Which extension nodes come back from the codec. The messages are told apart by
the wire type of their first field, and a field with the default value is not
written. -/

namespace DatafusionRay.Proofs.CodecRoundTrip
open Batch RayCodec Foundation.WireFormat
open Streaming (DataFusionError Failure)

variable {σ μ π : Type}

/-- Reading the bytes of a message gives it back. -/
structure LawfulMessage (type : MessageType μ) : Prop where
  restored : ∀ message, type.merge type.empty (type.encode message) = some message
  bounded : ∀ message, (type.encode message).length < 2 ^ 64

/-- Schemas and unknown partitionings survive their way through messages. -/
structure Lawful (conversions : ProtoConversions σ μ π) : Prop where
  schemaMessage : LawfulMessage conversions.schema
  partitioningMessage : LawfulMessage conversions.partitioning
  schema : ∀ {schema message}, conversions.schemaToProto schema = .ok message →
    conversions.schemaFromProto message = .ok schema
  partitioning : ∀ {partitions message}, conversions.serializePartitioning (.unknownPartitioning partitions) = .ok message →
    ∀ schema, conversions.parseProtobufPartitioning (some message) schema = .ok (some (.unknownPartitioning partitions))

/-- The first field of the node's message is written, with a wire type that no
decoder before its own accepts. -/
def Distinguishable : ExecutionPlan σ → Prop
  | .prefetch _ _ => False
  | .maxRows _ maxRows => maxRows ≠ 0
  | _ => True

section Decode
variable {value : UInt64} {conversions : ProtoConversions σ μ π}

/-- A number in the second field makes a partition isolator of any message that has nothing before it. -/
theorem isolator_decode : PartitionIsolatorExecNode.decode (encodeFields (uint64Field 2 value)) = some ⟨0, value⟩ := by
  rw [PartitionIsolatorExecNode.decode, decodeMessage_encodeFields (uint64Field_valid (by decide) (by decide))]
  exact foldlM_uint64Field (fun _ => rfl) rfl

theorem isolator_rejects_maxRows (nonzero : value ≠ 0) :
    PartitionIsolatorExecNode.decode (encodeFields (uint64Field 1 value)) = none := by
  rw [PartitionIsolatorExecNode.decode, decodeMessage_encodeFields (uint64Field_valid (by decide) (by decide)), uint64Field,
    if_neg nonzero]
  rfl

theorem reader_rejects_maxRows (nonzero : value ≠ 0) :
    DfRayStageReaderExecNode.decode conversions (encodeFields (uint64Field 1 value)) = none := by
  rw [DfRayStageReaderExecNode.decode, decodeMessage_encodeFields (uint64Field_valid (by decide) (by decide)), uint64Field,
    if_neg nonzero]
  rfl

theorem maxRows_decode : MaxRowsExecNode.decode (encodeFields (uint64Field 1 value)) = some ⟨value⟩ := by
  rw [MaxRowsExecNode.decode, decodeMessage_encodeFields (uint64Field_valid (by decide) (by decide))]
  exact foldlM_uint64Field (fun _ => rfl) rfl

variable {schema : μ} {partitioning : π}

private theorem reader_fields_valid (lawful : Lawful conversions) :
    ∀ field ∈ DfRayStageReaderExecNode.fields conversions ⟨some schema, some partitioning, value⟩, field.Valid := by
  rw [DfRayStageReaderExecNode.fields, List.forall_mem_append, List.forall_mem_append]
  exact ⟨⟨messageField_valid (by decide) (by decide) (lawful.schemaMessage.bounded _),
    messageField_valid (by decide) (by decide) (lawful.partitioningMessage.bounded _)⟩,
    uint64Field_valid (by decide) (by decide)⟩

theorem isolator_rejects_reader (lawful : Lawful conversions) :
    PartitionIsolatorExecNode.decode
      (encodeFields (DfRayStageReaderExecNode.fields conversions ⟨some schema, some partitioning, value⟩)) = none := by
  rw [PartitionIsolatorExecNode.decode, decodeMessage_encodeFields (reader_fields_valid lawful)]
  rfl

theorem reader_decode (lawful : Lawful conversions) :
    DfRayStageReaderExecNode.decode conversions
      (encodeFields (DfRayStageReaderExecNode.fields conversions ⟨some schema, some partitioning, value⟩)) =
        some ⟨some schema, some partitioning, value⟩ := by
  have merged : ([⟨1, .delimited (conversions.schema.encode schema)⟩,
      ⟨2, .delimited (conversions.partitioning.encode partitioning)⟩] : List Field).foldlM
        (DfRayStageReaderExecNode.mergeField conversions) {} = some ⟨some schema, some partitioning, 0⟩ := by
    simp [DfRayStageReaderExecNode.mergeField, WireValue.toMessage, lawful.schemaMessage.restored,
      lawful.partitioningMessage.restored]
  rw [DfRayStageReaderExecNode.decode, decodeMessage_encodeFields (reader_fields_valid lawful),
    DfRayStageReaderExecNode.fields, List.foldlM_append]
  exact (Option.bind_congr' merged fun _ _ => rfl).trans (foldlM_uint64Field (fun _ => rfl) rfl)

end Decode

section RoundTrip
variable (conversions : ProtoConversions σ μ π) (input : ExecutionPlan σ) {value : UInt64}

theorem maxRows_round_trip (nonzero : value ≠ 0) :
    tryDecode conversions (encodeFields (MaxRowsExecNode.fields ⟨value⟩)) [input] = .ok (.maxRows input value) := by
  rw [tryDecode, MaxRowsExecNode.fields, isolator_rejects_maxRows nonzero, reader_rejects_maxRows nonzero, maxRows_decode]

/-- Whatever was written, bytes that read as a partition isolator become one. -/
theorem read_as_isolator (value : UInt64) :
    tryDecode conversions (encodeFields (uint64Field 2 value)) [input] = .ok (.partitionIsolator input value) := by
  rw [tryDecode, isolator_decode]

theorem reader_round_trip (lawful : Lawful conversions) {reader : DFRayStageReaderExec σ} {bytes : Bytes}
    (encoded : tryEncode conversions (.stageReader reader) [] = .ok bytes) :
    tryDecode conversions bytes [] = .ok (.stageReader reader) := by
  cases converted : conversions.schemaToProto reader.schema with
  | error error =>
    rw [tryEncode, converted] at encoded
    cases encoded
  | ok schema =>
    cases serialized : conversions.serializePartitioning reader.outputPartitioning with
    | error error =>
      rw [tryEncode, converted, serialized] at encoded
      cases encoded
    | ok partitioning =>
      rw [tryEncode, converted, serialized] at encoded
      cases encoded
      have read : readStageReader conversions ⟨some schema, some partitioning, reader.stageId⟩ = .ok reader := by
        rw [readStageReader, Option.elim_some]
        simp only [Except.bind, bind, lawful.schema converted, lawful.partitioning serialized, Option.elim_some]
        rfl
      rw [List.nil_append, tryDecode, isolator_rejects_reader lawful, reader_decode lawful]
      dsimp only
      rw [read]

end RoundTrip

/-- A node that was encoded comes back exactly if it is no prefetch node, and no
limit of zero rows: these have nothing that tells them from a partition isolator. -/
theorem round_trip_iff (conversions : ProtoConversions σ μ π) (lawful : Lawful conversions) (node : ExecutionPlan σ)
    {bytes : Bytes} (encoded : tryEncode conversions node [] = .ok bytes) :
    tryDecode conversions bytes node.children = .ok node ↔ Distinguishable node := by
  cases node with
  | stageReader reader => exact iff_of_true (reader_round_trip conversions lawful encoded) trivial
  | partitionIsolator input value =>
    cases encoded
    exact iff_of_true (read_as_isolator conversions input value) trivial
  | maxRows input value =>
    cases encoded
    by_cases zero : value = 0
    · subst zero
      refine iff_of_false (fun same => ?_) (fun nonzero => nonzero rfl)
      cases (read_as_isolator conversions input 0).symm.trans same
    · exact iff_of_true (maxRows_round_trip conversions input zero) zero
  | prefetch input value =>
    cases encoded
    refine iff_of_false (fun same => ?_) id
    cases (read_as_isolator conversions input value).symm.trans same
  | other children => cases encoded

/-- A message of a single byte. -/
def byteMessage : MessageType UInt8 where
  empty := 0
  encode byte := [byte]
  merge
    | _, [byte] => some byte
    | _, _ => none

/-- Schemas and partition counts of a single byte. -/
def byteConversions : ProtoConversions UInt8 UInt8 UInt8 where
  schema := byteMessage
  partitioning := byteMessage
  schemaToProto := .ok
  schemaFromProto := .ok
  serializePartitioning partitioning :=
    if partitioning.partitionCount < 256 then .ok partitioning.partitionCount.toUInt8
    else .error (.internal "partition count does not fit")
  parseProtobufPartitioning message _ := .ok (message.map fun byte => .unknownPartitioning byte.toUInt64)

theorem byteMessage_lawful : LawfulMessage byteMessage := ⟨fun _ => rfl, fun _ => Nat.one_lt_two_pow (by decide)⟩

theorem byteConversions_lawful : Lawful byteConversions where
  schemaMessage := byteMessage_lawful
  partitioningMessage := byteMessage_lawful
  schema same := by
    cases same
    rfl
  partitioning {partitions message} same schema := by
    by_cases small : partitions < 256
    · cases (if_pos small).symm.trans same
      have bound : partitions.toNat < 256 := UInt64.lt_iff_toNat_lt.mp small
      have restored : partitions.toUInt8.toUInt64 = partitions := by
        rw [← UInt64.toNat_inj, UInt8.toNat_toUInt64, UInt64.toNat_toUInt8, Nat.mod_eq_of_lt bound]
      exact congrArg (fun count => Except.ok (some (Partitioning.unknownPartitioning count))) restored
    · cases (if_neg small).symm.trans same

theorem limited_reader_round_trip :
    tryDecode byteConversions (encodeFields (MaxRowsExecNode.fields ⟨10⟩)) [.stageReader ⟨2, 5, 1⟩] =
      .ok (.maxRows (.stageReader ⟨2, 5, 1⟩) 10) :=
  (round_trip_iff byteConversions byteConversions_lawful (.maxRows (.stageReader ⟨2, 5, 1⟩) 10) rfl).mpr
    (show (10 : UInt64) ≠ 0 by decide)

/-- A prefetch node comes back as a partition isolator. -/
theorem prefetch_becomes_isolator :
    tryEncode byteConversions (.prefetch (.maxRows (.stageReader ⟨2, 5, 1⟩) 10) 4) [] =
        .ok (encodeFields (PrefetchExecNode.fields ⟨0, 4⟩)) ∧
      tryDecode byteConversions (encodeFields (PrefetchExecNode.fields ⟨0, 4⟩)) [.maxRows (.stageReader ⟨2, 5, 1⟩) 10] =
        .ok (.partitionIsolator (.maxRows (.stageReader ⟨2, 5, 1⟩) 10) 4) :=
  ⟨rfl, read_as_isolator byteConversions _ 4⟩

end DatafusionRay.Proofs.CodecRoundTrip
