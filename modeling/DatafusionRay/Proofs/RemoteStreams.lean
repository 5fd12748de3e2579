import DatafusionRay.Foundation.TryFilterMap
import DatafusionRay.Proofs.StreamSections
import DatafusionRay.Streaming.RemoteStream

/-! Asking a worker for a stream. A ticket arrives as it was sent, so the worker answers the
request that was meant; and a client that collects results gets those of the first attempt that
is answered, which only an output without partitions is, unless an error arrives with them. -/

namespace DatafusionRay.Proofs.RemoteStreams
open Streaming Foundation WireFormat StreamSections

variable {ρ : Type}

section Tickets

def FitsRange (range : PartitionRange) : Prop :=
  range.start < 2 ^ 64 ∧ range.stop < 2 ^ 64 ∧ range.partitions < 2 ^ 64

/-- The numbers are machine words, and the text is no longer than a machine can hold. -/
structure Fits (ticket : StreamingFlightTicketData) : Prop where
  streamId : (utf8 ticket.streamId).length < 2 ^ 64
  partitions : ∀ range, ticket.partitions = some range → FitsRange range
  checkpointNumber : ticket.checkpointNumber < 2 ^ 64

theorem toRange_ofRange {range : PartitionRange} (fits : FitsRange range) :
    (PartitionRangeMessage.ofRange range).toRange = range := by
  simp only [PartitionRangeMessage.toRange, PartitionRangeMessage.ofRange, UInt64.toNat_ofNat',
    Nat.mod_eq_of_lt fits.1, Nat.mod_eq_of_lt fits.2.1, Nat.mod_eq_of_lt fits.2.2]

theorem length_rangeFields (message : PartitionRangeMessage) : (encodeFields message.fields).length < 2 ^ 64 := by
  have start : (encodeFields (uint64Field 1 message.start)).length ≤ 20 := length_uint64Field_le (by decide)
  have stop : (encodeFields (uint64Field 2 message.stop)).length ≤ 20 := length_uint64Field_le (by decide)
  have partitions : (encodeFields (uint64Field 3 message.partitions)).length ≤ 20 := length_uint64Field_le (by decide)
  simp only [encodeFields, PartitionRangeMessage.fields, List.flatMap_append, List.length_append] at start stop partitions ⊢
  omega

theorem merge_fields (message : PartitionRangeMessage) :
    PartitionRangeMessage.merge {} (encodeFields message.fields) = some message := by
  obtain ⟨start, stop, partitions⟩ := message
  have valid : ∀ field ∈ PartitionRangeMessage.fields ⟨start, stop, partitions⟩, field.Valid := by
    rw [PartitionRangeMessage.fields, List.forall_mem_append, List.forall_mem_append]
    exact ⟨⟨uint64Field_valid (by decide) (by decide), uint64Field_valid (by decide) (by decide)⟩,
      uint64Field_valid (by decide) (by decide)⟩
  have first : (uint64Field 1 start).foldlM PartitionRangeMessage.mergeField {} = some ⟨start, 0, 0⟩ := by
    apply foldlM_uint64Field (fun _ => rfl)
    rfl
  have second : (uint64Field 2 stop).foldlM PartitionRangeMessage.mergeField ⟨start, 0, 0⟩ = some ⟨start, stop, 0⟩ := by
    apply foldlM_uint64Field (fun _ => rfl)
    rfl
  have third : (uint64Field 3 partitions).foldlM PartitionRangeMessage.mergeField ⟨start, stop, 0⟩ =
      some ⟨start, stop, partitions⟩ := by
    apply foldlM_uint64Field (fun _ => rfl)
    rfl
  rw [PartitionRangeMessage.merge, decodeMessage_encodeFields valid]
  simp only [PartitionRangeMessage.fields, List.foldlM_append, first, second, third, Option.bind_eq_bind, Option.bind_some]

theorem fields_valid {ticket : StreamingFlightTicketData} (fits : Fits ticket) :
    ∀ field ∈ ticket.fields, field.Valid := by
  rw [StreamingFlightTicketData.fields, List.forall_mem_append, List.forall_mem_append]
  refine ⟨⟨stringField_valid (by decide) (by decide) fits.streamId, ?_⟩, uint64Field_valid (by decide) (by decide)⟩
  cases ticket.partitions with
  | none =>
    intro field none
    exact absurd none List.not_mem_nil
  | some range => exact messageField_valid (by decide) (by decide) (length_rangeFields _)

theorem decode_encodeToVec {ticket : StreamingFlightTicketData} (fits : Fits ticket) :
    StreamingFlightTicketData.decode ticket.encodeToVec = some ticket := by
  obtain ⟨partitions, streamId, checkpointNumber⟩ := ticket
  have named : (stringField 1 streamId).foldlM StreamingFlightTicketData.mergeField ⟨none, "", 0⟩ =
      some ⟨none, streamId, 0⟩ := foldlM_stringField (StreamingFlightTicketData.mk none · 0) (fun _ => rfl) rfl
  have ranged : (partitions.elim [] fun range =>
      messageField 2 (encodeFields (PartitionRangeMessage.ofRange range).fields)).foldlM
        StreamingFlightTicketData.mergeField ⟨none, streamId, 0⟩ = some ⟨partitions, streamId, 0⟩ := by
    cases partitions with
    | none => rfl
    | some range =>
      have message := merge_fields (.ofRange range)
      simp [messageField, StreamingFlightTicketData.mergeField, WireValue.toMessage, message,
        toRange_ofRange (fits.partitions range rfl)]
  have numbered : ∀ value : UInt64, (uint64Field 3 value).foldlM StreamingFlightTicketData.mergeField
      ⟨partitions, streamId, 0⟩ = some ⟨partitions, streamId, value.toNat⟩ := by
    intro value
    apply foldlM_uint64Field (fun _ => rfl)
    rfl
  rw [StreamingFlightTicketData.decode, StreamingFlightTicketData.encodeToVec, decodeMessage_encodeFields (fields_valid fits)]
  simp only [StreamingFlightTicketData.fields, List.foldlM_append, named, ranged, numbered, Option.bind_eq_bind,
    Option.bind_some, UInt64.toNat_ofNat', Nat.mod_eq_of_lt fits.checkpointNumber]

/-- A ticket comes out of its bytes as it went in, so a worker that is sent one does what the
ticket asks for. -/
theorem ticket_round_trip {ticket : StreamingFlightTicketData} (fits : Fits ticket) :
    StreamingFlightTicketData.decode ticket.encodeToVec = some ticket ∧
      ∀ (store : ExchangeChannelStore ρ) (decodeError : Bytes → String),
        DataExchangeFlightService.getStream store decodeError ticket.encodeToVec = getStream store ticket := by
  refine ⟨decode_encodeToVec fits, fun store decodeError => ?_⟩
  rw [DataExchangeFlightService.getStream, decode_encodeToVec fits]

/-- A request of the first source of a task, with a name that is not plain ASCII. -/
theorem range_ticket_round_trip :
    StreamingFlightTicketData.decode (StreamingFlightTicketData.encodeToVec ⟨some ⟨0, 17, 34⟩, "zähler", 0⟩) =
      some ⟨some ⟨0, 17, 34⟩, "zähler", 0⟩ := by
  have fits : Fits ⟨some ⟨0, 17, 34⟩, "zähler", 0⟩ := by
    refine ⟨by decide, fun range same => ?_, by decide⟩
    cases same
    exact ⟨by decide, by decide, by decide⟩
  exact (@ticket_round_trip Nat _ fits).1

end Tickets

section Collecting

/-- The first success within the retries is returned. -/
theorem retryFuture_eq_ok {ε α : Type} {attempt : Nat → Except ε α} {retries made : Nat} {result : α} :
    retryFuture attempt retries made = .ok result ↔
      ∃ later ≤ retries, attempt (made + later) = .ok result ∧
        ∀ earlier < later, ∃ error, attempt (made + earlier) = .error error := by
  induction retries generalizing made with
  | zero =>
    rw [retryFuture]
    constructor
    · intro first
      exact ⟨0, Nat.le_refl 0, first, fun _ none => absurd none (Nat.not_lt_zero _)⟩
    · rintro ⟨later, bound, passed, -⟩
      rwa [Nat.le_zero.mp bound] at passed
  | succ retries ih =>
    rw [retryFuture]
    cases first : attempt made with
    | ok value =>
      constructor
      · intro same
        exact ⟨0, Nat.zero_le _, first.trans same, fun _ none => absurd none (Nat.not_lt_zero _)⟩
      · rintro ⟨later, -, passed, failed⟩
        cases later with
        | zero => exact first.symm.trans passed
        | succ later =>
          obtain ⟨error, wrong⟩ := failed 0 (Nat.succ_pos later)
          cases first.symm.trans wrong
    | error error =>
      simp only [ih]
      constructor
      · rintro ⟨later, bound, passed, failed⟩
        refine ⟨later + 1, Nat.succ_le_succ bound, by rwa [← Nat.add_assoc, Nat.add_right_comm], fun earlier before => ?_⟩
        cases earlier with
        | zero => exact ⟨error, first⟩
        | succ earlier =>
          rw [← Nat.add_assoc, Nat.add_right_comm]
          exact failed earlier (Nat.lt_of_succ_lt_succ before)
      · rintro ⟨later, bound, passed, failed⟩
        cases later with
        | zero => cases first.symm.trans passed
        | succ later =>
          refine ⟨later, Nat.le_of_succ_le_succ bound, by rwa [Nat.add_right_comm, Nat.add_assoc], fun earlier before => ?_⟩
          rw [Nat.add_right_comm, Nat.add_assoc]
          exact failed (earlier + 1) (Nat.succ_lt_succ before)

/-- The worker can be reached and has published the stream without partitions, on that channel. -/
def Serves (peers : Peers ρ) (address streamId : String) (channel : Nat) : Prop :=
  ∃ store, peers.getClient address = .ok store ∧ store.lookup streamId = some ⟨channel, none⟩

/-- The first attempt that is answered, out of six, and the channel that it opens. -/
structure FirstServed (peers : Nat → Peers ρ) (address streamId : String) (attempt channel : Nat) : Prop where
  bound : attempt ≤ 5
  serves : Serves (peers attempt) address streamId channel
  refused : ∀ earlier < attempt, ∀ channel, ¬ Serves (peers earlier) address streamId channel

theorem stream_empty_eq_ok {store : ExchangeChannelStore ρ} {streamId : String}
    {opened : Nat × Option (ChannelPartitioningDetails ρ)} :
    store.stream streamId .empty = .ok opened ↔
      ∃ channel, store.lookup streamId = some ⟨channel, none⟩ ∧ opened = (channel, none) := by
  rw [ExchangeChannelStore.stream]
  cases found : store.lookup streamId with
  | none => simp
  | some output =>
    obtain ⟨channel, details⟩ := output
    cases details with
    | none => simp [PartitionRange.isEmpty, PartitionRange.empty, eq_comm]
    | some details =>
      have apart : (details.partitions.intersection .empty).isEmpty = true := by
        rw [PartitionRange.intersection_isEmpty]
        simp [PartitionRange.empty]
      simp [apart]

theorem createRemoteStream_empty_eq_ok {peers : Peers ρ} {address streamId : String} {stream : List (SResult ρ)} :
    createRemoteStream peers streamId address .empty = .ok stream ↔
      ∃ channel, Serves peers address streamId channel ∧ stream = peers.received address channel none := by
  rw [createRemoteStream, bind_eq_ok]
  constructor
  · rintro ⟨store, reached, asked⟩
    cases answer : store.stream streamId .empty with
    | error error =>
      simp only [getStream, Option.getD_some, answer, Except.mapError] at asked
      cases asked
    | ok opened =>
      obtain ⟨channel, found, rfl⟩ := stream_empty_eq_ok.mp answer
      simp only [getStream, Option.getD_some, answer, Except.mapError] at asked
      cases asked
      exact ⟨channel, ⟨store, reached, found⟩, rfl⟩
  · rintro ⟨channel, ⟨store, reached, found⟩, rfl⟩
    have answer := stream_empty_eq_ok.mpr ⟨channel, found, rfl⟩
    refine ⟨store, reached, ?_⟩
    simp only [getStream, Option.getD_some, answer, Except.mapError]
    rfl

/-- `try_collect` gives back the items if none is an error. -/
theorem mapM_id_eq_ok {ε α : Type} {items : List (Except ε α)} {result : List α} :
    items.mapM id = .ok result ↔ items = result.map .ok := by
  constructor
  · intro collected
    have each := mapM_ok collected
    rw [← List.forall₂_eq_eq_eq, List.forall₂_map_right_iff]
    exact each
  · rintro rfl
    rw [List.mapM_map]
    have all := mapM_eq_ok (f := id ∘ (.ok : α → Except ε α)) id fun _ (_ : _ ∈ result) => rfl
    rwa [List.map_id] at all

/-- The batches of a stream that has arrived whole hold the rows that were sent. -/
theorem onlyBatches_carried {arrived : List (SResult ρ)} {sent : List (StreamItem ρ)} (carries : Carries arrived sent) :
    ∃ batches : List (RecordBatch ρ), onlyBatches arrived = batches.map .ok ∧
      batches.flatMap RecordBatch.rows = sent.flatMap StreamItem.rows := by
  have rows := carries.rows
  obtain ⟨items, rfl, -⟩ := carries
  rw [arrivedRows_items] at rows
  rw [← rows]
  clear rows
  induction items with
  | nil => exact ⟨[], rfl, rfl⟩
  | cons item rest ih =>
    obtain ⟨batches, kept, same⟩ := ih
    cases item with
    | marker cut => exact ⟨batches, kept, same⟩
    | recordBatch batch => exact ⟨batch :: batches, congrArg _ kept, congrArg (batch.rows ++ ·) same⟩

theorem refused_iff {peers : Peers ρ} {address streamId : String} :
    (∃ error, createRemoteStream peers streamId address .empty = .error error) ↔
      ∀ channel, ¬ Serves peers address streamId channel := by
  constructor
  · rintro ⟨error, failed⟩ channel serves
    cases failed.symm.trans (createRemoteStream_empty_eq_ok.mpr ⟨channel, serves, rfl⟩)
  · intro unserved
    cases asked : createRemoteStream peers streamId address .empty with
    | error error => exact ⟨error, rfl⟩
    | ok stream =>
      obtain ⟨channel, serves, -⟩ := createRemoteStream_empty_eq_ok.mp asked
      exact absurd serves (unserved channel)

theorem collectInner_eq_ok {peers : Nat → Peers ρ} {address streamId : String} {result : List (RecordBatch ρ)} :
    collectInner peers address streamId = .ok result ↔ ∃ attempt channel, FirstServed peers address streamId attempt channel ∧
      onlyBatches ((peers attempt).received address channel none) = result.map .ok := by
  have parts : collectInner peers address streamId = .ok result ↔ ∃ raw,
      retryFuture (fun attempt => createRemoteStream (peers attempt) streamId address .empty) 5 0 = .ok raw ∧
        (onlyBatches raw).mapM id = .ok result := by
    rw [collectInner, streamResults]
    cases retryFuture (fun attempt => createRemoteStream (peers attempt) streamId address .empty) 5 0 with
    | error error => simp [Except.map, bind, Except.bind]
    | ok raw => simp [Except.map, bind, Except.bind]
  simp only [parts, retryFuture_eq_ok, Nat.zero_add, refused_iff, createRemoteStream_empty_eq_ok, mapM_id_eq_ok]
  constructor
  · rintro ⟨raw, ⟨attempt, bound, ⟨channel, serves, rfl⟩, refused⟩, collected⟩
    exact ⟨attempt, channel, ⟨bound, serves, refused⟩, collected⟩
  · rintro ⟨attempt, channel, first, collected⟩
    exact ⟨_, ⟨attempt, first.bound, ⟨channel, first.serves, rfl⟩, first.refused⟩, collected⟩

/-- Results are collected from the first of six attempts at which the worker serves the stream
without partitions. They are the batches that arrive then, and there are none if an error is
among them; a stream that arrives whole gives the rows that were sent. -/
theorem collect_ok_iff (peers : Nat → Peers ρ) (address streamId : String) :
    (∀ result, collectInner peers address streamId = .ok result ↔
      ∃ attempt channel, FirstServed peers address streamId attempt channel ∧
        onlyBatches ((peers attempt).received address channel none) = result.map .ok) ∧
    ∀ attempt channel sent, FirstServed peers address streamId attempt channel →
      Carries ((peers attempt).received address channel none) sent →
        ∃ result, collectInner peers address streamId = .ok result ∧
          result.flatMap RecordBatch.rows = sent.flatMap StreamItem.rows := by
  refine ⟨fun result => collectInner_eq_ok, fun attempt channel sent first carries => ?_⟩
  obtain ⟨result, collected, rows⟩ := onlyBatches_carried carries
  exact ⟨result, collectInner_eq_ok.mpr ⟨attempt, channel, first, collected⟩, rows⟩

end Collecting

end DatafusionRay.Proofs.RemoteStreams
