import DatafusionRay.Batch.MaxRows
import DatafusionRay.Foundation.Polling
import DatafusionRay.Proofs.CodecRoundTrip

/-! Limiting the rows of a batch. Every turn of the slicing loop moves on by the
limit, so nothing is lost and the stream ends, unless the limit is zero: then the
first row of the input is in front of the stream forever. -/

namespace DatafusionRay.Proofs.RowLimit
open Foundation Foundation.WireFormat Batch
open Streaming (DataFusionError RecordBatch)

variable {ρ : Type}

/-- The rows of a stream with its errors between them. -/
def contents (results : List (BatchResult ρ)) : List (ρ ⊕ DataFusionError) :=
  results.flatMap fun result =>
    match result with
    | .ok batch => batch.rows.map .inl
    | .error error => [.inr error]

/-- The stream ends, has no batch over the limit, and its rows and errors are those of the input. -/
def LimitsRows (maxRows : UInt64) (input : List (BatchResult ρ)) : Prop :=
  ∃ stream output, executeMaxRows maxRows (.ok input) = .ok stream ∧ Yields MaxRowsStream.pollNext stream output ∧
    (∀ batch, .ok batch ∈ output → batch.numRows ≤ maxRows.toNat) ∧ contents output = contents input

@[simp] theorem contents_ok (batch : RecordBatch ρ) (rest : List (BatchResult ρ)) :
    contents (.ok batch :: rest) = batch.rows.map .inl ++ contents rest := rfl

@[simp] theorem contents_error (error : DataFusionError) (rest : List (BatchResult ρ)) :
    contents (.error error :: rest) = .inr error :: contents rest := rfl

/-- What a stream still has to yield under a limit. -/
structure Limited (maxRows : Nat) (stream : MaxRowsStream ρ) (pending : List (ρ ⊕ DataFusionError))
    (output : List (BatchResult ρ)) : Prop where
  yields : Yields MaxRowsStream.pollNext stream output
  small : ∀ batch, .ok batch ∈ output → batch.numRows ≤ maxRows
  same : contents output = pending

section Yields
variable {maxRows : Nat} {inStream : List (BatchResult ρ)} {output : List (BatchResult ρ)}
  {pending : List (ρ ⊕ DataFusionError)}

private theorem numRows_slice_le (batch : RecordBatch ρ) (offset length : Nat) :
    (slice batch offset length).numRows ≤ length := by
  simp [slice, RecordBatch.numRows]

private theorem Limited.cons_ok {before after : MaxRowsStream ρ} {batch : RecordBatch ρ}
    (answered : before.pollNext = (some (.ok batch), after)) (within : batch.numRows ≤ maxRows)
    (later : Limited maxRows after pending output) :
    Limited maxRows before (batch.rows.map .inl ++ pending) (.ok batch :: output) where
  yields := .next answered later.yields
  small := by
    intro other member
    rcases List.mem_cons.mp member with same | rest
    · cases same
      exact within
    · exact later.small other rest
  same := by rw [contents_ok, later.same]

private theorem Limited.cons_error {before after : MaxRowsStream ρ} {error : DataFusionError}
    (answered : before.pollNext = (some (.error error), after)) (later : Limited maxRows after pending output) :
    Limited maxRows before (.inr error :: pending) (.error error :: output) where
  yields := .next answered later.yields
  small := by
    intro batch member
    exact later.small batch ((List.mem_cons.mp member).resolve_left (by intro same; cases same))
  same := by rw [contents_error, later.same]

private theorem pollNext_larger {slicing : Slicing ρ} (larger : maxRows < slicing.rowsRemaining) :
    ∃ later : Slicing ρ, later.batch = slicing.batch ∧ later.offset = slicing.offset + maxRows ∧
      later.rowsRemaining = slicing.rowsRemaining - maxRows ∧
      (⟨inStream, maxRows, some slicing⟩ : MaxRowsStream ρ).pollNext =
        (some (.ok (slice slicing.batch slicing.offset maxRows)), ⟨inStream, maxRows, some later⟩) := by
  refine ⟨⟨slicing.batch, slicing.offset + maxRows, slicing.rowsRemaining - maxRows, ?_⟩, rfl, rfl, rfl, ?_⟩
  · rw [Nat.add_assoc, Nat.add_sub_cancel' (Nat.le_of_lt larger), slicing.inStep]
  · simp only [MaxRowsStream.pollNext, MaxRowsStream.slices, Slicing.next, dif_pos larger]

private theorem pollNext_remainder {slicing : Slicing ρ} (within : slicing.rowsRemaining ≤ maxRows) :
    (⟨inStream, maxRows, some slicing⟩ : MaxRowsStream ρ).pollNext =
      (some (.ok (slice slicing.batch slicing.offset slicing.rowsRemaining)), ⟨inStream, maxRows, none⟩) := by
  simp only [MaxRowsStream.pollNext, MaxRowsStream.slices, Slicing.next, dif_neg (Nat.not_lt_of_le within)]

private theorem slice_remainder (slicing : Slicing ρ) :
    (slice slicing.batch slicing.offset slicing.rowsRemaining).rows = slicing.batch.rows.drop slicing.offset := by
  have inStep := slicing.inStep
  apply List.take_of_length_le
  rw [RecordBatch.numRows] at inStep
  rw [List.length_drop]
  omega

private theorem slice_append (batch : RecordBatch ρ) (offset length : Nat) :
    (slice batch offset length).rows ++ batch.rows.drop (offset + length) = batch.rows.drop offset := by
  rw [← List.drop_drop]
  exact List.take_append_drop _ _

/-- The slices of a batch follow one another up to its end. -/
private theorem limited_slices (positive : 0 < maxRows) (slicing : Slicing ρ)
    (later : Limited maxRows ⟨inStream, maxRows, none⟩ pending output) :
    ∃ slices, Limited maxRows ⟨inStream, maxRows, some slicing⟩
      ((slicing.batch.rows.drop slicing.offset).map .inl ++ pending) slices := by
  induction count : slicing.rowsRemaining using Nat.strongRecOn generalizing slicing with
  | ind count ih =>
    rcases Nat.lt_or_ge maxRows slicing.rowsRemaining with larger | within
    · obtain ⟨next, batch, offset, remaining, answered⟩ := pollNext_larger larger
      obtain ⟨slices, limited⟩ := ih next.rowsRemaining (by omega) next rfl
      rw [batch, offset] at limited
      have here := limited.cons_ok answered (numRows_slice_le _ _ _)
      rw [← List.append_assoc, ← List.map_append, slice_append] at here
      exact ⟨_, here⟩
    · have small := Nat.le_trans (numRows_slice_le slicing.batch slicing.offset slicing.rowsRemaining) within
      have here := later.cons_ok (pollNext_remainder within) small
      rw [slice_remainder] at here
      exact ⟨_, here⟩

private theorem limited_input
    (allowed : 0 < maxRows ∨ ∀ batch, .ok batch ∈ inStream → batch.numRows = 0) :
    ∃ output, Limited maxRows ⟨inStream, maxRows, none⟩ (contents inStream) output := by
  induction inStream with
  | nil =>
    refine ⟨[], .done rfl, ?_, rfl⟩
    intro batch member
    cases member
  | cons result rest ih =>
    obtain ⟨output, later⟩ := ih (allowed.imp_right fun empty batch member =>
      empty batch (List.mem_cons_of_mem _ member))
    cases result with
    | error error => exact ⟨_, later.cons_error rfl⟩
    | ok batch =>
      rcases Nat.lt_or_ge maxRows batch.numRows with larger | within
      · have positive : 0 < maxRows := by
          apply allowed.resolve_right
          intro empty
          have none := empty batch List.mem_cons_self
          omega
        obtain ⟨slices, limited⟩ := limited_slices positive (.start batch) later
        have same : (⟨.ok batch :: rest, maxRows, none⟩ : MaxRowsStream ρ).pollNext =
            (⟨rest, maxRows, some (.start batch)⟩ : MaxRowsStream ρ).pollNext := if_pos larger
        exact ⟨slices, limited.yields.congr same, limited.small, limited.same⟩
      · have answered : (⟨.ok batch :: rest, maxRows, none⟩ : MaxRowsStream ρ).pollNext =
            (some (.ok batch), ⟨rest, maxRows, none⟩) := if_neg (Nat.not_lt_of_le within)
        exact ⟨_, later.cons_ok answered within⟩

end Yields

/-- A limit of zero, and a row to come. -/
def Stuck (stream : MaxRowsStream ρ) : Prop :=
  stream.maxRows = 0 ∧
    ((∃ slicing, stream.slicing = some slicing ∧ 0 < slicing.rowsRemaining) ∨
      (stream.slicing = none ∧ ∃ batch, .ok batch ∈ stream.inStream ∧ 0 < batch.numRows))

private theorem Stuck.slicing {inStream : List (BatchResult ρ)} {slicing : Slicing ρ} (rows : 0 < slicing.rowsRemaining) :
    ∃ item after, (⟨inStream, 0, some slicing⟩ : MaxRowsStream ρ).pollNext = (some item, after) ∧ Stuck after := by
  obtain ⟨later, -, -, remaining, answered⟩ := pollNext_larger rows
  exact ⟨_, _, answered, rfl, .inl ⟨later, rfl, by rw [remaining]; exact rows⟩⟩

theorem Stuck.endless (stream : MaxRowsStream ρ) (stuck : Stuck stream) :
    ∃ item after, stream.pollNext = (some item, after) ∧ Stuck after := by
  obtain ⟨inStream, maxRows, slicing⟩ := stream
  obtain ⟨zero, current | waiting⟩ := stuck
  · obtain ⟨current, rfl, rows⟩ := current
    cases zero
    exact Stuck.slicing rows
  · obtain ⟨idle, batch, member, rows⟩ := waiting
    cases zero
    cases idle
    cases inStream with
    | nil => cases member
    | cons result rest =>
      have later (behind : .ok batch ∈ rest) : Stuck (⟨rest, 0, none⟩ : MaxRowsStream ρ) :=
        ⟨rfl, .inr ⟨rfl, batch, behind, rows⟩⟩
      cases result with
      | error error =>
        refine ⟨_, _, rfl, later ((List.mem_cons.mp member).resolve_left ?_)⟩
        intro same
        cases same
      | ok first =>
        rcases Nat.eq_zero_or_pos first.numRows with empty | larger
        · have answered : (⟨.ok first :: rest, 0, none⟩ : MaxRowsStream ρ).pollNext = (some (.ok first), ⟨rest, 0, none⟩) :=
            if_neg (by omega)
          refine ⟨_, _, answered, later ((List.mem_cons.mp member).resolve_left ?_)⟩
          intro same
          cases same
          omega
        · have answered : (⟨.ok first :: rest, 0, none⟩ : MaxRowsStream ρ).pollNext =
              (⟨rest, 0, some (.start first)⟩ : MaxRowsStream ρ).pollNext := if_pos larger
          rw [answered]
          exact Stuck.slicing larger

/-- The rows are limited if and only if the limit is not zero or no row ever comes. -/
theorem limits_rows_iff (maxRows : UInt64) (input : List (BatchResult ρ)) :
    LimitsRows maxRows input ↔ maxRows ≠ 0 ∨ ∀ batch, .ok batch ∈ input → batch.numRows = 0 := by
  constructor
  · rintro ⟨stream, output, executed, yields, -⟩
    cases executed
    refine or_iff_not_imp_left.mpr fun zero batch member => ?_
    by_contra rows
    have limit : maxRows.toNat = 0 := by rw [not_not.mp zero]; rfl
    exact yields.false_of_endless Stuck.endless
      ⟨limit, .inr ⟨rfl, batch, member, Nat.pos_of_ne_zero rows⟩⟩
  · intro allowed
    have positive : 0 < maxRows.toNat ∨ ∀ batch, .ok batch ∈ input → batch.numRows = 0 := by
      refine allowed.imp_left fun nonzero => Nat.pos_of_ne_zero fun zero => nonzero ?_
      exact UInt64.toNat_inj.mp zero
    obtain ⟨output, limited⟩ := limited_input positive
    exact ⟨_, output, rfl, limited.yields, limited.small, limited.same⟩

/-- The first field with a zero that no encoder of this plan writes but every decoder reads. -/
private theorem decodeMessage_zero {μ : Type} (empty : μ) (mergeField : μ → Field → Option μ) :
    decodeMessage empty mergeField [0x08, 0x00] = mergeField empty ⟨1, .varint 0⟩ := by
  have key : encodeVarint 8 = [0x08] := by
    rw [encodeVarint, if_pos (by decide)]
    rfl
  have value : encodeVarint 0 = [0x00] := by
    rw [encodeVarint, if_pos (by decide)]
    rfl
  have written : encodeFields [⟨1, .varint 0⟩] = [0x08, 0x00] := by
    change encodeVarint 8 ++ encodeVarint 0 ++ [] = _
    rw [key, value]
    rfl
  have valid : ∀ field ∈ [(⟨1, .varint 0⟩ : Field)], field.Valid := by
    intro field member
    cases List.mem_singleton.mp member
    exact ⟨Nat.le_refl 1, Nat.one_lt_two_pow (by decide), Nat.two_pow_pos 64⟩
  rw [← written, decodeMessage_encodeFields valid, List.foldlM_cons]
  cases mergeField empty ⟨1, .varint 0⟩ <;> rfl

/-- A plan node with a limit of zero can be decoded, and over a single row its stream does not end. -/
theorem decoded_zero_never_ends :
    RayCodec.tryDecode CodecRoundTrip.byteConversions [0x08, 0x00] [.stageReader ⟨2, 5, 1⟩] =
        .ok (.maxRows (.stageReader ⟨2, 5, 1⟩) 0) ∧
      ∀ output, ¬ Yields MaxRowsStream.pollNext (maxRowsStream [.ok ⟨[7]⟩] 0 : MaxRowsStream Nat) output := by
  constructor
  · have isolator : PartitionIsolatorExecNode.decode [0x08, 0x00] = none := decodeMessage_zero _ _
    have reader : DfRayStageReaderExecNode.decode CodecRoundTrip.byteConversions [0x08, 0x00] = none :=
      decodeMessage_zero _ _
    have limit : MaxRowsExecNode.decode [0x08, 0x00] = some ⟨0⟩ := decodeMessage_zero _ _
    rw [RayCodec.tryDecode, isolator, reader, limit]
  · intro output yields
    exact yields.false_of_endless Stuck.endless ⟨rfl, .inr ⟨rfl, ⟨[7]⟩, List.mem_singleton_self _, Nat.zero_lt_one⟩⟩

end DatafusionRay.Proofs.RowLimit
