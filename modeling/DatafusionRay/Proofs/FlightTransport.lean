import DatafusionRay.Foundation.BigEndian
import DatafusionRay.Foundation.Polling
import DatafusionRay.Proofs.FlightHydration
import DatafusionRay.Proofs.StreamSections

/-! Stream items that are sent through Arrow Flight. Markers keep their places, and
a batch arrives in parts with all of its rows, if it survives the cast to the schema
that is sent in front of it. -/

namespace DatafusionRay.Proofs.FlightTransport
open Streaming Foundation FlightDataEncoder StreamSections

variable {κ ν β : Type} {crates : FlightCrates κ ν β} {schema : Schema}

def rowSections (crates : FlightCrates κ ν β) (items : List (ColumnItem κ)) :
    List (List (Option ν)) × List (Marker × List (List (Option ν))) :=
  sections (items.map (ColumnItem.rows crates))

/-- No error arrives, and in each section the rows that were sent. -/
def RoundTrip (crates : FlightCrates κ ν β) (sent : List (ColumnItem κ))
    (received : List (Except DataFusionError (ColumnItem κ))) : Prop :=
  ∃ items : List (ColumnItem κ), received = items.map .ok ∧ rowSections crates items = rowSections crates sent

/-- The items of a stream of one schema that hold a batch hold one that Arrow has built. -/
def Built (crates : FlightCrates κ ν β) (schema : Schema) (items : List (ColumnItem κ)) : Prop :=
  ∀ batch, .recordBatch batch ∈ items →
    batch.schema = schema ∧ crates.tryNewBatch batch.schema batch.columns batch.numRows = .ok batch

section Splitting
variable {batch : ColumnBatch κ}

private theorem rows_slice (lawful : Lawful crates)
    (sized : ∀ column ∈ batch.columns, (crates.values column).length = batch.numRows) {offset length : Nat}
    (within : offset + length ≤ batch.numRows) :
    (batch.slice crates offset length).rows crates = ((batch.rows crates).drop offset).take length := by
  apply List.ext_getElem
  · simp [ColumnBatch.rows, ColumnBatch.slice]
    omega
  · intro row inside _
    have bound : row < length := by simpa [ColumnBatch.rows, ColumnBatch.slice] using inside
    simp only [ColumnBatch.rows, ColumnBatch.slice, List.map_map, List.getElem_map, List.getElem_range,
      List.getElem_take, List.getElem_drop]
    refine List.map_congr_left fun column member => ?_
    have fits : offset + length ≤ (crates.values column).length := by rw [sized column member]; exact within
    simp [lawful.slice column offset length fits, bound]

private theorem splitFrom_rows (lawful : Lawful crates)
    (sized : ∀ column ∈ batch.columns, (crates.values column).length = batch.numRows) {rowsPerBatch : Nat}
    (positive : 0 < rowsPerBatch) (offset : Nat) :
    (splitFrom crates batch rowsPerBatch positive offset).flatMap (·.rows crates) = (batch.rows crates).drop offset := by
  fun_induction splitFrom crates batch rowsPerBatch positive offset with
  | case1 offset more length ih =>
    rw [List.flatMap_cons, ih, rows_slice lawful sized (by omega), ← List.drop_drop]
    exact List.take_append_drop _ _
  | case2 offset none =>
    have size : (batch.rows crates).length = batch.numRows := by simp [ColumnBatch.rows]
    rw [List.flatMap_nil, List.drop_of_length_le (by omega)]

private theorem splitFrom_schema {rowsPerBatch : Nat} {positive : 0 < rowsPerBatch} {offset : Nat} :
    ∀ part ∈ splitFrom crates batch rowsPerBatch positive offset, part.schema = batch.schema := by
  fun_induction splitFrom crates batch rowsPerBatch positive offset with
  | case1 offset more length ih => exact List.forall_mem_cons.mpr ⟨rfl, ih⟩
  | case2 offset none => exact List.forall_mem_nil _

theorem split_rows (lawful : Lawful crates)
    (sized : ∀ column ∈ batch.columns, (crates.values column).length = batch.numRows) (maxFlightDataSize : Nat) :
    (splitBatchForGrpcResponse crates batch maxFlightDataSize).flatMap (·.rows crates) = batch.rows crates :=
  splitFrom_rows lawful sized _ 0

theorem split_schema {maxFlightDataSize : Nat} :
    ∀ part ∈ splitBatchForGrpcResponse crates batch maxFlightDataSize, part.schema = batch.schema :=
  splitFrom_schema

end Splitting

/-- What arrives, item by item: the parts of the hydrated batches, up to the first
batch that cannot be hydrated. -/
def received (crates : FlightCrates κ ν β) (prepared : Schema) :
    List (ColumnItem κ) → List (Except String (ColumnItem κ))
  | [] => []
  | .marker cut :: rest => .ok (.marker cut) :: received crates prepared rest
  | .recordBatch batch :: rest =>
    match hydrateDictionaries crates batch prepared with
    | .error error => [.error error]
    | .ok hydrated =>
      ((splitBatchForGrpcResponse crates hydrated 2097152).map .recordBatch).map .ok ++ received crates prepared rest

def castFailure (crates : FlightCrates κ ν β) (error : String) : DataFusionError :=
  ofFlightError (.tonic (crates.showStatus ("Error encoding flight data: " ++ (FlightError.arrow error).display)))

theorem hydrated_of_ok (lawful : Lawful crates) {batch hydrated : ColumnBatch κ} {prepared : Schema}
    (passed : hydrateDictionaries crates batch prepared = .ok hydrated) :
    hydrated.schema = prepared ∧ hydrated.numRows = batch.numRows ∧
      ∀ column ∈ hydrated.columns, (crates.values column).length = hydrated.numRows := by
  simp only [hydrateDictionaries, bind, Except.bind] at passed
  split at passed
  · cases passed
  · obtain ⟨rfl, sized, _⟩ := lawful.batch.mp passed
    exact ⟨rfl, rfl, sized⟩

section Messages

private theorem parts_decoded (lawful : Lawful crates) (free : schema.dictionaryFree = true)
    {parts : List (ColumnBatch κ)} (same : ∀ part ∈ parts, part.schema = schema) :
    ∃ messages, parts.mapM (encodePart crates) = .ok messages ∧
      tryFilterMap (decodeMessage crates) (some schema) (messages.flatten.map .ok) =
        (some schema, parts.map fun part => .ok (.recordBatch part)) := by
  induction parts with
  | nil => exact ⟨[], rfl, rfl⟩
  | cons part rest ih =>
    rw [List.forall_mem_cons] at same
    obtain ⟨messages, encoded, decoded⟩ := ih same.2
    obtain ⟨message, single, back⟩ := lawful.batch_message part (same.1 ▸ free)
    rw [same.1] at back
    have head : encodePart crates part = .ok [⟨message, []⟩] := by
      simp only [encodePart, single, Except.mapError, bind, Except.bind, pure, Except.pure, List.nil_append,
        List.map_cons, List.map_nil]
    refine ⟨[⟨message, []⟩] :: messages, ?_, ?_⟩
    · simp only [List.mapM_cons, head, encoded, bind, Except.bind, pure, Except.pure]
    · simp only [List.flatten_cons, List.map_cons, List.singleton_append, tryFilterMap, decodeMessage, back, decoded]

private def encoderAt (crates : FlightCrates κ ν β) (before : Option Schema) (items : List (ColumnItem κ)) :
    FlightDataEncoder κ β :=
  { encodeStreamToFlight crates (items.map .ok) with
    schema := before, appMetadata := if before.isSome then none else some [] }

private theorem yields_queue (encoder : FlightDataEncoder κ β) {answers : List (Except FlightError (FlightData β))}
    (queue : List (FlightData β)) (later : Yields (pollNext crates) { encoder with queue := [] } answers) :
    Yields (pollNext crates) { encoder with queue } (queue.map .ok ++ answers) := by
  induction queue with
  | nil => exact later
  | cons data rest ih => exact .next (pollNext_queue rfl) ih

variable {batch : ColumnBatch κ} {rest : List (ColumnItem κ)} {before : Option Schema}

private theorem encodeBatch_ok (lawful : Lawful crates) (free : schema.dictionaryFree = true)
    (known : before = none ∨ before = some (prepareSchemaForFlight schema)) (own : batch.schema = schema)
    {hydrated : ColumnBatch κ}
    (passed : hydrateDictionaries crates batch (prepareSchemaForFlight schema) = .ok hydrated) :
    ∃ messages, encodeBatch crates (encoderAt crates before rest) batch =
        .ok { encoderAt crates (some (prepareSchemaForFlight schema)) rest with queue := messages } ∧
      tryFilterMap (decodeMessage crates) before (messages.map .ok) = (some (prepareSchemaForFlight schema),
        (splitBatchForGrpcResponse crates hydrated 2097152).map fun part => .ok (.recordBatch part)) := by
  have same := (hydrated_of_ok lawful passed).1
  have parts : ∀ part ∈ splitBatchForGrpcResponse crates hydrated 2097152, part.schema = prepareSchemaForFlight schema :=
    fun part member => (split_schema part member).trans same
  obtain ⟨messages, encoded, decoded⟩ := parts_decoded lawful (dictionaryFree_prepareSchema free) parts
  -- The schema goes out in front of the first batch, and every later one is decoded with it.
  rcases known with rfl | rfl
  · refine ⟨⟨crates.encodeSchema (prepareSchemaForFlight schema), []⟩ :: messages.flatten, ?_, ?_⟩
    · simp only [encodeBatch, encoderAt, encodeSchema, own, passed, Except.mapError, bind, Except.bind]
      rw [show (encodeStreamToFlight crates (rest.map .ok)).maxFlightDataSize = 2097152 from rfl, encoded]
      rfl
    · simp only [List.map_cons, tryFilterMap, decodeMessage, lawful.schema_message, decoded]
  · refine ⟨messages.flatten, ?_, decoded⟩
    simp only [encodeBatch, encoderAt, passed, Except.mapError, bind, Except.bind]
    rw [show (encodeStreamToFlight crates (rest.map .ok)).maxFlightDataSize = 2097152 from rfl, encoded]
    rfl

private theorem encodeBatch_error (known : before = none ∨ before = some (prepareSchemaForFlight schema))
    (own : batch.schema = schema) {error : String}
    (failed : hydrateDictionaries crates batch (prepareSchemaForFlight schema) = .error error) :
    encodeBatch crates (encoderAt crates before rest) batch = .error (.arrow error) := by
  rcases known with rfl | rfl
  · simp only [encodeBatch, encoderAt, encodeSchema, own, failed, Except.mapError, bind, Except.bind]
  · simp only [encodeBatch, encoderAt, failed, Except.mapError, bind, Except.bind]

end Messages

private def arriving (crates : FlightCrates κ ν β) (answers : List (Except FlightError (FlightData β))) :
    List (Except DataFusionError (FlightData β)) :=
  (answers.map (overTheWire crates)).map (Except.mapError ofFlightError)

private theorem arriving_ok (messages : List (FlightData β)) (answers : List (Except FlightError (FlightData β))) :
    arriving crates (messages.map .ok ++ answers) = messages.map .ok ++ arriving crates answers := by
  simp only [arriving, List.map_append, List.map_map, List.append_cancel_right_eq]
  rfl

private theorem transported (lawful : Lawful crates) (free : schema.dictionaryFree = true) {items : List (ColumnItem κ)}
    (common : ∀ batch, .recordBatch batch ∈ items → batch.schema = schema)
    (numbers : ∀ cut, .marker cut ∈ items → cut.checkpointNumber < 2 ^ 64) {before : Option Schema}
    (known : before = none ∨ before = some (prepareSchemaForFlight schema)) :
    ∃ answers, Yields (pollNext crates) (encoderAt crates before items) answers ∧
      (tryFilterMap (decodeMessage crates) before (arriving crates answers)).2 =
        (received crates (prepareSchemaForFlight schema) items).map (Except.mapError (castFailure crates)) := by
  -- The induction starts at any place in the stream: the schema has been sent or it has not.
  induction items generalizing before with
  | nil => exact ⟨[], .done rfl, rfl⟩
  | cons item rest ih =>
    have later {before} := @ih (fun batch member => common batch (List.mem_cons_of_mem _ member))
      (fun cut member => numbers cut (List.mem_cons_of_mem _ member)) before
    cases item with
    | marker cut =>
      obtain ⟨answers, yields, decoded⟩ := later known
      refine ⟨.ok ⟨crates.emptyMessage, crates.markerToBytes cut.checkpointNumber⟩ :: answers, .next rfl yields, ?_⟩
      have back := lawful.marker _ (numbers cut List.mem_cons_self)
      rw [← List.singleton_append, ← List.map_singleton, arriving_ok]
      simp only [List.map_cons, List.map_nil, List.singleton_append, tryFilterMap, decodeMessage, lawful.empty_message,
        back, decoded, received]
      rfl
    | recordBatch batch =>
      have own := common batch List.mem_cons_self
      cases outcome : hydrateDictionaries crates batch (prepareSchemaForFlight schema) with
      | error error =>
        have failed : encodeBatch crates (encoderAt crates before rest) batch = _ := encodeBatch_error known own outcome
        refine ⟨[.error (.arrow error)], .next (pollNext_failed rfl rfl rfl failed) (.done (pollNext_done rfl rfl)), ?_⟩
        simp only [received, outcome]
        rfl
      | ok hydrated =>
        obtain ⟨messages, encoded, decoded⟩ := @encodeBatch_ok _ _ _ _ _ _ rest _ lawful free known own _ outcome
        obtain ⟨answers, yields, further⟩ := later (.inr rfl)
        have queued := yields_queue (encoderAt crates (some (prepareSchemaForFlight schema)) rest) messages yields
        refine ⟨messages.map .ok ++ answers, .congr ?_ queued, ?_⟩
        · exact pollNext_encoded rfl rfl rfl encoded rfl
        · rw [arriving_ok, TryFilterMap.append, decoded]
          simp only [further, received, outcome, List.map_append, List.map_map]
          rfl

section Rows

private theorem rowSections_marker (cut : Marker) (rest : List (ColumnItem κ)) :
    rowSections crates (.marker cut :: rest) =
      ([], (cut, (rowSections crates rest).1) :: (rowSections crates rest).2) := rfl

private theorem rowSections_batch (batch : ColumnBatch κ) (rest : List (ColumnItem κ)) :
    rowSections crates (.recordBatch batch :: rest) =
      (batch.rows crates ++ (rowSections crates rest).1, (rowSections crates rest).2) := rfl

private theorem rowSections_parts (parts : List (ColumnBatch κ)) (rest : List (ColumnItem κ)) :
    rowSections crates (parts.map .recordBatch ++ rest) =
      (parts.flatMap (·.rows crates) ++ (rowSections crates rest).1, (rowSections crates rest).2) := by
  induction parts with
  | nil => rfl
  | cons part parts ih =>
    rw [List.map_cons, List.cons_append, rowSections_batch, ih, List.flatMap_cons, List.append_assoc]

private theorem received_ok_iff {batch hydrated : ColumnBatch κ} {prepared : Schema} {rest items : List (ColumnItem κ)}
    (passed : hydrateDictionaries crates batch prepared = .ok hydrated) :
    received crates prepared (.recordBatch batch :: rest) = items.map .ok ↔
      ∃ later, received crates prepared rest = later.map .ok ∧
        items = (splitBatchForGrpcResponse crates hydrated 2097152).map .recordBatch ++ later := by
  simp only [received, passed]
  constructor
  · intro arrived
    obtain ⟨first, later, rfl, parts, others⟩ := List.append_eq_map_iff.mp arrived
    refine ⟨later, others.symm, ?_⟩
    rw [List.map_injective_iff.mpr (fun _ _ => Except.ok.inj) parts]
  · rintro ⟨later, others, rfl⟩
    rw [others, List.map_append]

variable {items : List (ColumnItem κ)} {prepared : Schema}

private def Arrives (crates : FlightCrates κ ν β) (prepared : Schema) (items : List (ColumnItem κ)) : Prop :=
  ∃ arrived : List (ColumnItem κ), received crates prepared items = arrived.map .ok ∧
    rowSections crates arrived = rowSections crates items

private theorem arrives_marker_iff {cut : Marker} {rest : List (ColumnItem κ)} :
    Arrives crates prepared (.marker cut :: rest) ↔ Arrives crates prepared rest := by
  constructor
  · rintro ⟨arrived, same, equal⟩
    obtain ⟨_, later, rfl, head, others⟩ := List.map_eq_cons_iff.mp same.symm
    cases head
    simp only [rowSections_marker, Prod.mk.injEq, List.cons.injEq, true_and] at equal
    exact ⟨later, others.symm, Prod.ext equal.1 equal.2⟩
  · rintro ⟨later, others, equal⟩
    refine ⟨.marker cut :: later, by rw [received, others, List.map_cons], ?_⟩
    rw [rowSections_marker, rowSections_marker, equal]

private theorem arrives_batch_iff (lawful : Lawful crates) {batch hydrated : ColumnBatch κ} {rest : List (ColumnItem κ)}
    (passed : hydrateDictionaries crates batch prepared = .ok hydrated) :
    Arrives crates prepared (.recordBatch batch :: rest) ↔
      hydrated.rows crates = batch.rows crates ∧ Arrives crates prepared rest := by
  obtain ⟨_, count, sized⟩ := hydrated_of_ok lawful passed
  have length : (hydrated.rows crates).length = (batch.rows crates).length := by simp [ColumnBatch.rows, count]
  simp only [Arrives, received_ok_iff passed]
  constructor
  · rintro ⟨_, ⟨later, others, rfl⟩, equal⟩
    rw [rowSections_parts, split_rows lawful sized, rowSections_batch, Prod.mk.injEq] at equal
    -- Hydration keeps the number of rows, so equal sections have equal rows in this batch.
    obtain ⟨same, first⟩ := List.append_inj equal.1 length
    exact ⟨same, later, others, Prod.ext first equal.2⟩
  · rintro ⟨same, later, others, equal⟩
    refine ⟨_, ⟨later, others, rfl⟩, ?_⟩
    rw [rowSections_parts, split_rows lawful sized, rowSections_batch, equal, same]

private theorem arrives_iff (lawful : Lawful crates) :
    Arrives crates (prepareSchemaForFlight schema) items ↔
      ∀ batch, .recordBatch batch ∈ items → Kept crates schema batch := by
  induction items with
  | nil => exact ⟨fun _ => nofun, fun _ => ⟨[], rfl, rfl⟩⟩
  | cons item rest ih =>
    cases item with
    | marker cut =>
      rw [arrives_marker_iff, ih]
      simp
    | recordBatch batch =>
      have split : (∀ other, .recordBatch other ∈ .recordBatch batch :: rest → Kept crates schema other) ↔
          Kept crates schema batch ∧ ∀ other, .recordBatch other ∈ rest → Kept crates schema other := by
        simp only [List.mem_cons, ColumnItem.recordBatch.injEq, or_imp, forall_and, forall_eq]
      rw [split]
      cases outcome : hydrateDictionaries crates batch (prepareSchemaForFlight schema) with
      | error error =>
        constructor
        · rintro ⟨arrived, same, _⟩
          simp only [received, outcome] at same
          obtain ⟨_, _, _, head, _⟩ := List.map_eq_cons_iff.mp same.symm
          cases head
        · rintro ⟨⟨_, passed, _⟩, _⟩
          cases outcome.symm.trans passed
      | ok hydrated =>
        rw [arrives_batch_iff lawful outcome, ih, Kept]
        simp only [outcome, Except.ok.injEq, exists_eq_left']

end Rows

private theorem map_mapError_eq_ok_iff {α ε δ : Type} {f : ε → δ} {results : List (Except ε α)} {items : List α} :
    results.map (Except.mapError f) = items.map .ok ↔ results = items.map .ok := by
  induction results generalizing items with
  | nil => cases items <;> simp
  | cons result rest ih =>
    cases items with
    | nil => simp
    | cons item items =>
      simp only [List.map_cons, List.cons.injEq, ih]
      cases result <;> simp [Except.mapError]

/-- A finite stream of markers and of batches of one schema without dictionaries gets
through, for every mix of items and every size of a batch, if and only if each column of
each batch has a type without large lists and nullable unions inside it, or can be cast
without loss to the type with lists for the large lists. A schema whose types have none of
these gets through whatever Arrow can cast. -/
theorem flight_round_trip_iff (lawful : Lawful crates) (free : schema.dictionaryFree = true)
    {items : List (ColumnItem κ)} (built : Built crates schema items)
    (numbers : ∀ cut, .marker cut ∈ items → cut.checkpointNumber < 2 ^ 64) :
    (∃ answers, Yields (pollNext crates) (encodeStreamToFlight crates (items.map .ok)) answers) ∧
      ∀ answers, Yields (pollNext crates) (encodeStreamToFlight crates (items.map .ok)) answers →
        (RoundTrip crates items (decodeFlightToStream crates (answers.map (overTheWire crates))) ↔
          ∀ batch, .recordBatch batch ∈ items → ColumnsPass crates batch) ∧
        ((∀ field ∈ schema.fields, untouched field.dataType = true) →
          RoundTrip crates items (decodeFlightToStream crates (answers.map (overTheWire crates)))) := by
  obtain ⟨answers, yields, decoded⟩ :=
    transported lawful free (fun batch member => (built batch member).1) numbers (.inl rfl)
  refine ⟨⟨answers, yields⟩, fun others again => ?_⟩
  cases again.unique yields
  have whole : RoundTrip crates items (decodeFlightToStream crates (answers.map (overTheWire crates))) ↔
      ∀ batch, .recordBatch batch ∈ items → ColumnsPass crates batch := by
    have kept : (∀ batch, .recordBatch batch ∈ items → Kept crates schema batch) ↔
        ∀ batch, .recordBatch batch ∈ items → ColumnsPass crates batch := by
      refine forall₂_congr fun batch member => ?_
      obtain ⟨rfl, valid⟩ := built batch member
      exact kept_iff lawful valid free
    rw [← kept, ← arrives_iff lawful]
    have all : decodeFlightToStream crates (answers.map (overTheWire crates)) = _ := decoded
    refine exists_congr fun arrived => and_congr_left' ?_
    rw [all, map_mapError_eq_ok_iff]
  refine ⟨whole, fun plain => whole.mpr fun batch member column inside => .inl ?_⟩
  obtain ⟨rfl, -⟩ := built batch member
  exact plain column.1 (List.of_mem_zip inside).1

inductive PlainMessage where
  | schema (schema : Schema)
  | batch (batch : ColumnBatch (List Nat))
  | empty

/-- Columns of one type, which can be cast to nothing else. -/
def plainCrates (columnType : DataType) (hasType : DataType → Bool) : FlightCrates (List Nat) Nat PlainMessage where
  dataType _ := columnType
  values column := column
  nullCount _ := 0
  getBufferMemorySize column := 8 * column.length
  slice column offset length := (column.drop offset).take length
  cast column target := if hasType target then .ok column else .error "Cast error: not supported"
  unionChild column _ := column
  newSparseUnion _ _ _ _ := .error "Invalid argument error"
  tryNewBatch schema columns numRows :=
    if schema.fields.length = columns.length ∧ (∀ field ∈ schema.fields, hasType field.dataType = true) ∧
        ∀ column ∈ columns, column.length = numRows then .ok ⟨schema, columns, numRows⟩
    else .error "Invalid argument error"
  encodeSchema := .schema
  encodedBatch batch := .ok ([], .batch batch)
  emptyMessage := .empty
  extractMessage
    | _, .schema schema => .ok (some schema, some (.schema schema))
    | before, .batch batch => .ok (before, some (.recordBatch batch))
    | before, .empty => .ok (before, some .none)
  markerToBytes := BigEndian.encode 8
  markerFromBytes bytes := .ok (BigEndian.decode bytes)
  showStatus message := message

private theorem plainCrates_lawful {columnType : DataType} {hasType : DataType → Bool}
    (only : ∀ other, hasType other = true ↔ other = columnType)
    (whole : ∀ typeIds fields, columnType ≠ .union typeIds fields .sparse) : Lawful (plainCrates columnType hasType) where
  cast_self _ := if_pos ((only columnType).mpr rfl)
  cast_type {array dataType result} passed := by
    simp only [plainCrates] at passed
    split at passed
    next typed => exact ((only _).mp typed).symm
    next => cases passed
  cast_nulls _ _ _ := rfl
  child sparse := False.elim (whole _ _ sparse)
  union_self sparse := False.elim (whole _ _ sparse)
  union_type built := by cases built
  union_nulls _ _ := rfl
  slice _ _ _ _ := rfl
  batch {schema columns numRows batch} := by
    have types : List.Forall₂ (fun (field : Field) (_ : List Nat) =>
        columnType = field.dataType ∧ (field.nullable = false → 0 = 0)) schema.fields columns ↔
        schema.fields.length = columns.length ∧ ∀ field ∈ schema.fields, hasType field.dataType = true := by
      rw [List.forall₂_and_left, List.forall₂_iff_zip, and_comm]
      simp only [only, eq_comm, implies_true, and_true]
    change (if _ then _ else _) = _ ↔ _ ∧ _ ∧ List.Forall₂ _ _ _
    rw [show (plainCrates columnType hasType).dataType = fun _ => columnType from rfl,
      show (plainCrates columnType hasType).nullCount = fun _ => 0 from rfl, types]
    split
    next valid =>
      rw [Except.ok.injEq]
      exact ⟨fun same => ⟨same.symm, valid.2.2, valid.1, valid.2.1⟩, fun same => same.1.symm⟩
    next invalid =>
      constructor
      · intro impossible
        cases impossible
      · intro valid
        exact absurd ⟨valid.2.2.1, valid.2.2.2, valid.2.1⟩ invalid
  schema_message _ _ := rfl
  batch_message batch _ := ⟨.batch batch, rfl, rfl⟩
  empty_message _ := rfl
  marker number bound := by
    have width : 256 ^ 8 = 2 ^ 64 := by norm_num
    simp only [plainCrates, BigEndian.decode_encode, width, Nat.mod_eq_of_lt bound]

def numbersSchema : Schema := ⟨[.mk "number" (.primitive "Int64") false []], []⟩

def numbersCrates : FlightCrates (List Nat) Nat PlainMessage :=
  plainCrates (.primitive "Int64") fun
    | .primitive name => name == "Int64"
    | _ => false

def numbersStream : List (ColumnItem (List Nat)) :=
  [.recordBatch ⟨numbersSchema, [[1, 2]], 2⟩, .marker ⟨7⟩, .recordBatch ⟨numbersSchema, [[]], 0⟩]

theorem numbers_round_trip :
    ∃ answers, Yields (pollNext numbersCrates) (encodeStreamToFlight numbersCrates (numbersStream.map .ok)) answers ∧
      RoundTrip numbersCrates numbersStream
        (decodeFlightToStream numbersCrates (answers.map (overTheWire numbersCrates))) := by
  have lawful : Lawful numbersCrates := by
    refine plainCrates_lawful (fun other => ?_) nofun
    cases other <;> simp
  have built : Built numbersCrates numbersSchema numbersStream := by
    intro batch member
    simp only [numbersStream, List.mem_cons, ColumnItem.recordBatch.injEq, List.not_mem_nil, or_false, reduceCtorEq,
      false_or] at member
    rcases member with rfl | rfl
    · exact ⟨rfl, rfl⟩
    · exact ⟨rfl, rfl⟩
  have numbers : ∀ cut, .marker cut ∈ numbersStream → cut.checkpointNumber < 2 ^ 64 := by
    intro cut member
    simp only [numbersStream, List.mem_cons, ColumnItem.marker.injEq, List.not_mem_nil, or_false, reduceCtorEq,
      false_or] at member
    rw [member]
    decide
  obtain ⟨⟨answers, yields⟩, through⟩ := flight_round_trip_iff lawful rfl built numbers
  exact ⟨answers, yields, (through answers yields).2 (by decide)⟩

/-- The large lists of a dense union are announced as lists, and no union can be cast to
another one. -/
def unionType : DataType :=
  .union [0] [.mk "items" (.largeList (.mk "item" (.primitive "Int64") true [])) true []] .dense

def unionCrates : FlightCrates (List Nat) Nat PlainMessage :=
  plainCrates unionType fun
    | .union [0] [.mk "items" (.largeList (.mk "item" (.primitive "Int64") true [])) true []] .dense => true
    | _ => false

def unionSchema : Schema := ⟨[.mk "value" unionType false []], []⟩

def unionBatch : ColumnBatch (List Nat) := ⟨unionSchema, [[5]], 1⟩

/-- One row of a union of large lists: the stream gets an error instead of the row. -/
theorem union_of_large_lists_refused :
    Lawful unionCrates ∧ unionSchema.dictionaryFree = true ∧ Built unionCrates unionSchema [.recordBatch unionBatch] ∧
      ∃ answers error,
        Yields (pollNext unionCrates) (encodeStreamToFlight unionCrates [.ok (.recordBatch unionBatch)]) answers ∧
        decodeFlightToStream unionCrates (answers.map (overTheWire unionCrates)) = [.error error] ∧
        ¬ RoundTrip unionCrates [.recordBatch unionBatch] [.error error] := by
  refine ⟨plainCrates_lawful (fun other => ?_) nofun, rfl, ?_, [.error (.arrow "Cast error: not supported")], _,
    .next rfl (.done rfl), rfl, ?_⟩
  · constructor
    · intro typed
      split at typed
      · rfl
      · cases typed
    · rintro rfl
      rfl
  · intro batch member
    cases List.mem_singleton.mp member
    exact ⟨rfl, rfl⟩
  · rintro ⟨items, same, _⟩
    obtain ⟨_, _, _, head, _⟩ := List.map_eq_cons_iff.mp same.symm
    cases head

end DatafusionRay.Proofs.FlightTransport
