import DatafusionRay.Streaming.FlightCodec

/-! The cast of a batch to the schema that is sent in front of it. The schema that is sent
differs from the stream's own in its large lists, which become lists, and in the unions
below its columns, which lose their metadata and whether they are nullable. So a column
that has neither passes, and any other depends on what Arrow can cast. -/

namespace DatafusionRay.Proofs.FlightTransport
open Streaming Foundation

variable {κ ν β : Type} {crates : FlightCrates κ ν β} {schema : Schema}

section Untouched

def isUnion : DataType → Bool
  | .union _ _ _ => true
  | _ => false

mutual

/-- There is no large list, no dictionary, and no union that is nullable or has metadata,
inside the lists, structs, unions and maps of the type. -/
def untouched : DataType → Bool
  | .list item => fieldUntouched item
  | .struct fields => fieldsUntouched fields
  | .union _ fields _ => fieldsUntouched fields
  | .map entries _ => fieldUntouched entries
  | .largeList _ | .dictionary _ _ => false
  | .primitive _ | .listView _ | .fixedSizeList _ _ | .largeListView _ | .runEndEncoded _ _ => true

def fieldUntouched : Field → Bool
  | .mk _ dataType nullable metadata =>
    untouched dataType && (!isUnion dataType || (!nullable && metadata.isEmpty))

def fieldsUntouched : List Field → Bool
  | [] => true
  | field :: rest => fieldUntouched field && fieldsUntouched rest

end

private theorem valueType_ne (keyType valueType : DataType) : valueType ≠ .dictionary keyType valueType := by
  intro same
  have size := congrArg sizeOf same
  simp only [DataType.dictionary.sizeOf_spec] at size
  omega

private theorem prepareField_shape (name : String) (dataType : DataType) (nullable : Bool) (metadata : List (String × String)) :
    prepareFieldForFlight (.mk name dataType nullable metadata) =
      .mk name (prepareFieldForFlight (.mk name dataType nullable metadata)).dataType
        (!isUnion dataType && nullable) (if isUnion dataType then [] else metadata) := by
  cases dataType <;> rfl

private theorem prepareField_eq_iff {field : Field}
    (types : (prepareFieldForFlight field).dataType = field.dataType ↔ untouched field.dataType = true) :
    prepareFieldForFlight field = field ↔ fieldUntouched field = true := by
  obtain ⟨name, dataType, nullable, metadata⟩ := field
  change _ = dataType ↔ untouched dataType = true at types
  rw [prepareField_shape, Field.mk.injEq, fieldUntouched, Bool.and_eq_true, ← types]
  cases isUnion dataType <;> cases nullable <;> simp

mutual

/-- These are the types that `prepare_field_for_flight` leaves alone. -/
theorem prepareField_dataType_iff : (field : Field) →
    ((prepareFieldForFlight field).dataType = field.dataType ↔ untouched field.dataType = true)
  | .mk _ (.list inner) _ _ => by
    simp only [prepareFieldForFlight, Field.dataType, DataType.list.injEq, untouched]
    exact prepareField_eq_iff (prepareField_dataType_iff inner)
  | .mk _ (.largeList inner) _ _ => by simp [prepareFieldForFlight, Field.dataType, untouched]
  | .mk _ (.struct fields) _ _ => by
    simp only [prepareFieldForFlight, Field.dataType, DataType.struct.injEq, untouched]
    exact prepareFields_eq_iff fields
  | .mk _ (.union _ fields _) _ _ => by
    simp only [prepareFieldForFlight, Field.dataType, DataType.union.injEq, true_and, and_true, untouched]
    exact prepareFields_eq_iff fields
  | .mk _ (.map inner _) _ _ => by
    simp only [prepareFieldForFlight, Field.dataType, DataType.map.injEq, and_true, untouched]
    exact prepareField_eq_iff (prepareField_dataType_iff inner)
  | .mk _ (.dictionary keyType valueType) _ _ => by
    simp only [prepareFieldForFlight, Field.dataType, untouched, Bool.false_eq_true, iff_false]
    exact valueType_ne keyType valueType
  | .mk _ (.primitive _) _ _ => iff_of_true rfl rfl
  | .mk _ (.listView _) _ _ => iff_of_true rfl rfl
  | .mk _ (.fixedSizeList _ _) _ _ => iff_of_true rfl rfl
  | .mk _ (.largeListView _) _ _ => iff_of_true rfl rfl
  | .mk _ (.runEndEncoded _ _) _ _ => iff_of_true rfl rfl

theorem prepareFields_eq_iff : (fields : List Field) →
    (prepareFieldsForFlight fields = fields ↔ fieldsUntouched fields = true)
  | [] => iff_of_true rfl rfl
  | field :: rest => by
    simp only [prepareFieldsForFlight, List.cons.injEq, prepareFields_eq_iff rest, fieldsUntouched, Bool.and_eq_true,
      prepareField_eq_iff (prepareField_dataType_iff field)]

end

/-- Only a union can have become one that is not nullable. -/
theorem nullable_of_prepared {field : Field} (required : (prepareFieldForFlight field).nullable = false) :
    field.nullable = false ∨ isUnion field.dataType = true := by
  obtain ⟨name, dataType, nullable, metadata⟩ := field
  rw [prepareField_shape] at required
  cases union : isUnion dataType with
  | true => exact .inr union
  | false =>
    rw [union] at required
    exact .inl required

theorem isUnion_prepared {field : Field} (union : isUnion field.dataType = true) :
    isUnion (prepareFieldForFlight field).dataType = true := by
  obtain ⟨name, dataType, nullable, metadata⟩ := field
  cases dataType with
  | union => rfl
  | _ => cases union

/-- A column is treated as any other field is. -/
theorem prepareSchema_fields (schema : Schema) :
    prepareSchemaForFlight schema = ⟨schema.fields.map prepareFieldForFlight, schema.metadata⟩ := by
  rw [prepareSchemaForFlight]
  congr 1
  refine List.map_congr_left fun field _ => ?_
  obtain ⟨name, dataType, nullable, metadata⟩ := field
  cases dataType <;> rfl

end Untouched

/-- What is assumed of the crates. The last four are round trips. -/
structure Lawful (crates : FlightCrates κ ν β) : Prop where
  cast_self : ∀ array, crates.cast array (crates.dataType array) = .ok array
  cast_type : ∀ {array dataType result}, crates.cast array dataType = .ok result → crates.dataType result = dataType
  cast_nulls : ∀ {array dataType result}, crates.cast array dataType = .ok result →
    crates.values result = crates.values array → crates.nullCount array = 0 → crates.nullCount result = 0
  child : ∀ {array typeIds fields}, crates.dataType array = .union typeIds fields .sparse →
    ∀ child ∈ typeIds.zip fields, crates.dataType (crates.unionChild array child.1) = child.2.dataType
  union_self : ∀ {array typeIds fields}, crates.dataType array = .union typeIds fields .sparse →
    crates.newSparseUnion typeIds fields array ((typeIds.zip fields).map fun child => crates.unionChild array child.1) =
      .ok array
  union_type : ∀ {array typeIds fields children result}, crates.newSparseUnion typeIds fields array children = .ok result →
    crates.dataType result = .union typeIds fields .sparse
  union_nulls : ∀ array, isUnion (crates.dataType array) = true → crates.nullCount array = 0
  slice : ∀ array offset length, offset + length ≤ (crates.values array).length →
    crates.values (crates.slice array offset length) = ((crates.values array).drop offset).take length
  batch : ∀ {schema columns numRows batch}, crates.tryNewBatch schema columns numRows = .ok batch ↔
    batch = ⟨schema, columns, numRows⟩ ∧ (∀ column ∈ columns, (crates.values column).length = numRows) ∧
      List.Forall₂ (fun field column => crates.dataType column = field.dataType ∧
        (field.nullable = false → crates.nullCount column = 0)) schema.fields columns
  schema_message : ∀ before schema, crates.extractMessage before (crates.encodeSchema schema) =
    .ok (some schema, some (.schema schema))
  batch_message : ∀ batch, batch.schema.dictionaryFree = true →
    ∃ message, crates.encodedBatch batch = .ok ([], message) ∧
      crates.extractMessage (some batch.schema) message = .ok (some batch.schema, some (.recordBatch batch))
  empty_message : ∀ before, crates.extractMessage before crates.emptyMessage = .ok (before, some .none)
  marker : ∀ number, number < 2 ^ 64 → crates.markerFromBytes (crates.markerToBytes number) = .ok number

/-- Arrow can cast the column to the type without losing a value. A sparse union is cast
child by child and put together again. -/
def CastKept (crates : FlightCrates κ ν β) (column : κ) : DataType → Prop
  | .union typeIds fields .sparse => ∃ children result,
      List.Forall₂ (fun child cast => crates.cast (crates.unionChild column child.1) child.2.dataType = .ok cast)
        (typeIds.zip fields) children ∧
      crates.newSparseUnion typeIds fields column children = .ok result ∧ crates.values result = crates.values column
  | dataType => ∃ result, crates.cast column dataType = .ok result ∧ crates.values result = crates.values column

/-- The column has the type of its field, and the field is to be sent as another one. -/
theorem hydrate_iff_castKept {field : Field} {column : κ} (typed : crates.dataType column = field.dataType)
    (free : field.dictionaryFree = true) :
    (∃ result, hydrateDictionary crates column (prepareFieldForFlight field).dataType = .ok result ∧
      crates.values result = crates.values column) ↔ CastKept crates column (prepareFieldForFlight field).dataType := by
  obtain ⟨name, dataType, nullable, metadata⟩ := field
  change crates.dataType column = dataType at typed
  cases dataType with
  | union typeIds fields mode =>
    cases mode with
    | dense => simp only [prepareFieldForFlight, Field.dataType, hydrateDictionary, CastKept, typed]
    | sparse =>
      simp only [prepareFieldForFlight, Field.dataType, hydrateDictionary, CastKept, typed]
      constructor
      · rintro ⟨result, passed, same⟩
        obtain ⟨children, cast, built⟩ := bind_eq_ok.mp passed
        exact ⟨children, result, mapM_ok cast, built, same⟩
      · rintro ⟨children, result, cast, built, same⟩
        exact ⟨result, bind_eq_ok.mpr ⟨children, mapM_of_forall₂ cast, built⟩, same⟩
  | dictionary keyType valueType => cases free
  | _ => simp only [prepareFieldForFlight, Field.dataType, hydrateDictionary, CastKept, typed]

section Columns
variable (lawful : Lawful crates)
include lawful

theorem hydrate_self (array : κ) : hydrateDictionary crates array (crates.dataType array) = .ok array := by
  unfold hydrateDictionary
  split
  next typeIds fields _ same =>
    have children : ((typeIds.zip fields).mapM fun child =>
        crates.cast (crates.unionChild array child.1) child.2.dataType) = .ok _ :=
      mapM_eq_ok (fun child => crates.unionChild array child.1) fun child member => by
        rw [← lawful.child same child member]
        exact lawful.cast_self _
    rw [children]
    exact lawful.union_self same
  next => exact lawful.cast_self array

/-- A column whose type is left alone is cast to its own type. -/
theorem castKept_of_untouched {field : Field} {column : κ} (typed : crates.dataType column = field.dataType)
    (free : field.dictionaryFree = true) (untouched : untouched field.dataType = true) :
    CastKept crates column (prepareFieldForFlight field).dataType := by
  apply (hydrate_iff_castKept typed free).mp
  rw [(prepareField_dataType_iff field).mpr untouched, ← typed]
  exact ⟨column, hydrate_self lawful column, rfl⟩

theorem hydrated_type {array result : κ} {dataType : DataType} (passed : hydrateDictionary crates array dataType = .ok result) :
    crates.dataType result = dataType := by
  unfold hydrateDictionary at passed
  split at passed
  · obtain ⟨children, -, built⟩ := bind_eq_ok.mp passed
    exact lawful.union_type built
  · exact lawful.cast_type passed

/-- A field that must not be null has no nulls after a cast that keeps the values. -/
theorem hydrated_nulls {field : Field} {column result : κ} (required : field.nullable = false → crates.nullCount column = 0)
    (passed : hydrateDictionary crates column (prepareFieldForFlight field).dataType = .ok result)
    (same : crates.values result = crates.values column)
    (prepared : (prepareFieldForFlight field).nullable = false) : crates.nullCount result = 0 := by
  rcases nullable_of_prepared prepared with own | union
  · unfold hydrateDictionary at passed
    split at passed
    · obtain ⟨children, -, built⟩ := bind_eq_ok.mp passed
      apply lawful.union_nulls
      rw [lawful.union_type built]
      rfl
    · exact lawful.cast_nulls passed same (required own)
  · apply lawful.union_nulls
    rw [hydrated_type lawful passed]
    exact isUnion_prepared union

end Columns

section Batches

private theorem rows_eq_iff {left right : List κ} {schema other : Schema} {numRows : Nat} (length : left.length = right.length)
    (sized : ∀ column ∈ left, (crates.values column).length = numRows)
    (fits : ∀ column ∈ right, (crates.values column).length = numRows) :
    (ColumnBatch.mk schema left numRows).rows crates = (ColumnBatch.mk other right numRows).rows crates ↔
      List.Forall₂ (fun column result => crates.values result = crates.values column) right left := by
  rw [ColumnBatch.rows, ColumnBatch.rows, List.map_inj_left]
  constructor
  · intro rows
    refine List.forall₂_iff_get.mpr ⟨length.symm, fun position inside bound => ?_⟩
    refine List.ext_getElem? fun row => ?_
    by_cases below : row < numRows
    · have entry := congrArg (·[position]?) (rows row (List.mem_range.mpr below))
      simpa [inside, bound] using entry
    · rw [List.getElem?_eq_none (by rw [sized _ (List.get_mem ..)]; omega),
        List.getElem?_eq_none (by rw [fits _ (List.get_mem ..)]; omega)]
  · intro same row _
    refine List.ext_getElem? fun position => ?_
    rw [List.getElem?_map, List.getElem?_map]
    by_cases inside : position < right.length
    · have bound : position < left.length := length ▸ inside
      have equal : crates.values left[position] = crates.values right[position] :=
        (List.forall₂_iff_get.mp same).2 position inside bound
      rw [List.getElem?_eq_getElem inside, List.getElem?_eq_getElem bound, Option.map_some, Option.map_some, equal]
    · rw [List.getElem?_eq_none (Nat.le_of_not_lt inside), List.getElem?_eq_none (length ▸ Nat.le_of_not_lt inside)]

/-- The cast to the schema that is sent loses no row of the batch. -/
def Kept (crates : FlightCrates κ ν β) (schema : Schema) (batch : ColumnBatch κ) : Prop :=
  ∃ hydrated, hydrateDictionaries crates batch (prepareSchemaForFlight schema) = .ok hydrated ∧
    hydrated.rows crates = batch.rows crates

/-- Every column has a type that is left alone, or one from which Arrow casts it without
loss to the type that is sent. -/
def ColumnsPass (crates : FlightCrates κ ν β) (batch : ColumnBatch κ) : Prop :=
  ∀ column ∈ batch.schema.fields.zip batch.columns, untouched column.1.dataType = true ∨
    CastKept crates column.2 (prepareFieldForFlight column.1).dataType

private theorem hydrateDictionaries_prepared (batch : ColumnBatch κ) :
    hydrateDictionaries crates batch (prepareSchemaForFlight batch.schema) = (do
      let columns ← (batch.schema.fields.zip batch.columns).mapM fun column =>
        hydrateDictionary crates column.2 (prepareFieldForFlight column.1).dataType
      crates.tryNewBatch (prepareSchemaForFlight batch.schema) columns batch.numRows) := by
  rw [hydrateDictionaries, prepareSchema_fields, List.zip_map_left, List.mapM_map]
  rfl

section Built
variable (lawful : Lawful crates) {batch : ColumnBatch κ}
  (built : crates.tryNewBatch batch.schema batch.columns batch.numRows = .ok batch)
include lawful built

/-- The cast of the batch is the cast of its columns. -/
private theorem kept_iff_columns :
    Kept crates batch.schema batch ↔ ∀ column ∈ batch.schema.fields.zip batch.columns, ∃ result,
      hydrateDictionary crates column.2 (prepareFieldForFlight column.1).dataType = .ok result ∧
        crates.values result = crates.values column.2 := by
  obtain ⟨-, sized, typed⟩ := lawful.batch.mp built
  have fields : (batch.schema.fields.zip batch.columns).map Prod.fst = batch.schema.fields :=
    List.map_fst_zip typed.length_eq.le
  have columns : (batch.schema.fields.zip batch.columns).map Prod.snd = batch.columns :=
    List.map_snd_zip typed.length_eq.ge
  rw [← mapM_exists_iff, Kept, hydrateDictionaries_prepared]
  constructor
  · rintro ⟨hydrated, passed, same⟩
    obtain ⟨results, cast, made⟩ := bind_eq_ok.mp passed
    obtain ⟨rfl, fits, prepared⟩ := lawful.batch.mp made
    have length : results.length = batch.columns.length := by
      rw [← columns, List.length_map, (mapM_ok cast).length_eq]
    have values := (rows_eq_iff length fits sized).mp same
    rw [← columns, List.forall₂_map_left_iff] at values
    exact ⟨results, cast, values⟩
  · rintro ⟨results, cast, values⟩
    have length : results.length = batch.columns.length := by
      rw [← columns, List.length_map, values.length_eq]
    have onColumns : List.Forall₂ (fun column result => crates.values result = crates.values column) batch.columns results := by
      rw [← columns, List.forall₂_map_left_iff]
      exact values
    have fits : ∀ result ∈ results, (crates.values result).length = batch.numRows := by
      intro result member
      obtain ⟨position, bound, rfl⟩ := List.mem_iff_getElem.mp member
      have same := (List.forall₂_iff_get.mp onColumns).2 position (length ▸ bound) bound
      exact (congrArg List.length same).trans (sized _ (List.get_mem ..))
    have prepared : List.Forall₂ (fun field column => crates.dataType column = field.dataType ∧
        (field.nullable = false → crates.nullCount column = 0)) (prepareSchemaForFlight batch.schema).fields results := by
      rw [prepareSchema_fields]
      dsimp only
      rw [← fields, List.forall₂_map_left_iff, List.forall₂_map_left_iff]
      have own : ∀ column ∈ batch.schema.fields.zip batch.columns, crates.dataType column.2 = column.1.dataType ∧
          (column.1.nullable = false → crates.nullCount column.2 = 0) := fun column member => List.forall₂_zip typed member
      have cast := (List.forall₂_and_left _ _).mpr ⟨own, mapM_ok cast⟩
      exact cast.mp (fun column result held same =>
        ⟨hydrated_type lawful held.2, hydrated_nulls lawful held.1.2 held.2 same⟩) values
    refine ⟨_, bind_eq_ok.mpr ⟨results, cast, lawful.batch.mpr ⟨rfl, fits, prepared⟩⟩, ?_⟩
    exact (rows_eq_iff length fits sized).mpr onColumns

/-- A batch without dictionaries survives the cast if and only if its columns do. -/
theorem kept_iff (free : batch.schema.dictionaryFree = true) :
    Kept crates batch.schema batch ↔ ColumnsPass crates batch := by
  obtain ⟨-, sized, typed⟩ := lawful.batch.mp built
  rw [Schema.dictionaryFree, allDictionaryFree_iff] at free
  rw [kept_iff_columns lawful built]
  refine forall₂_congr fun column member => ?_
  have own := (List.forall₂_zip typed member).1
  have plain := free column.1 (List.of_mem_zip member).1
  rw [hydrate_iff_castKept own plain]
  exact ⟨.inr, fun passes => passes.elim (castKept_of_untouched lawful own plain) id⟩

end Built

end Batches

end DatafusionRay.Proofs.FlightTransport
