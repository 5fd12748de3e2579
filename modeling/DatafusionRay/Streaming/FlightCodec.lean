import DatafusionRay.Foundation.TryFilterMap
import DatafusionRay.Streaming.FlightSchema
import DatafusionRay.Streaming.Item

/-! Stream items on their way through Arrow Flight. The encoder splits a batch into
messages that it queues, puts the schema in front of the first one, and answers a
marker at once with a message that has nothing but metadata. -/

namespace DatafusionRay.Streaming
open Foundation

/-- A batch as Arrow has it, over a type of columns. -/
structure ColumnBatch (κ : Type) where
  schema : Schema
  columns : List κ
  numRows : Nat

inductive ColumnItem (κ : Type) where
  | marker (marker : Marker)
  | recordBatch (batch : ColumnBatch κ)

/-- The header and the body are one encoded message here. -/
structure FlightData (β : Type) where
  message : β
  appMetadata : List UInt8

inductive FlightError where
  | arrow (error : String)
  | notYetImplemented (message : String)
  | tonic (status : String)
  | protocolError (message : String)
  | decodeError (message : String)
  | externalError (error : String)
  deriving DecidableEq, Repr

def FlightError.display : FlightError → String
  | .arrow error => s!"Arrow error: {error}"
  | .notYetImplemented message => s!"Not yet implemented: {message}"
  | .tonic status => s!"Tonic error: {status}"
  | .protocolError message => s!"Protocol error: {message}"
  | .decodeError message => s!"Decode error: {message}"
  | .externalError error => s!"External error: {error}"

inductive DecodedPayload (κ : Type) where
  | none
  | schema (schema : Schema)
  | recordBatch (batch : ColumnBatch κ)

/-- What the source calls in the crates for Arrow, Flight and Protobuf, over columns
`κ` with values `ν` and encoded messages `β`. -/
structure FlightCrates (κ ν β : Type) where
  dataType : κ → DataType
  values : κ → List ν
  nullCount : κ → Nat
  getBufferMemorySize : κ → Nat
  slice : κ → Nat → Nat → κ
  cast : κ → DataType → Except String κ
  unionChild : κ → Int → κ
  /-- `UnionArray::try_new` with the type ids of a column, and without offsets. -/
  newSparseUnion : List Int → List Field → κ → List κ → Except String κ
  tryNewBatch : Schema → List κ → Nat → Except String (ColumnBatch κ)
  encodeSchema : Schema → β
  /-- The messages of the dictionaries, and the one of the batch. -/
  encodedBatch : ColumnBatch κ → Except String (List β × β)
  /-- A message whose header type is `NONE`. -/
  emptyMessage : β
  /-- What a decoder makes of a message after the last schema it has seen; a dictionary has no payload. -/
  extractMessage : Option Schema → β → Except FlightError (Option Schema × Option (DecodedPayload κ))
  markerToBytes : Nat → List UInt8
  markerFromBytes : List UInt8 → Except String Nat
  showStatus : String → String

variable {κ ν β : Type}

namespace ColumnBatch

def slice (crates : FlightCrates κ ν β) (batch : ColumnBatch κ) (offset length : Nat) : ColumnBatch κ :=
  ⟨batch.schema, batch.columns.map fun column => crates.slice column offset length, length⟩

def rows (crates : FlightCrates κ ν β) (batch : ColumnBatch κ) : List (List (Option ν)) :=
  (List.range batch.numRows).map fun row => batch.columns.map fun column => (crates.values column)[row]?

end ColumnBatch

def ColumnItem.rows (crates : FlightCrates κ ν β) : ColumnItem κ → StreamItem (List (Option ν))
  | .marker cut => .marker cut
  | .recordBatch batch => .recordBatch ⟨batch.rows crates⟩

/-- The loop of `split_batch_for_grpc_response`. -/
def splitFrom (crates : FlightCrates κ ν β) (batch : ColumnBatch κ) (rowsPerBatch : Nat) (positive : 0 < rowsPerBatch)
    (offset : Nat) : List (ColumnBatch κ) :=
  if offset < batch.numRows then
    let length := min rowsPerBatch (batch.numRows - offset)
    batch.slice crates offset length :: splitFrom crates batch rowsPerBatch positive (offset + length)
  else []
termination_by batch.numRows - offset

def splitBatchForGrpcResponse (crates : FlightCrates κ ν β) (batch : ColumnBatch κ) (maxFlightDataSize : Nat) :
    List (ColumnBatch κ) :=
  let size := (batch.columns.map crates.getBufferMemorySize).sum
  let nBatches := max (size / maxFlightDataSize + if size % maxFlightDataSize ≠ 0 then 1 else 0) 1
  splitFrom crates batch (max (batch.numRows / nBatches) 1) (Nat.lt_of_lt_of_le Nat.zero_lt_one (Nat.le_max_right _ _)) 0

def hydrateDictionary (crates : FlightCrates κ ν β) (array : κ) (dataType : DataType) : Except String κ :=
  match crates.dataType array, dataType with
  | .union _ _ .sparse, .union typeIds fields .sparse => do
    let children ← (typeIds.zip fields).mapM fun child => crates.cast (crates.unionChild array child.1) child.2.dataType
    crates.newSparseUnion typeIds fields array children
  | _, dataType => crates.cast array dataType

def hydrateDictionaries (crates : FlightCrates κ ν β) (batch : ColumnBatch κ) (schema : Schema) :
    Except String (ColumnBatch κ) := do
  let columns ← (schema.fields.zip batch.columns).mapM fun column => hydrateDictionary crates column.2 column.1.dataType
  crates.tryNewBatch schema columns batch.numRows

inductive FlightDataItem (κ : Type) where
  | recordBatch (batch : ColumnBatch κ)
  | appMetadata (bytes : List UInt8)

/-- An encoder that hydrates dictionaries and has no descriptor to send. -/
structure FlightDataEncoder (κ β : Type) where
  inner : List (Except FlightError (FlightDataItem κ))
  schema : Option Schema
  maxFlightDataSize : Nat
  appMetadata : Option (List UInt8)
  queue : List (FlightData β)
  done : Bool

namespace FlightDataEncoder

def build (input : List (Except FlightError (FlightDataItem κ))) : FlightDataEncoder κ β :=
  ⟨input, none, 2097152, some [], [], false⟩

def encodeSchema (crates : FlightCrates κ ν β) (encoder : FlightDataEncoder κ β) (schema : Schema) :
    FlightDataEncoder κ β × Schema :=
  let prepared := prepareSchemaForFlight schema
  let data : FlightData β := ⟨crates.encodeSchema prepared, encoder.appMetadata.getD []⟩
  ({ encoder with schema := some prepared, appMetadata := none, queue := encoder.queue ++ [data] }, prepared)

def encodePart (crates : FlightCrates κ ν β) (batch : ColumnBatch κ) : Except FlightError (List (FlightData β)) := do
  let (dictionaries, message) ← (crates.encodedBatch batch).mapError .arrow
  return (dictionaries ++ [message]).map fun message => ⟨message, []⟩

def encodeBatch (crates : FlightCrates κ ν β) (encoder : FlightDataEncoder κ β) (batch : ColumnBatch κ) :
    Except FlightError (FlightDataEncoder κ β) := do
  let (encoder, schema) :=
    match encoder.schema with
    | some schema => (encoder, schema)
    | none => encoder.encodeSchema crates batch.schema
  let batch ← (hydrateDictionaries crates batch schema).mapError .arrow
  let messages ← (splitBatchForGrpcResponse crates batch encoder.maxFlightDataSize).mapM (encodePart crates)
  return { encoder with queue := encoder.queue ++ messages.flatten }

/-- The loop of `poll_next`, over the items that are still to come. -/
def pollItems (crates : FlightCrates κ ν β) :
    List (Except FlightError (FlightDataItem κ)) → FlightDataEncoder κ β →
      Option (Except FlightError (FlightData β)) × FlightDataEncoder κ β
  | items, encoder =>
    match encoder.queue with
    | data :: queue => (some (.ok data), { encoder with inner := items, queue })
    | [] =>
      if encoder.done then (none, { encoder with inner := items })
      else
        match items with
        | [] => (none, { encoder with inner := [], done := true })
        | .error error :: rest => (some (.error error), { encoder with inner := rest, done := true, queue := [] })
        | .ok (.recordBatch batch) :: rest =>
          match { encoder with inner := rest }.encodeBatch crates batch with
          -- The failed call may have set the schema; no later answer looks at it.
          | .error error => (some (.error error), { encoder with inner := rest, done := true, queue := [] })
          | .ok encoded => pollItems crates rest encoded
        | .ok (.appMetadata bytes) :: rest => (some (.ok ⟨crates.emptyMessage, bytes⟩), { encoder with inner := rest })

def pollNext (crates : FlightCrates κ ν β) (encoder : FlightDataEncoder κ β) :
    Option (Except FlightError (FlightData β)) × FlightDataEncoder κ β :=
  pollItems crates encoder.inner encoder

section Answers
variable {crates : FlightCrates κ ν β} {encoder : FlightDataEncoder κ β}

theorem pollNext_queue {data : FlightData β} {queue : List (FlightData β)} (queued : encoder.queue = data :: queue) :
    pollNext crates encoder = (some (.ok data), { encoder with queue }) := by
  rw [pollNext, pollItems.eq_def]
  simp only [queued]

theorem pollNext_done (empty : encoder.queue = []) (done : encoder.done = true) :
    pollNext crates encoder = (none, encoder) := by
  cases encoder
  cases empty
  cases done
  rw [pollNext, pollItems.eq_def]
  rfl

variable {batch : ColumnBatch κ} {rest : List (Except FlightError (FlightDataItem κ))}

theorem pollNext_failed (empty : encoder.queue = []) (going : encoder.done = false)
    (next : encoder.inner = .ok (.recordBatch batch) :: rest) {error : FlightError}
    (failed : encodeBatch crates { encoder with inner := rest } batch = .error error) :
    pollNext crates encoder = (some (.error error), { encoder with inner := rest, done := true, queue := [] }) := by
  simp only [empty, going] at failed
  rw [pollNext, pollItems.eq_def, next]
  simp only [empty, going, failed, Bool.false_eq_true, if_false]

theorem pollNext_encoded (empty : encoder.queue = []) (going : encoder.done = false)
    (next : encoder.inner = .ok (.recordBatch batch) :: rest) {encoded : FlightDataEncoder κ β}
    (passed : encodeBatch crates { encoder with inner := rest } batch = .ok encoded) (same : encoded.inner = rest) :
    pollNext crates encoder = pollNext crates encoded := by
  simp only [empty, going] at passed
  rw [pollNext, pollItems.eq_def, next]
  simp only [empty, going, passed, Bool.false_eq_true, if_false]
  rw [pollNext, same]

end Answers

end FlightDataEncoder

def encodeStreamToFlight (crates : FlightCrates κ ν β) (stream : List (Except DataFusionError (ColumnItem κ))) :
    FlightDataEncoder κ β :=
  .build (stream.map fun result =>
    match result with
    | .ok (.recordBatch batch) => .ok (.recordBatch batch)
    | .ok (.marker marker) => .ok (.appMetadata (crates.markerToBytes marker.checkpointNumber))
    | .error error => .error (.externalError error.display))

/-- What a client gets for an answer of the encoder: an error travels as a status. -/
def overTheWire (crates : FlightCrates κ ν β) (answer : Except FlightError (FlightData β)) :
    Except FlightError (FlightData β) :=
  answer.mapError fun error =>
    let shown := error.display
    .tonic (crates.showStatus s!"Error encoding flight data: {shown}")

def ofFlightError : FlightError → DataFusionError
  | .arrow error => .arrowError error
  | .notYetImplemented _ => .internal "Not yet implemented"
  | .tonic status => .internal s!"Tonic error {status}"
  | .protocolError message => .internal s!"Protocol error: {message}"
  | .decodeError message => .internal s!"Decode error: {message}"
  | .externalError error => .internal s!"External error: {error}"

def decodeMessage (crates : FlightCrates κ ν β) (schema : Option Schema) (data : FlightData β) :
    Option Schema × Except DataFusionError (Option (ColumnItem κ)) :=
  match crates.extractMessage schema data.message with
  | .error error => (schema, .error (ofFlightError error))
  | .ok (schema, none) => (schema, .ok none)
  | .ok (schema, some (.recordBatch batch)) => (schema, .ok (some (.recordBatch batch)))
  | .ok (schema, some (.schema _)) => (schema, .ok none)
  | .ok (schema, some .none) =>
    match crates.markerFromBytes data.appMetadata with
    | .ok checkpointNumber => (schema, .ok (some (.marker ⟨checkpointNumber⟩)))
    | .error error => (schema, .error (.internal s!"Error decoding marker: {error}"))

def decodeFlightToStream (crates : FlightCrates κ ν β) (flightStream : List (Except FlightError (FlightData β))) :
    List (Except DataFusionError (ColumnItem κ)) :=
  (tryFilterMap (decodeMessage crates) none (flightStream.map (Except.mapError ofFlightError))).2

end DatafusionRay.Streaming
