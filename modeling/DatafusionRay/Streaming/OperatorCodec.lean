import DatafusionRay.Foundation.ThreadLocal
import DatafusionRay.Streaming.Operator

/-! How operator trees are written and read back. An expression can only be read with
the schema of its input, and the schema stands in another part of the same exchange
operator: decoding hands it over in the storage of the thread. -/

namespace DatafusionRay.Streaming
open Foundation

namespace OperatorCodec

/-- What the reader of the byte format finds. A leaf has no parts that are read one by
one; a type error shows it by a text. -/
inductive Value where
  | null
  | leaf (unexpected : String) (bytes : List UInt8)
  | seq (elements : List Value)
  | map (entries : List (String × Value))

namespace Value

def unexpected : Value → String
  | null => "unit value"
  | leaf shown _ => shown
  | seq _ => "sequence"
  | map _ => "map"

/-- The parts of a value. -/
abbrev Below (value : Value) := { child : Value // sizeOf child < sizeOf value }

def elementsBelow (elements : List Value) : List (Below (seq elements)) :=
  elements.attach.map fun element => ⟨element.1, by
    have smaller := List.sizeOf_lt_of_mem element.2
    simp only [seq.sizeOf_spec]
    omega⟩

def entriesBelow (entries : List (String × Value)) : List (String × Below (map entries)) :=
  entries.attach.map fun entry => (entry.1.1, ⟨entry.1.2, by
    have smaller := List.sizeOf_lt_of_mem entry.2
    have part : sizeOf entry.1 = 1 + sizeOf entry.1.1 + sizeOf entry.1.2 := by
      obtain ⟨⟨name, value⟩, _⟩ := entry
      rfl
    simp only [map.sizeOf_spec]
    omega⟩)

end Value

/-- A panic of a crate unwinds through the decoder like an error. -/
inductive DecodeError where
  | serde (message : String)
  | panicked (message : String)
  deriving DecidableEq, Repr

namespace DecodeError

def invalidLength (length : Nat) (expecting : String) : DecodeError :=
  serde s!"invalid length {length}, expected {expecting}"

def invalidType (value : Value) (expecting : String) : DecodeError :=
  let unexpected := value.unexpected
  serde s!"invalid type: {unexpected}, expected {expecting}"

/-- The text is followed by that of the error. -/
def ofFailure (text : String) : Failure → DecodeError
  | .error error => serde (text ++ error.display)
  | .panicked message => panicked message

end DecodeError

/-- A type whose values contain no expressions, written and read without the context. -/
structure Plain (α : Type) where
  serialize : α → Except String Value
  deserialize : Value → Except DecodeError α
  roundTrip : ∀ item value, serialize item = .ok value → deserialize value = .ok item

/-- What comes from other crates: the byte format, the protobuf messages of schemas and
expressions, and the derived code of the types without expressions. -/
structure Crates (Schema ProtoSchema Expr Node Source : Type) where
  text : Plain String
  bytes : Plain (List UInt8)
  buffers : Plain (List (List UInt8))
  inputs : Plain (List OperatorInput)
  outputs : Plain (List OperatorOutput)
  ports : Plain (List (Nat × String))
  identity : Plain Unit
  source : Plain Source
  countStar : Plain Unit
  countByKey : Plain String
  remoteSource : Plain (List String)
  notVariant : Value → DecodeError
  schemaToProto : Schema → Except String ProtoSchema
  encodeSchema : ProtoSchema → List UInt8
  decodeSchema : List UInt8 → Except String ProtoSchema
  schemaFromProto : ProtoSchema → Except String Schema
  serializePhysicalExprs : List Expr → Except String (List Node)
  encodeNode : Node → List UInt8
  decodeNode : List UInt8 → Except String Node
  parsePhysicalExprs : List Node → Schema → Except Failure (List Expr)

/-- The storage of a thread. The calls of `parse_physical_exprs` are noted down with the
schema each was given. -/
structure Thread (Schema Node : Type) where
  inputSchemaContext : Option Schema
  parsed : List (Schema × List Node)
  deriving DecidableEq, Repr

variable {Schema ProtoSchema Expr Node Source : Type}

abbrev Decode (Schema Node α : Type) := Threaded (Thread Schema Node) DecodeError α

namespace Thread

def setContext (schema : Schema) (thread : Thread Schema Node) : Except DataFusionError (Thread Schema Node) :=
  if thread.inputSchemaContext.isSome then .error (.internal "Input schema already set in this thread")
  else .ok { thread with inputSchemaContext := some schema }

/-- `drop` of a `ContextGuard`. -/
def dropGuard (thread : Thread Schema Node) : Thread Schema Node := { thread with inputSchemaContext := none }

def getContext (thread : Thread Schema Node) : Except DataFusionError Schema :=
  match thread.inputSchemaContext with
  | some schema => .ok schema
  | none => .error (.internal "No input schema set in this thread")

end Thread

section Readers

def readPlain {α : Type} (plain : Plain α) (value : Value) : Decode Schema Node α :=
  .ofExcept (plain.deserialize value)

/-- A field of a struct, which may not be there twice. -/
def readField {α : Type} (name : String) (slot : Option α) (read : Decode Schema Node α) :
    Decode Schema Node (Option α) := do
  if slot.isSome then throw (.serde s!"duplicate field `{name}`")
  return some (← read)

@[simp] theorem readField_none {α : Type} (name : String) (read : Decode Schema Node α) :
    readField name none read = some <$> read := by
  rw [readField, if_neg (by simp), bind_pure_comp]

/-- Visits the fields of a struct: a map gives their names, a sequence has them in the
order of their declaration. -/
def visitStruct {π : Type} (expecting : String) (names : List String) (value : Value) (first : π)
    (visit : π → String → value.Below → Decode Schema Node π) : Decode Schema Node π :=
  match value with
  | .map entries => (Value.entriesBelow entries).foldlM (fun fields entry => visit fields entry.1 entry.2) first
  | .seq elements =>
    (names.zip (Value.elementsBelow elements)).foldlM (fun fields entry => visit fields entry.1 entry.2) first
  | other => throw (.invalidType other expecting)

/-- A field that was not visited. -/
def requireField {α : Type} (expecting : String) (value : Value) (name : String) :
    Option α → Decode Schema Node α
  | some field => pure field
  | none =>
    match value with
    | .seq elements => throw (.invalidLength elements.length expecting)
    | _ => throw (.serde s!"missing field `{name}`")

@[simp] theorem requireField_some {α : Type} (expecting : String) (value : Value) (name : String) (field : α) :
    (requireField expecting value name (some field) : Decode Schema Node α) = pure field := rfl

def visitVec {α : Type} (value : Value) (read : value.Below → Decode Schema Node α) : Decode Schema Node (List α) :=
  match value with
  | .seq elements => (Value.elementsBelow elements).mapM read
  | other => throw (.invalidType other "a sequence")

/-- The next element of a sequence, which has to be there. -/
def nextElement {α : Type} (elements : List Value) (index : Nat) (expecting : String)
    (read : Value → Decode Schema Node α) : Decode Schema Node α :=
  match elements[index]? with
  | some element => read element
  | none => throw (.invalidLength index expecting)

end Readers

end OperatorCodec

open OperatorCodec

variable {Schema ProtoSchema Expr Node Source : Type}

section Serialize
variable (crates : Crates Schema ProtoSchema Expr Node Source)

def serializeSchema (schema : Schema) : Except String Value := do
  let protoSchema ← (crates.schemaToProto schema).mapError fun error => s!"Failed to convert schema: {error}"
  crates.bytes.serialize (crates.encodeSchema protoSchema)

def serializePhysicalExprRefs (expressions : List Expr) : Except String Value := do
  let protoExpressions ← (crates.serializePhysicalExprs expressions).mapError fun error =>
    s!"Failed to encode PhysicalExprNode: {error}"
  crates.buffers.serialize (protoExpressions.map crates.encodeNode)

def PartitioningSpec.serialize (partitioning : PartitioningSpec Expr) : Except String Value := do
  let expressions ← serializePhysicalExprRefs crates partitioning.expressions
  return .map [("expressions", expressions)]

def serializePartitioning : Option (PartitioningSpec Expr) → Except String Value
  | none => .ok .null
  | some partitioning => partitioning.serialize crates

/-- The operator as a pair: its stream and schema, and then what is read with the schema. -/
def RemoteExchangeOperator.serialize (operator : RemoteExchangeOperator Schema Expr) : Except String Value := do
  let outputStreamId ← crates.text.serialize operator.outputStreamId
  let schema ← serializeSchema crates operator.schema
  let partitioning ← serializePartitioning crates operator.partitioning
  return .seq [.map [("output_stream_id", outputStreamId), ("schema", schema)], .map [("partitioning", partitioning)]]

mutual

/-- The maps of the format are sorted by key. -/
def OperatorDefinition.serialize : SentOperator Schema Expr Source → Except String Value
  | .mk id stateId spec inputs outputs => do
    let id ← crates.text.serialize id
    let stateId ← crates.text.serialize stateId
    let spec ← spec.serialize
    let inputs ← crates.inputs.serialize inputs
    let outputs ← crates.outputs.serialize outputs
    return .map [("id", id), ("inputs", inputs), ("outputs", outputs), ("spec", spec), ("state_id", stateId)]

def OperatorSpec.serialize :
    SentSpec Schema Expr Source → Except String Value
  | .identity => do return .map [("Identity", ← crates.identity.serialize ())]
  | .source operator => do return .map [("Source", ← crates.source.serialize operator)]
  | .countStar => do return .map [("CountStar", ← crates.countStar.serialize ())]
  | .countByKey keyCol => do return .map [("CountByKey", ← crates.countByKey.serialize keyCol)]
  | .nested operator => do return .map [("Nested", ← operator.serialize)]
  | .remoteExchangeOutput operator => do return .map [("RemoteExchangeOutput", ← operator.serialize crates)]
  | .remoteExchangeInput streamIds => do return .map [("RemoteExchangeInput", ← crates.remoteSource.serialize streamIds)]

def NestedOperator.serialize : NestedOperator (SentOperator Schema Expr Source) → Except String Value
  | ⟨inputs, operators, outputs⟩ => do
    let inputs ← crates.ports.serialize inputs
    let operators ← serializeOperators operators
    let outputs ← crates.ports.serialize outputs
    return .map [("inputs", inputs), ("operators", .seq operators), ("outputs", outputs)]

def serializeOperators : List (SentOperator Schema Expr Source) → Except String (List Value)
  | [] => .ok []
  | operator :: rest => do
    let operator ← operator.serialize
    let rest ← serializeOperators rest
    return operator :: rest

end

end Serialize

section Deserialize
variable (crates : Crates Schema ProtoSchema Expr Node Source)

def deserializeSchema (value : Value) : Decode Schema Node Schema := do
  let bytes ← readPlain crates.bytes value
  let protoSchema ← .ofExcept ((crates.decodeSchema bytes).mapError fun error =>
    .serde s!"Failed to decode schema: {error}")
  .ofExcept ((crates.schemaFromProto protoSchema).mapError fun error => .serde s!"Failed to convert schema: {error}")

def deserializeWithInputSchema (inputSchema : Schema) (value : Value) : Decode Schema Node (List Expr) := do
  let buffers ← readPlain crates.buffers value
  let protoExpressions ← .ofExcept ((buffers.mapM crates.decodeNode).mapError fun error =>
    .serde s!"Failed to decode PhysicalExprNode: {error}")
  modify fun thread => { thread with parsed := thread.parsed ++ [(inputSchema, protoExpressions)] }
  .ofExcept ((crates.parsePhysicalExprs protoExpressions inputSchema).mapError
    (.ofFailure "Failed to parse PhysicalExprNode: "))

/-- `physical_expr_refs::deserialize`. -/
def deserializePhysicalExprRefs (value : Value) : Decode Schema Node (List Expr) := do
  let thread ← get
  let inputSchema ← .ofExcept (thread.getContext.mapError fun error =>
    .ofFailure "Failed to get input schema: " (.error error))
  deserializeWithInputSchema crates inputSchema value

def PartitioningSpec.deserialize (value : Value) : Decode Schema Node (PartitioningSpec Expr) := do
  let expressions ← visitStruct "struct PartitioningSpec" ["expressions"] value none fun expressions name child =>
    match name with
    | "expressions" => readField name expressions (deserializePhysicalExprRefs crates child.1)
    | _ => pure expressions
  let expressions ← requireField "struct PartitioningSpec with 1 element" value "expressions" expressions
  return ⟨expressions⟩

structure InitialDeserialization (Schema : Type) where
  outputStreamId : String
  schema : Schema

def InitialDeserialization.deserialize (value : Value) : Decode Schema Node (InitialDeserialization Schema) := do
  let (outputStreamId, schema) ← visitStruct "struct InitialDeserialization" ["output_stream_id", "schema"] value
    (none, none) fun (outputStreamId, schema) name child =>
      match name with
      | "output_stream_id" => do
        return (← readField name outputStreamId (readPlain crates.text child.1), schema)
      | "schema" => do return (outputStreamId, ← readField name schema (deserializeSchema crates child.1))
      | _ => pure (outputStreamId, schema)
  let expecting := "struct InitialDeserialization with 2 elements"
  let outputStreamId ← requireField expecting value "output_stream_id" outputStreamId
  let schema ← requireField expecting value "schema" schema
  return ⟨outputStreamId, schema⟩

/-- An optional field that is missing in a map is read as none. -/
def deserializeContent (value : Value) : Decode Schema Node (Option (PartitioningSpec Expr)) := do
  let partitioning ← visitStruct "struct ContentDeserialization" ["partitioning"] value none fun partitioning name child =>
    match name with
    | "partitioning" => readField name partitioning (match child.1 with
      | .null => pure none
      | other => some <$> PartitioningSpec.deserialize crates other)
    | _ => pure partitioning
  match value with
  | .map _ => return partitioning.getD none
  | _ => requireField "struct ContentDeserialization with 1 element" value "partitioning" partitioning

/-- `RemoteExchangeOperatorVisitor::visit_seq`. The guard lives from the moment the
context is set to the end of the block that reads the second element. -/
def RemoteExchangeOperator.visitSeq (elements : List Value) : Decode Schema Node (RemoteExchangeOperator Schema Expr) := do
  let pre ← nextElement elements 0 "RemoteExchangeOperator" (InitialDeserialization.deserialize crates)
  let thread ← get
  let entered ← .ofExcept ((thread.setContext pre.schema).mapError fun _ =>
    .serde "Failed to set context for deserialization")
  set entered
  let partitioning ← Threaded.releasing Thread.dropGuard
    (nextElement elements 1 "RemoteExchangeOperator" (deserializeContent crates))
  return ⟨pre.outputStreamId, pre.schema, partitioning⟩

def RemoteExchangeOperator.deserialize (value : Value) : Decode Schema Node (RemoteExchangeOperator Schema Expr) :=
  match value with
  | .seq elements => RemoteExchangeOperator.visitSeq crates elements
  | other => throw (.invalidType other "RemoteExchangeOperator")

structure OperatorDefinitionFields (Schema Expr Source : Type) where
  id : Option String := none
  stateId : Option String := none
  spec : Option (SentSpec Schema Expr Source) := none
  inputs : Option (List OperatorInput) := none
  outputs : Option (List OperatorOutput) := none

structure NestedOperatorFields (δ : Type) where
  inputs : Option (List (Nat × String)) := none
  operators : Option (List δ) := none
  outputs : Option (List (Nat × String)) := none

mutual

def OperatorDefinition.deserialize (value : Value) : Decode Schema Node (SentOperator Schema Expr Source) := do
  let fields ← visitStruct "struct OperatorDefinition" ["id", "state_id", "spec", "inputs", "outputs"] value
    ({} : OperatorDefinitionFields Schema Expr Source) fun fields name child =>
      match name with
      | "id" => do return { fields with id := ← readField name fields.id (readPlain crates.text child.1) }
      | "state_id" => do return { fields with stateId := ← readField name fields.stateId (readPlain crates.text child.1) }
      | "spec" => do return { fields with spec := ← readField name fields.spec (OperatorSpec.deserialize child.1) }
      | "inputs" => do return { fields with inputs := ← readField name fields.inputs (readPlain crates.inputs child.1) }
      | "outputs" => do
        return { fields with outputs := ← readField name fields.outputs (readPlain crates.outputs child.1) }
      | _ => pure fields
  let expecting := "struct OperatorDefinition with 5 elements"
  let id ← requireField expecting value "id" fields.id
  let stateId ← requireField expecting value "state_id" fields.stateId
  let spec ← requireField expecting value "spec" fields.spec
  let inputs ← requireField expecting value "inputs" fields.inputs
  let outputs ← requireField expecting value "outputs" fields.outputs
  return .mk id stateId spec inputs outputs
termination_by sizeOf value
decreasing_by exact child.2

/-- The first entry of a map is the variant and its content. -/
def OperatorSpec.deserialize (value : Value) :
    Decode Schema Node (SentSpec Schema Expr Source) :=
  match value with
  | .map ((variant, content) :: _) =>
    match variant with
    | "Identity" => do
      readPlain crates.identity content
      return .identity
    | "Source" => do return .source (← readPlain crates.source content)
    | "CountStar" => do
      readPlain crates.countStar content
      return .countStar
    | "CountByKey" => do return .countByKey (← readPlain crates.countByKey content)
    | "Nested" => do return .nested (← NestedOperator.deserialize content)
    | "RemoteExchangeOutput" => do return .remoteExchangeOutput (← RemoteExchangeOperator.deserialize crates content)
    | "RemoteExchangeInput" => do return .remoteExchangeInput (← readPlain crates.remoteSource content)
    | other => throw (.serde (s!"unknown variant `{other}`, expected one of `Identity`, `Source`, `CountStar`, " ++
        "`CountByKey`, `Nested`, `RemoteExchangeOutput`, `RemoteExchangeInput`"))
  | other => throw (crates.notVariant other)
termination_by sizeOf value

def NestedOperator.deserialize (value : Value) :
    Decode Schema Node (NestedOperator (SentOperator Schema Expr Source)) := do
  let fields ← visitStruct "struct NestedOperator" ["inputs", "operators", "outputs"] value
    ({} : NestedOperatorFields (SentOperator Schema Expr Source)) fun fields name child =>
      match name with
      | "inputs" => do return { fields with inputs := ← readField name fields.inputs (readPlain crates.ports child.1) }
      | "operators" => do
        return { fields with
          operators := ← readField name fields.operators
            (visitVec child.1 fun element => OperatorDefinition.deserialize element.1) }
      | "outputs" => do return { fields with outputs := ← readField name fields.outputs (readPlain crates.ports child.1) }
      | _ => pure fields
  let expecting := "struct NestedOperator with 3 elements"
  let inputs ← requireField expecting value "inputs" fields.inputs
  let operators ← requireField expecting value "operators" fields.operators
  let outputs ← requireField expecting value "outputs" fields.outputs
  return ⟨inputs, operators, outputs⟩
termination_by sizeOf value
decreasing_by exact Nat.lt_trans element.2 child.2

end

end Deserialize

end DatafusionRay.Streaming
