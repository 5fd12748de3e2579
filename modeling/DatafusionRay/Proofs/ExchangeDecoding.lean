import DatafusionRay.Foundation.TryFilterMap
import DatafusionRay.Streaming.OperatorCodec

/-! Decoding operator trees on one thread. Each exchange operator sets the context for its
own expressions and its guard clears it again, so the exchanges of a tree never see each
other's schema, and no error leaves a schema behind. -/

namespace DatafusionRay.Proofs.ExchangeDecoding
open Streaming OperatorCodec OperatorDefinition Foundation Threaded

variable {Schema ProtoSchema Expr Node Source : Type} {α : Type}

/-- The input-schema context is not set. -/
def Unset (thread : Thread Schema Node) : Prop := thread.inputSchemaContext = none

section Context
variable (crates : Crates Schema ProtoSchema Expr Node Source)

private theorem keeps_readPlain (plain : Plain α) (value : Value) :
    Keeps Unset (readPlain plain value : Decode Schema Node α) := keeps_ofExcept _

private theorem keeps_readField {read : Decode Schema Node α} (kept : Keeps Unset read) (name : String)
    (slot : Option α) : Keeps Unset (readField name slot read) := by
  rw [readField]
  split
  · exact (keeps_throw _).bind fun _ => kept.bind fun _ => keeps_pure _
  · exact kept.bind fun _ => keeps_pure _

private theorem keeps_visitStruct {π : Type} {expecting : String} {names : List String} {value : Value} {first : π}
    {visit : π → String → value.Below → Decode Schema Node π}
    (each : ∀ fields name child, Keeps Unset (visit fields name child)) :
    Keeps Unset (visitStruct expecting names value first visit) := by
  cases value with
  | map entries => exact Keeps.foldlM (fun entry _ fields => each fields entry.1 entry.2) first
  | seq elements => exact Keeps.foldlM (fun entry _ fields => each fields entry.1 entry.2) first
  | null => exact keeps_throw _
  | leaf shown bytes => exact keeps_throw _

private theorem keeps_requireField (expecting : String) (value : Value) (name : String) (slot : Option α) :
    Keeps Unset (requireField expecting value name slot : Decode Schema Node α) := by
  cases slot with
  | some field => exact keeps_pure _
  | none =>
    cases value with
    | seq elements => exact keeps_throw _
    | null | leaf | map => exact keeps_throw _

private theorem keeps_visitVec {value : Value} {read : value.Below → Decode Schema Node α}
    (each : ∀ child, Keeps Unset (read child)) : Keeps Unset (visitVec value read) := by
  cases value with
  | seq elements => exact Keeps.mapM fun child _ => each child
  | null | leaf | map => exact keeps_throw _

private theorem keeps_nextElement (elements : List Value) (index : Nat) (expecting : String)
    {read : Value → Decode Schema Node α} (each : ∀ value, Keeps Unset (read value)) :
    Keeps Unset (nextElement elements index expecting read) := by
  rw [nextElement]
  cases elements[index]? with
  | some element => exact each element
  | none => exact keeps_throw _

private theorem keeps_deserializeSchema (value : Value) : Keeps Unset (deserializeSchema crates value) := by
  rw [deserializeSchema]
  refine (keeps_readPlain crates.bytes value).bind fun bytes => ?_
  exact Keeps.bind (keeps_ofExcept _) fun protoSchema => keeps_ofExcept _

private theorem keeps_initial (value : Value) : Keeps Unset (InitialDeserialization.deserialize crates value) := by
  rw [InitialDeserialization.deserialize]
  refine Keeps.bind (keeps_visitStruct fun fields name child => ?_) fun fields => ?_
  · dsimp only
    split
    · refine Keeps.bind (keeps_readField ?_ _ _) fun _ => keeps_pure _
      exact keeps_readPlain crates.text child.1
    · refine Keeps.bind (keeps_readField ?_ _ _) fun _ => keeps_pure _
      exact keeps_deserializeSchema crates child.1
    · exact keeps_pure _
  · refine Keeps.bind (keeps_requireField _ _ _ _) fun outputStreamId => ?_
    exact Keeps.bind (keeps_requireField _ _ _ _) fun schema => keeps_pure _

/-- Between setting the context and the end of the guard nothing has to be kept. -/
private theorem keeps_visitSeq (elements : List Value) :
    Keeps Unset (RemoteExchangeOperator.visitSeq crates elements) := by
  rw [RemoteExchangeOperator.visitSeq]
  have pre := keeps_nextElement elements 0 "RemoteExchangeOperator" (keeps_initial crates)
  refine pre.bind fun pre => ?_
  apply keeps_scope
  · intro thread
    rfl
  · intro partitioning
    exact keeps_pure _

private theorem keeps_exchange (value : Value) : Keeps Unset (RemoteExchangeOperator.deserialize crates value) := by
  cases value with
  | seq elements => exact keeps_visitSeq crates elements
  | null | leaf | map => exact keeps_throw _

/-- The three decoders of a tree call each other on the parts of a value, so the induction
is on its size. -/
private theorem keeps_tree (size : Nat) : ∀ value, sizeOf value < size →
    Keeps Unset (OperatorDefinition.deserialize crates value) ∧ Keeps Unset (OperatorSpec.deserialize crates value) ∧
      Keeps Unset (NestedOperator.deserialize crates value) := by
  induction size with
  | zero => exact fun value small => absurd small (Nat.not_lt_zero _)
  | succ size ih =>
    intro value small
    have below : ∀ child : value.Below, sizeOf child.1 < size := fun child =>
      Nat.lt_of_lt_of_le child.2 (Nat.le_of_lt_succ small)
    refine ⟨?_, ?_, ?_⟩
    · rw [OperatorDefinition.deserialize]
      refine Keeps.bind (keeps_visitStruct fun fields name child => ?_) fun fields => ?_
      · split
        · exact (keeps_readField (keeps_readPlain crates.text child.1) _ _).bind fun _ => keeps_pure _
        · exact (keeps_readField (keeps_readPlain crates.text child.1) _ _).bind fun _ => keeps_pure _
        · exact (keeps_readField (ih child.1 (below child)).2.1 _ _).bind fun _ => keeps_pure _
        · exact (keeps_readField (keeps_readPlain crates.inputs child.1) _ _).bind fun _ => keeps_pure _
        · exact (keeps_readField (keeps_readPlain crates.outputs child.1) _ _).bind fun _ => keeps_pure _
        · exact keeps_pure _
      · refine Keeps.bind (keeps_requireField _ _ _ _) fun id => ?_
        refine Keeps.bind (keeps_requireField _ _ _ _) fun stateId => ?_
        refine Keeps.bind (keeps_requireField _ _ _ _) fun spec => ?_
        refine Keeps.bind (keeps_requireField _ _ _ _) fun inputs => ?_
        exact Keeps.bind (keeps_requireField _ _ _ _) fun outputs => keeps_pure _
    · rw [OperatorSpec.deserialize.eq_def]
      split
      next variant content rest =>
        have inside : sizeOf content < size := below ⟨content, by simp; omega⟩
        split
        · exact (keeps_readPlain crates.identity content).bind fun _ => keeps_pure _
        · exact (keeps_readPlain crates.source content).bind fun _ => keeps_pure _
        · exact (keeps_readPlain crates.countStar content).bind fun _ => keeps_pure _
        · exact (keeps_readPlain crates.countByKey content).bind fun _ => keeps_pure _
        · exact (ih content inside).2.2.bind fun _ => keeps_pure _
        · exact (keeps_exchange crates content).bind fun _ => keeps_pure _
        · exact (keeps_readPlain crates.remoteSource content).bind fun _ => keeps_pure _
        · exact keeps_throw _
      next => exact keeps_throw _
    · rw [NestedOperator.deserialize]
      refine Keeps.bind (keeps_visitStruct fun fields name child => ?_) fun fields => ?_
      · split
        · exact (keeps_readField (keeps_readPlain crates.ports child.1) _ _).bind fun _ => keeps_pure _
        · have operators : Keeps Unset (visitVec child.1 fun element => OperatorDefinition.deserialize crates element.1) :=
            keeps_visitVec fun element => (ih element.1 (Nat.lt_trans element.2 (below child))).1
          exact (keeps_readField operators _ _).bind fun _ => keeps_pure _
        · exact (keeps_readField (keeps_readPlain crates.ports child.1) _ _).bind fun _ => keeps_pure _
        · exact keeps_pure _
      · refine Keeps.bind (keeps_requireField _ _ _ _) fun inputs => ?_
        refine Keeps.bind (keeps_requireField _ _ _ _) fun operators => ?_
        exact Keeps.bind (keeps_requireField _ _ _ _) fun outputs => keeps_pure _

end Context

/-- The encodings of schemas and expressions round-trip: expressions that are valid for a
schema are parsed back with that schema. -/
structure Lawful (crates : Crates Schema ProtoSchema Expr Node Source) (Valid : Schema → List Expr → Prop) : Prop where
  schema : ∀ schema protoSchema, crates.schemaToProto schema = .ok protoSchema →
    crates.decodeSchema (crates.encodeSchema protoSchema) = .ok protoSchema ∧
      crates.schemaFromProto protoSchema = .ok schema
  node : ∀ node, crates.decodeNode (crates.encodeNode node) = .ok node
  parse : ∀ schema expressions nodes, Valid schema expressions → crates.serializePhysicalExprs expressions = .ok nodes →
    crates.parsePhysicalExprs nodes schema = .ok expressions

/-- The parsing of an operator's expressions with its own schema. -/
def ownParses (crates : Crates Schema ProtoSchema Expr Node Source)
    (operator : RemoteExchangeOperator Schema Expr) : List (Schema × List Node) :=
  match operator.partitioning with
  | none => []
  | some partitioning =>
    match crates.serializePhysicalExprs partitioning.expressions with
    | .ok nodes => [(operator.schema, nodes)]
    | .error _ => []

/-- A thread on which each of these operators was parsed with its own schema. -/
def noted (crates : Crates Schema ProtoSchema Expr Node Source) (thread : Thread Schema Node)
    (operators : List (RemoteExchangeOperator Schema Expr)) : Thread Schema Node :=
  { thread with parsed := thread.parsed ++ operators.flatMap (ownParses crates) }

@[simp] private theorem noted_nil (crates : Crates Schema ProtoSchema Expr Node Source) (thread : Thread Schema Node) :
    noted crates thread [] = thread := by
  simp [noted]

private theorem noted_append (crates : Crates Schema ProtoSchema Expr Node Source) (thread : Thread Schema Node)
    (first second : List (RemoteExchangeOperator Schema Expr)) :
    noted crates thread (first ++ second) = noted crates (noted crates thread first) second := by
  simp [noted]

private theorem visitVec_seq (elements : List Value) (read : Value → Decode Schema Node α) :
    visitVec (.seq elements) (fun element => read element.1) = elements.mapM read := by
  have parts : (Value.elementsBelow elements).map Subtype.val = elements := by simp [Value.elementsBelow]
  calc visitVec (.seq elements) (fun element => read element.1)
    _ = ((Value.elementsBelow elements).map Subtype.val).mapM read := by
      rw [visitVec, List.mapM_map]
      rfl
    _ = elements.mapM read := by rw [parts]

section RoundTrip
variable {crates : Crates Schema ProtoSchema Expr Node Source} {Valid : Schema → List Expr → Prop}
variable (lawful : Lawful crates Valid)

private theorem returns_readPlain {plain : Plain α} {item : α} {value : Value} (written : plain.serialize item = .ok value)
    (thread : Thread Schema Node) : Returns (readPlain plain value) thread item thread :=
  returns_ofExcept (plain.roundTrip item value written) thread

include lawful

private theorem returns_schema {schema : Schema} {value : Value} (written : serializeSchema crates schema = .ok value)
    (thread : Thread Schema Node) : Returns (deserializeSchema crates value) thread schema thread := by
  rw [serializeSchema, bind_eq_ok] at written
  obtain ⟨protoSchema, converted, written⟩ := written
  rw [mapError_eq_ok] at converted
  obtain ⟨decoded, back⟩ := lawful.schema schema protoSchema converted
  rw [deserializeSchema]
  apply (returns_readPlain written thread).bind
  apply (returns_ofExcept (mapError_eq_ok.mpr decoded) thread).bind
  exact returns_ofExcept (mapError_eq_ok.mpr back) thread

/-- Expressions are parsed with the schema in the context. -/
private theorem returns_physicalExprRefs {operator : RemoteExchangeOperator Schema Expr}
    {partitioning : PartitioningSpec Expr} (partitioned : operator.partitioning = some partitioning)
    (valid : Valid operator.schema partitioning.expressions) {value : Value}
    (written : serializePhysicalExprRefs crates partitioning.expressions = .ok value) {thread : Thread Schema Node}
    (context : thread.inputSchemaContext = some operator.schema) :
    Returns (deserializePhysicalExprRefs crates value) thread partitioning.expressions
      (noted crates thread [operator]) := by
  rw [serializePhysicalExprRefs, bind_eq_ok] at written
  obtain ⟨nodes, serialized, written⟩ := written
  rw [mapError_eq_ok] at serialized
  have decoded : (nodes.map crates.encodeNode).mapM crates.decodeNode = .ok nodes := by
    have each : ∀ node ∈ nodes, (crates.decodeNode ∘ crates.encodeNode) node = .ok (id node) := fun node _ =>
      lawful.node node
    rw [List.mapM_map, mapM_eq_ok id each, List.map_id]
  have read : thread.getContext = .ok operator.schema := by rw [Thread.getContext, context]
  have parsed := lawful.parse operator.schema partitioning.expressions nodes valid serialized
  have after : noted crates thread [operator] = { thread with parsed := thread.parsed ++ [(operator.schema, nodes)] } := by
    simp [noted, ownParses, partitioned, serialized]
  rw [after, deserializePhysicalExprRefs]
  apply (returns_get thread).bind
  apply (returns_ofExcept (mapError_eq_ok.mpr read) thread).bind
  rw [deserializeWithInputSchema]
  apply (returns_readPlain written thread).bind
  apply (returns_ofExcept (mapError_eq_ok.mpr decoded) thread).bind
  apply (returns_modify _ thread).bind
  exact returns_ofExcept (mapError_eq_ok.mpr parsed) _

/-- The second element of the pair, read under the schema of its own operator. -/
private theorem returns_content {operator : RemoteExchangeOperator Schema Expr}
    (valid : ∀ partitioning, operator.partitioning = some partitioning → Valid operator.schema partitioning.expressions)
    {value : Value} (written : serializePartitioning crates operator.partitioning = .ok value)
    {thread : Thread Schema Node} (context : thread.inputSchemaContext = some operator.schema) :
    Returns (deserializeContent crates (.map [("partitioning", value)])) thread operator.partitioning
      (noted crates thread [operator]) := by
  cases partitioned : operator.partitioning with
  | none =>
    rw [partitioned] at written
    cases written
    have read : (deserializeContent crates (.map [("partitioning", .null)]) :
        Decode Schema Node (Option (PartitioningSpec Expr))) = pure none := by
      simp [deserializeContent, visitStruct, Value.entriesBelow]
    have after : noted crates thread [operator] = thread := by simp [noted, ownParses, partitioned]
    rw [read, after]
    exact returns_pure none thread
  | some partitioning =>
    rw [partitioned, serializePartitioning, PartitioningSpec.serialize, bind_eq_ok] at written
    obtain ⟨expressions, written, same⟩ := written
    cases same
    have read : deserializeContent crates (.map [("partitioning", .map [("expressions", expressions)])]) = (do
        let expressions ← deserializePhysicalExprRefs crates expressions
        return some ⟨expressions⟩) := by
      simp [deserializeContent, PartitioningSpec.deserialize, visitStruct, Value.entriesBelow]
    rw [read]
    apply (returns_physicalExprRefs lawful partitioned (valid partitioning partitioned) written context).bind
    exact returns_pure _ _

private theorem returns_exchange {operator : RemoteExchangeOperator Schema Expr}
    (valid : ∀ partitioning, operator.partitioning = some partitioning → Valid operator.schema partitioning.expressions)
    {value : Value} (written : operator.serialize crates = .ok value) {thread : Thread Schema Node}
    (unset : Unset thread) :
    Returns (RemoteExchangeOperator.deserialize crates value) thread operator
      (noted crates thread [operator]) := by
  rw [RemoteExchangeOperator.serialize, bind_eq_ok] at written
  obtain ⟨outputStreamId, streamWritten, written⟩ := written
  rw [bind_eq_ok] at written
  obtain ⟨schema, schemaWritten, written⟩ := written
  rw [bind_eq_ok] at written
  obtain ⟨partitioning, partitioningWritten, same⟩ := written
  cases same
  have initial : InitialDeserialization.deserialize crates (.map [("output_stream_id", outputStreamId), ("schema", schema)]) =
      (do
        let outputStreamId ← readPlain crates.text outputStreamId
        let schema ← deserializeSchema crates schema
        return ⟨outputStreamId, schema⟩ : Decode Schema Node (InitialDeserialization Schema)) := by
    simp [InitialDeserialization.deserialize, visitStruct, Value.entriesBelow]
  have pre : Returns (InitialDeserialization.deserialize crates
      (.map [("output_stream_id", outputStreamId), ("schema", schema)])) thread
      ⟨operator.outputStreamId, operator.schema⟩ thread := by
    rw [initial]
    apply (returns_readPlain streamWritten thread).bind
    apply (returns_schema lawful schemaWritten thread).bind
    exact returns_pure _ thread
  have entered : thread.setContext operator.schema = .ok { thread with inputSchemaContext := some operator.schema } := by
    rw [Unset] at unset
    simp [Thread.setContext, unset]
  have left : noted crates thread [operator] =
      (noted crates { thread with inputSchemaContext := some operator.schema } [operator]).dropGuard := by
    rw [Unset] at unset
    simp [noted, Thread.dropGuard, ← unset]
  rw [left]
  apply pre.bind
  apply (returns_get thread).bind
  apply (returns_ofExcept (mapError_eq_ok.mpr entered) thread).bind
  apply (returns_set thread _).bind
  let inside : Thread Schema Node := { thread with inputSchemaContext := some operator.schema }
  have context : inside.inputSchemaContext = some operator.schema := rfl
  exact (returns_content lawful valid partitioningWritten context).releasing.bind (returns_pure _ _)

end RoundTrip

section Tree
variable {crates : Crates Schema ProtoSchema Expr Node Source} {Valid : Schema → List Expr → Prop}

/-- A variant whose content is plain. -/
private theorem returns_variant {plain : Plain α} {item : α} {variant : String} {value : Value}
    (written : (do return Value.map [(variant, ← plain.serialize item)]) = .ok value)
    {build : α → SentSpec Schema Expr Source}
    (read : ∀ content, OperatorSpec.deserialize crates (.map [(variant, content)]) = (do
      return build (← readPlain plain content))) (thread : Thread Schema Node) :
    Returns (OperatorSpec.deserialize crates value) thread (build item) (noted crates thread []) := by
  rw [bind_eq_ok] at written
  obtain ⟨content, written, same⟩ := written
  cases same
  rw [read, noted_nil]
  exact (returns_readPlain written thread).bind (returns_pure _ thread)

/-- Every exchange has expressions that are valid for its own schema. -/
def AllValid (Valid : Schema → List Expr → Prop) (operators : List (RemoteExchangeOperator Schema Expr)) :
    Prop :=
  ∀ operator ∈ operators, ∀ partitioning, operator.partitioning = some partitioning →
    Valid operator.schema partitioning.expressions

mutual

private theorem returns_definition (lawful : Lawful crates Valid) : (tree : SentOperator Schema Expr Source) → (value : Value) →
    (thread : Thread Schema Node) → AllValid Valid tree.outputOperators → tree.serialize crates = .ok value → Unset thread →
    Returns (OperatorDefinition.deserialize crates value) thread tree (noted crates thread tree.outputOperators)
  | .mk id stateId spec inputs outputs, value, thread, valid, written, unset => by
    simp only [OperatorDefinition.serialize, bind_eq_ok] at written
    obtain ⟨idValue, idWritten, stateValue, stateWritten, specValue, specWritten, inputsValue, inputsWritten,
      outputsValue, outputsWritten, same⟩ := written
    cases same
    have read : OperatorDefinition.deserialize crates (.map [("id", idValue), ("inputs", inputsValue),
        ("outputs", outputsValue), ("spec", specValue), ("state_id", stateValue)]) = (do
          let id ← readPlain crates.text idValue
          let inputs ← readPlain crates.inputs inputsValue
          let outputs ← readPlain crates.outputs outputsValue
          let spec ← OperatorSpec.deserialize crates specValue
          let stateId ← readPlain crates.text stateValue
          return .mk id stateId spec inputs outputs : Decode Schema Node _) := by
      simp [OperatorDefinition.deserialize, visitStruct, Value.entriesBelow]
    rw [read]
    apply (returns_readPlain idWritten thread).bind
    apply (returns_readPlain inputsWritten thread).bind
    apply (returns_readPlain outputsWritten thread).bind
    apply (returns_spec lawful stateId spec specValue thread valid specWritten unset).bind
    apply (returns_readPlain stateWritten _).bind
    exact returns_pure _ _

private theorem returns_spec (lawful : Lawful crates Valid) (stateId : String) :
    (spec : SentSpec Schema Expr Source) →
    (value : Value) → (thread : Thread Schema Node) → AllValid Valid (outputsOf (specLeaves stateId spec)) →
    spec.serialize crates = .ok value → Unset thread →
    Returns (OperatorSpec.deserialize crates value) thread spec (noted crates thread (outputsOf (specLeaves stateId spec)))
  | .identity, value, thread, _, written, _ => by
    rw [OperatorSpec.serialize] at written
    exact returns_variant written (fun content => by rw [OperatorSpec.deserialize]) thread
  | .source operator, value, thread, _, written, _ => by
    rw [OperatorSpec.serialize] at written
    exact returns_variant written (fun content => by rw [OperatorSpec.deserialize]) thread
  | .countStar, value, thread, _, written, _ => by
    rw [OperatorSpec.serialize] at written
    exact returns_variant written (fun content => by rw [OperatorSpec.deserialize]) thread
  | .countByKey keyCol, value, thread, _, written, _ => by
    rw [OperatorSpec.serialize] at written
    exact returns_variant written (fun content => by rw [OperatorSpec.deserialize]) thread
  | .nested operator, value, thread, valid, written, unset => by
    simp only [OperatorSpec.serialize, bind_eq_ok] at written
    obtain ⟨content, written, same⟩ := written
    cases same
    rw [OperatorSpec.deserialize]
    exact (returns_nested lawful operator content thread valid written unset).bind (returns_pure _ _)
  | .remoteExchangeOutput operator, value, thread, valid, written, unset => by
    simp only [OperatorSpec.serialize, bind_eq_ok] at written
    obtain ⟨content, written, same⟩ := written
    cases same
    have own := valid operator (List.mem_singleton.mpr rfl)
    rw [OperatorSpec.deserialize]
    exact (returns_exchange lawful own written unset).bind (returns_pure _ _)
  | .remoteExchangeInput streamIds, value, thread, _, written, _ => by
    rw [OperatorSpec.serialize] at written
    exact returns_variant written (fun content => by rw [OperatorSpec.deserialize]) thread

private theorem returns_nested (lawful : Lawful crates Valid) :
    (operator : NestedOperator (SentOperator Schema Expr Source)) →
    (value : Value) → (thread : Thread Schema Node) → AllValid Valid (outputsOf (nestedLeaves operator)) →
    operator.serialize crates = .ok value → Unset thread →
    Returns (NestedOperator.deserialize crates value) thread operator
      (noted crates thread (outputsOf (nestedLeaves operator)))
  | ⟨inputs, operators, outputs⟩, value, thread, valid, written, unset => by
    simp only [NestedOperator.serialize, bind_eq_ok] at written
    obtain ⟨inputsValue, inputsWritten, values, operatorsWritten, outputsValue, outputsWritten, same⟩ := written
    cases same
    have read : NestedOperator.deserialize crates (.map [("inputs", inputsValue), ("operators", .seq values),
        ("outputs", outputsValue)]) = (do
          let inputs ← readPlain crates.ports inputsValue
          let operators ← values.mapM (OperatorDefinition.deserialize crates)
          let outputs ← readPlain crates.ports outputsValue
          return ⟨inputs, operators, outputs⟩ : Decode Schema Node _) := by
      simp [NestedOperator.deserialize, visitStruct, Value.entriesBelow, visitVec_seq]
    rw [read]
    apply (returns_readPlain inputsWritten thread).bind
    apply (returns_operators lawful operators values thread valid operatorsWritten unset).bind
    apply (returns_readPlain outputsWritten _).bind
    exact returns_pure _ _

private theorem returns_operators (lawful : Lawful crates Valid) : (operators : List (SentOperator Schema Expr Source)) →
    (values : List Value) → (thread : Thread Schema Node) → AllValid Valid (outputsOf (leavesOf operators)) →
    serializeOperators crates operators = .ok values → Unset thread →
    Returns (values.mapM (OperatorDefinition.deserialize crates)) thread operators
      (noted crates thread (outputsOf (leavesOf operators)))
  | [], values, thread, _, written, _ => by
    rw [serializeOperators] at written
    cases written
    change Returns _ _ _ (noted crates thread [])
    rw [noted_nil]
    exact returns_pure [] thread
  | operator :: rest, values, thread, valid, written, unset => by
    simp only [serializeOperators, bind_eq_ok] at written
    obtain ⟨first, firstWritten, later, laterWritten, same⟩ := written
    cases same
    rw [leavesOf, outputsOf_append] at valid ⊢
    have own : AllValid Valid operator.outputOperators := fun other member =>
      valid other (List.mem_append_left _ member)
    have others : AllValid Valid (outputsOf (leavesOf rest)) := fun other member =>
      valid other (List.mem_append_right _ member)
    rw [List.mapM_cons, noted_append]
    apply (returns_definition lawful operator first thread own firstWritten unset).bind
    have still : Unset (noted crates thread operator.outputOperators) := unset
    apply (returns_operators lawful rest later _ others laterWritten still).bind
    exact returns_pure _ _

end

end Tree

/-- From an unset context, an encoded tree is read back with each exchange parsed by its own
schema, and after the decoding of anything the context is unset. -/
theorem exchanges_decode_with_own_schema (crates : Crates Schema ProtoSchema Expr Node Source)
    (Valid : Schema → List Expr → Prop) (tree : SentOperator Schema Expr Source)
    (thread : Thread Schema Node) (lawful : Lawful crates Valid) (valid : AllValid Valid tree.outputOperators)
    (unset : Unset thread) :
    (∀ value, tree.serialize crates = .ok value →
      (OperatorDefinition.deserialize crates value).outcome thread =
        (.ok tree, noted crates thread tree.outputOperators)) ∧
    ∀ value, Unset ((OperatorDefinition.deserialize crates value).outcome thread).2 := by
  constructor
  · intro value written
    exact returns_definition lawful tree value thread valid written unset
  · intro value
    exact (keeps_tree crates (sizeOf value + 1) value (Nat.lt_succ_self _)).1 thread unset

/-- The worker that reads a tree publishes the exchanges of the tree that was sent. -/
theorem decoded_outputs {crates : Crates Schema ProtoSchema Expr Node Source} {Valid : Schema → List Expr → Prop}
    {ρ : Type} (source : Source → SourceOperator ρ) (hash : List Expr → RowHash ρ) (lawful : Lawful crates Valid)
    {tree : SentOperator Schema Expr Source} (valid : AllValid Valid tree.outputOperators) {value : Value}
    (written : tree.serialize crates = .ok value) {thread : Thread Schema Node} (unset : Unset thread) :
    ((OperatorDefinition.deserialize crates value).outcome thread).1.map
        (fun decoded => (decoded.createOperatorFunction source hash).outputOperators) =
      .ok (tree.outputOperators.map (RemoteExchangeOperator.createOperatorFunction hash)) := by
  have read : (OperatorDefinition.deserialize crates value).outcome thread =
      (.ok tree, noted crates thread tree.outputOperators) :=
    returns_definition lawful tree value thread valid written unset
  rw [read, ← outputOperators_createOperatorFunction source hash tree]
  rfl

section Columns

/-- A type of which only one value is used. -/
private def onlyValue {β : Type} [DecidableEq β] (item : β) : Plain β where
  serialize other := if other = item then .ok .null else .error "unsupported"
  deserialize _ := .ok item
  roundTrip := by
    intro other value written
    split at written
    next same => rw [same]
    next => cases written

private def text : Plain String where
  serialize shown := .ok (.leaf shown [])
  deserialize
    | .leaf shown _ => .ok shown
    | other => .error (.invalidType other "a string")
  roundTrip := by
    intro shown value written
    cases written
    rfl

private def bytes : Plain (List UInt8) where
  serialize content := .ok (.leaf "byte array" content)
  deserialize
    | .leaf _ content => .ok content
    | other => .error (.invalidType other "a borrowed byte array")
  roundTrip := by
    intro content value written
    cases written
    rfl

private def buffers : Plain (List (List UInt8)) where
  serialize contents := .ok (.seq (contents.map (.leaf "byte array")))
  deserialize
    | .seq elements => elements.mapM bytes.deserialize
    | other => .error (.invalidType other "a sequence")
  roundTrip := by
    intro contents value written
    cases written
    have each : ∀ content ∈ contents, (bytes.deserialize ∘ .leaf "byte array") content = .ok (id content) := fun _ _ => rfl
    dsimp only
    rw [List.mapM_map, mapM_eq_ok id each, List.map_id]

/-- Two schemas with a column each. The node of an expression does not say which column it
is, so the schema it is parsed with decides. -/
def columns : Crates Bool Bool Bool Unit Unit where
  text := text
  bytes := bytes
  buffers := buffers
  inputs := onlyValue []
  outputs := onlyValue []
  ports := onlyValue []
  identity := onlyValue ()
  source := onlyValue ()
  countStar := onlyValue ()
  countByKey := onlyValue ""
  remoteSource := onlyValue []
  notVariant value := .invalidType value "enum OperatorSpec"
  schemaToProto := .ok
  encodeSchema schema := [if schema then 1 else 0]
  decodeSchema content := .ok (content = [1])
  schemaFromProto := .ok
  serializePhysicalExprs expressions := .ok (expressions.map fun _ => ())
  encodeNode _ := []
  decodeNode _ := .ok ()
  parsePhysicalExprs nodes schema := .ok (nodes.map fun _ => schema)

private theorem columns_lawful : Lawful columns fun schema expressions => ∀ expression ∈ expressions, expression = schema where
  schema := by
    intro schema protoSchema converted
    cases converted
    cases schema <;> exact ⟨rfl, rfl⟩
  node _ := rfl
  parse := by
    intro schema expressions nodes valid serialized
    cases serialized
    have same : ∀ expression ∈ expressions, ((fun _ => schema) ∘ fun _ => ()) expression = expression :=
      fun expression member => (valid expression member).symm
    change Except.ok _ = _
    rw [List.map_map, List.map_congr_left same, List.map_id']

/-- A nested operator with an exchange for each schema. -/
def twoExchanges : SentOperator Bool Bool Unit :=
  .mk "nested" "" (.nested ⟨[], [
    .mk "first" "" (.remoteExchangeOutput ⟨"left", false, some ⟨[false]⟩⟩) [] [],
    .mk "second" "" (.remoteExchangeOutput ⟨"right", true, some ⟨[true]⟩⟩) [] []], []⟩) [] []

private theorem twoExchanges_valid : AllValid (fun schema expressions => ∀ expression ∈ expressions, expression = schema)
    twoExchanges.outputOperators := by
  have listed : twoExchanges.outputOperators = [⟨"left", false, some ⟨[false]⟩⟩, ⟨"right", true, some ⟨[true]⟩⟩] := rfl
  intro operator member partitioning partitioned
  rw [listed, List.mem_cons, List.mem_singleton] at member
  rcases member with rfl | rfl
  · cases partitioned
    decide
  · cases partitioned
    decide

theorem two_exchanges_decoded :
    ∃ value, twoExchanges.serialize columns = .ok value ∧
      (OperatorDefinition.deserialize columns value).outcome ⟨none, []⟩ =
        (.ok twoExchanges, ⟨none, [(false, [()]), (true, [()])]⟩) :=
  ⟨_, rfl, (exchanges_decode_with_own_schema columns _ twoExchanges ⟨none, []⟩ columns_lawful twoExchanges_valid rfl).1 _ rfl⟩

end Columns

end DatafusionRay.Proofs.ExchangeDecoding
