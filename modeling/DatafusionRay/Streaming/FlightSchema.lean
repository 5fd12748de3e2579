import Mathlib

/-! Arrow schemas, and what the Flight encoder makes of them before it sends one.
Dictionaries are replaced by their values; other types are rebuilt on the way. -/

namespace DatafusionRay.Streaming

inductive UnionMode where
  | sparse
  | dense
  deriving DecidableEq, Repr

mutual

/-- The types with fields, and the dictionaries. All other types are primitive here. -/
inductive DataType where
  | primitive (name : String)
  | list (item : Field)
  | listView (item : Field)
  | fixedSizeList (item : Field) (size : Nat)
  | largeList (item : Field)
  | largeListView (item : Field)
  | struct (fields : List Field)
  | union (typeIds : List Int) (fields : List Field) (mode : UnionMode)
  | dictionary (keyType valueType : DataType)
  | map (entries : Field) (sorted : Bool)
  | runEndEncoded (runEnds values : Field)

inductive Field where
  | mk (name : String) (dataType : DataType) (nullable : Bool) (metadata : List (String × String))

end

def Field.dataType : Field → DataType
  | .mk _ dataType _ _ => dataType

def Field.nullable : Field → Bool
  | .mk _ _ nullable _ => nullable

structure Schema where
  fields : List Field
  metadata : List (String × String)

mutual

def DataType.dictionaryFree : DataType → Bool
  | .primitive _ => true
  | .list item => item.dictionaryFree
  | .listView item => item.dictionaryFree
  | .fixedSizeList item _ => item.dictionaryFree
  | .largeList item => item.dictionaryFree
  | .largeListView item => item.dictionaryFree
  | .struct fields => Field.allDictionaryFree fields
  | .union _ fields _ => Field.allDictionaryFree fields
  | .dictionary _ _ => false
  | .map entries _ => entries.dictionaryFree
  | .runEndEncoded runEnds values => runEnds.dictionaryFree && values.dictionaryFree

def Field.dictionaryFree : Field → Bool
  | .mk _ dataType _ _ => dataType.dictionaryFree

def Field.allDictionaryFree : List Field → Bool
  | [] => true
  | field :: rest => field.dictionaryFree && Field.allDictionaryFree rest

end

def Schema.dictionaryFree (schema : Schema) : Bool := Field.allDictionaryFree schema.fields

/-- `is_nested` of a type that is not a dictionary. -/
def DataType.isNested : DataType → Bool
  | .list _ | .listView _ | .fixedSizeList _ _ | .largeList _ | .largeListView _ | .struct _ | .union _ _ _ |
    .map _ _ => true
  | _ => false

mutual

/-- With hydrated dictionaries. A large list becomes a list, and a union loses its
metadata and whether it is nullable. -/
def prepareFieldForFlight : Field → Field
  | .mk name (.list inner) nullable metadata => .mk name (.list (prepareFieldForFlight inner)) nullable metadata
  | .mk name (.largeList inner) nullable metadata => .mk name (.list (prepareFieldForFlight inner)) nullable metadata
  | .mk name (.struct fields) nullable metadata => .mk name (.struct (prepareFieldsForFlight fields)) nullable metadata
  | .mk name (.union typeIds fields mode) _ _ => .mk name (.union typeIds (prepareFieldsForFlight fields) mode) false []
  | .mk name (.dictionary _ valueType) nullable metadata => .mk name valueType nullable metadata
  | .mk name (.map inner sorted) nullable metadata =>
    .mk name (.map (prepareFieldForFlight inner) sorted) nullable metadata
  | field => field

def prepareFieldsForFlight : List Field → List Field
  | [] => []
  | field :: rest => prepareFieldForFlight field :: prepareFieldsForFlight rest

end

def prepareSchemaForFlight (schema : Schema) : Schema where
  fields := schema.fields.map fun field =>
    match field with
    | .mk name (.dictionary _ valueType) nullable metadata => .mk name valueType nullable metadata
    | _ => if field.dataType.isNested then prepareFieldForFlight field else field
  metadata := schema.metadata

mutual

theorem dictionaryFree_prepareField : (field : Field) → field.dictionaryFree = true →
    (prepareFieldForFlight field).dictionaryFree = true
  | .mk _ (.list inner) _ _, free => dictionaryFree_prepareField inner free
  | .mk _ (.largeList inner) _ _, free => dictionaryFree_prepareField inner free
  | .mk _ (.struct fields) _ _, free => dictionaryFree_prepareFields fields free
  | .mk _ (.union _ fields _) _ _, free => dictionaryFree_prepareFields fields free
  | .mk _ (.map inner _) _ _, free => dictionaryFree_prepareField inner free
  | .mk _ (.primitive _) _ _, free => free
  | .mk _ (.listView _) _ _, free => free
  | .mk _ (.fixedSizeList _ _) _ _, free => free
  | .mk _ (.largeListView _) _ _, free => free
  | .mk _ (.runEndEncoded _ _) _ _, free => free

theorem dictionaryFree_prepareFields : (fields : List Field) → Field.allDictionaryFree fields = true →
    Field.allDictionaryFree (prepareFieldsForFlight fields) = true
  | [], _ => rfl
  | field :: rest, free => by
    have both := Bool.and_eq_true_iff.mp free
    exact Bool.and_eq_true_iff.mpr
      ⟨dictionaryFree_prepareField field both.1, dictionaryFree_prepareFields rest both.2⟩

end

theorem allDictionaryFree_iff {fields : List Field} :
    Field.allDictionaryFree fields = true ↔ ∀ field ∈ fields, field.dictionaryFree = true := by
  induction fields with
  | nil => simp [Field.allDictionaryFree]
  | cons field rest ih => simp [Field.allDictionaryFree, ih]

theorem dictionaryFree_prepareSchema {schema : Schema} (free : schema.dictionaryFree = true) :
    (prepareSchemaForFlight schema).dictionaryFree = true := by
  rw [Schema.dictionaryFree, allDictionaryFree_iff] at free ⊢
  simp only [prepareSchemaForFlight, List.forall_mem_map]
  intro field member
  have own := free field member
  split
  · cases own
  · split
    · exact dictionaryFree_prepareField field own
    · exact own

end DatafusionRay.Streaming
