import Mathlib

/-! The protobuf wire format. A message is a sequence of fields, each a key that
tells its number and its wire type, and a value; how many bytes the value takes
follows from the wire type. -/

namespace DatafusionRay.Foundation.WireFormat

abbrev Bytes := List UInt8

/-- Seven bits in each byte, the low ones first, and the top bit set in all but the last byte. -/
def encodeVarint (value : Nat) : Bytes :=
  if value < 128 then [UInt8.ofNat value] else UInt8.ofNat (value % 128 + 128) :: encodeVarint (value / 128)

/-- The last byte that may be read has room for one bit. -/
def readVarint : Nat → Bytes → Option (Nat × Bytes)
  | 0, _ => none
  | _ + 1, [] => none
  | limit + 1, byte :: rest =>
    if byte.toNat < 128 then
      if limit = 0 ∧ 2 ≤ byte.toNat then none else some (byte.toNat, rest)
    else (readVarint limit rest).map fun (high, rest) => (byte.toNat % 128 + 128 * high, rest)

def decodeVarint (buf : Bytes) : Option (Nat × Bytes) := readVarint 10 buf

inductive WireType where
  | varint
  | sixtyFourBit
  | lengthDelimited
  | startGroup
  | endGroup
  | thirtyTwoBit
  deriving DecidableEq, Repr

namespace WireType

def code : WireType → Nat
  | varint => 0
  | sixtyFourBit => 1
  | lengthDelimited => 2
  | startGroup => 3
  | endGroup => 4
  | thirtyTwoBit => 5

def ofCode : Nat → Option WireType
  | 0 => some varint
  | 1 => some sixtyFourBit
  | 2 => some lengthDelimited
  | 3 => some startGroup
  | 4 => some endGroup
  | 5 => some thirtyTwoBit
  | _ => none

end WireType

def encodeKey (number : Nat) (wireType : WireType) : Bytes := encodeVarint (number * 8 + wireType.code)

def decodeKey (buf : Bytes) : Option (Nat × WireType × Bytes) := do
  let (key, rest) ← decodeVarint buf
  let wireType ← WireType.ofCode (key % 8)
  if key < 2 ^ 32 ∧ 1 ≤ key / 8 then some (key / 8, wireType, rest) else none

def readBytes (count : Nat) (buf : Bytes) : Option (Bytes × Bytes) :=
  if count ≤ buf.length then some (buf.take count, buf.drop count) else none

/-- The content of a group is skipped. -/
inductive WireValue where
  | varint (value : Nat)
  | fixed64 (bytes : Bytes)
  | delimited (bytes : Bytes)
  | group
  | fixed32 (bytes : Bytes)
  deriving DecidableEq, Repr

structure Field where
  number : Nat
  value : WireValue
  deriving DecidableEq, Repr

def readValue (skipGroup : Bytes → Option Bytes) (wireType : WireType) (buf : Bytes) : Option (WireValue × Bytes) :=
  match wireType with
  | .varint => (decodeVarint buf).map fun (value, rest) => (.varint value, rest)
  | .sixtyFourBit => (readBytes 8 buf).map fun (bytes, rest) => (.fixed64 bytes, rest)
  | .lengthDelimited => (decodeVarint buf).bind fun (count, rest) =>
      (readBytes count rest).map fun (bytes, rest) => (.delimited bytes, rest)
  | .startGroup => (skipGroup buf).map fun rest => (.group, rest)
  | .endGroup => none
  | .thirtyTwoBit => (readBytes 4 buf).map fun (bytes, rest) => (.fixed32 bytes, rest)

/-- The fields of a group up to its end. Each of them takes a byte at least, so a
limit of as many fields as there are bytes is none. -/
def skipGroup (skip : Nat → WireType → Bytes → Option Bytes) (number : Nat) : Nat → Bytes → Option Bytes
  | 0, _ => none
  | limit + 1, buf => do
    let (inner, wireType, rest) ← decodeKey buf
    if wireType = .endGroup then
      if inner = number then some rest else none
    else
      let rest ← skip inner wireType rest
      skipGroup skip number limit rest

/-- Groups may be nested only so far. -/
def skipField : Nat → Nat → WireType → Bytes → Option Bytes
  | 0, _, _, _ => none
  | depth + 1, number, wireType, buf =>
    (readValue (fun buf => skipGroup (skipField depth) number buf.length buf) wireType buf).map Prod.snd

def recursionLimit : Nat := 100

def decodeField (buf : Bytes) : Option (Field × Bytes) := do
  let (number, wireType, rest) ← decodeKey buf
  let (value, rest) ← readValue (skipField recursionLimit number .startGroup) wireType rest
  some (⟨number, value⟩, rest)

section Shorter
variable {buf rest : Bytes}

theorem readVarint_shorter {limit value : Nat} (read : readVarint limit buf = some (value, rest)) :
    rest.length < buf.length := by
  induction limit generalizing buf value with
  | zero => cases read
  | succ limit ih =>
    cases buf with
    | nil => cases read
    | cons byte tail =>
      rw [readVarint] at read
      split at read
      · split at read
        · cases read
        · cases read
          exact Nat.lt_succ_self _
      · obtain ⟨⟨high, others⟩, more, same⟩ := Option.map_eq_some_iff.mp read
        cases same
        exact Nat.lt_succ_of_lt (ih more)

theorem decodeKey_shorter {number : Nat} {wireType : WireType} (read : decodeKey buf = some (number, wireType, rest)) :
    rest.length < buf.length := by
  simp only [decodeKey, Option.bind_eq_bind, Option.bind_eq_some_iff] at read
  obtain ⟨⟨key, after⟩, varint, found, _, same⟩ := read
  split at same
  · cases same
    exact readVarint_shorter varint
  · cases same

theorem readBytes_shorter {count : Nat} {bytes : Bytes} (read : readBytes count buf = some (bytes, rest)) :
    rest.length ≤ buf.length := by
  rw [readBytes] at read
  split at read
  · cases read
    rw [List.length_drop]
    exact Nat.sub_le _ _
  · cases read

theorem skipGroup_shorter {skip : Nat → WireType → Bytes → Option Bytes} {number limit : Nat}
    (skips : ∀ {number wireType buf rest}, skip number wireType buf = some rest → rest.length ≤ buf.length)
    (read : skipGroup skip number limit buf = some rest) : rest.length ≤ buf.length := by
  induction limit generalizing buf with
  | zero => cases read
  | succ limit ih =>
    simp only [skipGroup, Option.bind_eq_bind, Option.bind_eq_some_iff] at read
    obtain ⟨⟨inner, wireType, after⟩, key, found⟩ := read
    have shorter := decodeKey_shorter key
    split at found
    · split at found
      · cases found
        exact Nat.le_of_lt shorter
      · cases found
    · obtain ⟨others, skipped, more⟩ := Option.bind_eq_some_iff.mp found
      exact (ih more).trans ((skips skipped).trans (Nat.le_of_lt shorter))

theorem readValue_shorter {skip : Bytes → Option Bytes} {wireType : WireType} {value : WireValue}
    (skips : ∀ {buf rest}, skip buf = some rest → rest.length ≤ buf.length)
    (read : readValue skip wireType buf = some (value, rest)) : rest.length ≤ buf.length := by
  cases wireType with
  | varint =>
    obtain ⟨⟨number, after⟩, varint, same⟩ := Option.map_eq_some_iff.mp read
    cases same
    exact Nat.le_of_lt (readVarint_shorter varint)
  | sixtyFourBit =>
    obtain ⟨⟨bytes, after⟩, found, same⟩ := Option.map_eq_some_iff.mp read
    cases same
    exact readBytes_shorter found
  | lengthDelimited =>
    obtain ⟨⟨count, after⟩, varint, more⟩ := Option.bind_eq_some_iff.mp read
    obtain ⟨⟨bytes, others⟩, found, same⟩ := Option.map_eq_some_iff.mp more
    cases same
    exact (readBytes_shorter found).trans (Nat.le_of_lt (readVarint_shorter varint))
  | startGroup =>
    obtain ⟨after, skipped, same⟩ := Option.map_eq_some_iff.mp read
    cases same
    exact skips skipped
  | endGroup => cases read
  | thirtyTwoBit =>
    obtain ⟨⟨bytes, after⟩, found, same⟩ := Option.map_eq_some_iff.mp read
    cases same
    exact readBytes_shorter found

theorem skipField_shorter {depth number : Nat} {wireType : WireType} (read : skipField depth number wireType buf = some rest) :
    rest.length ≤ buf.length := by
  induction depth generalizing number wireType buf rest with
  | zero => cases read
  | succ depth ih =>
    obtain ⟨⟨value, after⟩, found, same⟩ := Option.map_eq_some_iff.mp read
    cases same
    exact readValue_shorter (skipGroup_shorter ih) found

theorem decodeField_shorter {field : Field} (read : decodeField buf = some (field, rest)) : rest.length < buf.length := by
  simp only [decodeField, Option.bind_eq_bind, Option.bind_eq_some_iff] at read
  obtain ⟨⟨number, wireType, after⟩, key, ⟨value, others⟩, found, same⟩ := read
  cases same
  exact Nat.lt_of_le_of_lt (readValue_shorter skipField_shorter found) (decodeKey_shorter key)

end Shorter

def decodeFields (buf : Bytes) : Option (List Field) :=
  if buf = [] then some []
  else
    match _read : decodeField buf with
    | none => none
    | some (field, rest) => (decodeFields rest).map (field :: ·)
termination_by buf.length
decreasing_by exact decodeField_shorter _read

/-- A message is made by merging the fields one by one into an empty one. -/
def decodeMessage {μ : Type} (empty : μ) (mergeField : μ → Field → Option μ) (buf : Bytes) : Option μ :=
  (decodeFields buf).bind fun fields => fields.foldlM mergeField empty

namespace WireValue

def wireType : WireValue → WireType
  | varint _ => .varint
  | fixed64 _ => .sixtyFourBit
  | delimited _ => .lengthDelimited
  | group => .startGroup
  | fixed32 _ => .thirtyTwoBit

/-- A value that some encoder can have written. -/
def Valid : WireValue → Prop
  | varint value => value < 2 ^ 64
  | fixed64 bytes => bytes.length = 8
  | delimited bytes => bytes.length < 2 ^ 64
  | group => True
  | fixed32 bytes => bytes.length = 4

end WireValue

namespace Field

def encodeValue (field : Field) : Bytes :=
  match field.value with
  | .varint value => encodeVarint value
  | .fixed64 bytes | .fixed32 bytes => bytes
  | .delimited bytes => encodeVarint bytes.length ++ bytes
  | .group => encodeKey field.number .endGroup

def encode (field : Field) : Bytes := encodeKey field.number field.value.wireType ++ field.encodeValue

def Valid (field : Field) : Prop := 1 ≤ field.number ∧ field.number < 2 ^ 29 ∧ field.value.Valid

end Field

def encodeFields (fields : List Field) : Bytes := fields.flatMap Field.encode

section RoundTrip
variable {rest : Bytes}

private theorem toNat_ofNat {value : Nat} (bound : value < 256) : (UInt8.ofNat value).toNat = value := by
  rw [UInt8.toNat_ofNat', Nat.mod_eq_of_lt bound]

theorem readVarint_encodeVarint {limit value : Nat} (bound : value < 2 * 128 ^ limit) :
    readVarint (limit + 1) (encodeVarint value ++ rest) = some (value, rest) := by
  induction limit generalizing value with
  | zero =>
    rw [encodeVarint, if_pos (by omega), List.singleton_append, readVarint, toNat_ofNat (by omega), if_pos (by omega),
      if_neg (by omega)]
  | succ limit ih =>
    rw [encodeVarint]
    split
    · rw [List.singleton_append, readVarint, toNat_ofNat (by omega), if_pos (by omega), if_neg (by omega)]
    · have high : value / 128 < 2 * 128 ^ limit := by
        rw [Nat.div_lt_iff_lt_mul (by decide), Nat.mul_assoc, ← Nat.pow_succ]
        exact bound
      rw [List.cons_append, readVarint, toNat_ofNat (by omega), if_neg (by omega), ih high, Option.map_some]
      exact congrArg (fun number => some (number, rest)) (by omega)

theorem decodeVarint_encodeVarint {value : Nat} (bound : value < 2 ^ 64) :
    decodeVarint (encodeVarint value ++ rest) = some (value, rest) :=
  readVarint_encodeVarint (Nat.lt_of_lt_of_eq bound (by norm_num))

theorem decodeKey_encodeKey {number : Nat} {wireType : WireType} (positive : 1 ≤ number) (bound : number < 2 ^ 29) :
    decodeKey (encodeKey number wireType ++ rest) = some (number, wireType, rest) := by
  have small : wireType.code < 8 := by cases wireType <;> decide
  have kind : WireType.ofCode wireType.code = some wireType := by cases wireType <;> rfl
  have low : (number * 8 + wireType.code) % 8 = wireType.code := by omega
  have high : (number * 8 + wireType.code) / 8 = number := by omega
  have fits : number * 8 + wireType.code < 2 ^ 32 := by omega
  rw [decodeKey, encodeKey, decodeVarint_encodeVarint (by omega)]
  simp only [Option.bind_eq_bind, Option.bind_some, low, high, kind]
  exact if_pos ⟨fits, positive⟩

theorem readBytes_append (bytes : Bytes) : readBytes bytes.length (bytes ++ rest) = some (bytes, rest) := by
  simp [readBytes]

theorem skipField_empty_group {depth number : Nat} (positive : 1 ≤ number) (bound : number < 2 ^ 29) :
    skipField (depth + 1) number .startGroup (encodeKey number .endGroup ++ rest) = some rest := by
  have key := @decodeKey_encodeKey rest number .endGroup positive bound
  have longer := decodeKey_shorter key
  obtain ⟨limit, length⟩ := Nat.exists_eq_add_one_of_ne_zero (Nat.ne_zero_of_lt longer)
  rw [skipField, readValue]
  simp [length, skipGroup, key]

theorem readValue_encodeValue {field : Field} (valid : field.Valid) :
    readValue (skipField recursionLimit field.number .startGroup) field.value.wireType (field.encodeValue ++ rest) =
      some (field.value, rest) := by
  obtain ⟨number, value⟩ := field
  obtain ⟨positive, bound, fits⟩ := valid
  cases value with
  | varint value =>
    rw [WireValue.wireType, readValue, Field.encodeValue, decodeVarint_encodeVarint fits, Option.map_some]
  | fixed64 bytes =>
    rw [WireValue.wireType, readValue, Field.encodeValue, ← show bytes.length = 8 from fits, readBytes_append,
      Option.map_some]
  | delimited bytes =>
    rw [WireValue.wireType, readValue, Field.encodeValue, List.append_assoc, decodeVarint_encodeVarint fits,
      Option.bind_some]
    dsimp only
    rw [readBytes_append, Option.map_some]
  | group =>
    rw [WireValue.wireType, readValue, Field.encodeValue, recursionLimit, skipField_empty_group positive bound,
      Option.map_some]
  | fixed32 bytes =>
    rw [WireValue.wireType, readValue, Field.encodeValue, ← show bytes.length = 4 from fits, readBytes_append,
      Option.map_some]

theorem decodeField_encode {field : Field} (valid : field.Valid) :
    decodeField (field.encode ++ rest) = some (field, rest) := by
  rw [decodeField, Field.encode, List.append_assoc, decodeKey_encodeKey valid.1 valid.2.1]
  simp only [Option.bind_eq_bind, Option.bind_some, readValue_encodeValue valid]

theorem decodeFields_encodeFields {fields : List Field} (valid : ∀ field ∈ fields, field.Valid) :
    decodeFields (encodeFields fields) = some fields := by
  induction fields with
  | nil => rw [encodeFields, List.flatMap_nil, decodeFields, if_pos rfl]
  | cons field fields ih =>
    rw [List.forall_mem_cons] at valid
    have read := @decodeField_encode (encodeFields fields) field valid.1
    have nonempty : field.encode ++ encodeFields fields ≠ [] :=
      List.ne_nil_of_length_pos (Nat.zero_lt_of_lt (decodeField_shorter read))
    rw [encodeFields, List.flatMap_cons, ← encodeFields, decodeFields, if_neg nonempty]
    split
    · next none => cases none.symm.trans read
    · next other rest same =>
      cases same.symm.trans read
      rw [ih valid.2, Option.map_some]

/-- Decoding what was encoded merges the encoded fields. -/
theorem decodeMessage_encodeFields {μ : Type} {empty : μ} {mergeField : μ → Field → Option μ} {fields : List Field}
    (valid : ∀ field ∈ fields, field.Valid) :
    decodeMessage empty mergeField (encodeFields fields) = fields.foldlM mergeField empty := by
  rw [decodeMessage, decodeFields_encodeFields valid, Option.bind_some]

end RoundTrip

namespace WireValue

/-- A scalar of another wire type is refused; a value that is too large is cut off. -/
def toUInt64 : WireValue → Option UInt64
  | varint value => some (UInt64.ofNat value)
  | _ => none

def toUInt32 : WireValue → Option UInt32
  | varint value => some (UInt32.ofNat value)
  | _ => none

def toBool : WireValue → Option Bool
  | varint value => some (value != 0)
  | _ => none

/-- The bits of a number that is stored in four bytes, the low one first. -/
def toBits32 : WireValue → Option UInt32
  | fixed32 bytes => some (bytes.foldr (fun byte high => byte.toUInt32 + 256 * high) 0)
  | _ => none

def toMessage : WireValue → Option Bytes
  | delimited bytes => some bytes
  | _ => none

/-- Bytes that are no UTF-8 are refused. -/
def toText (value : WireValue) : Option String := value.toMessage.bind fun bytes => String.fromUTF8? ⟨bytes.toArray⟩

end WireValue

/-- A field with the default value is left out. -/
def uint64Field (number : Nat) (value : UInt64) : List Field :=
  if value = 0 then [] else [⟨number, .varint value.toNat⟩]

def uint32Field (number : Nat) (value : UInt32) : List Field :=
  if value = 0 then [] else [⟨number, .varint value.toNat⟩]

def boolField (number : Nat) (value : Bool) : List Field := if value then [⟨number, .varint 1⟩] else []

/-- Both zeros are the default of a float, which is given by its bits. -/
def floatField (number : Nat) (bits : UInt32) : List Field :=
  if bits = 0 ∨ bits = 2 ^ 31 then []
  else [⟨number, .fixed32 [bits.toUInt8, (bits >>> 8).toUInt8, (bits >>> 16).toUInt8, (bits >>> 24).toUInt8]⟩]

/-- A message that is present is written even if it is empty. -/
def messageField (number : Nat) (bytes : Bytes) : List Field := [⟨number, .delimited bytes⟩]

def utf8 (text : String) : Bytes := text.toUTF8.data.toList

def stringField (number : Nat) (text : String) : List Field :=
  if text = "" then [] else [⟨number, .delimited (utf8 text)⟩]

section Fields
variable {number : Nat}

theorem uint64Field_valid {value : UInt64} (positive : 1 ≤ number) (bound : number < 2 ^ 29) :
    ∀ field ∈ uint64Field number value, field.Valid := by
  unfold uint64Field
  split
  · exact nofun
  · exact List.forall_mem_singleton.mpr ⟨positive, bound, value.toNat_lt⟩

theorem length_encodeVarint_le (limit : Nat) {value : Nat} (bound : value < 128 ^ (limit + 1)) :
    (encodeVarint value).length ≤ limit + 1 := by
  induction limit generalizing value with
  | zero =>
    rw [encodeVarint, if_pos (by omega)]
    exact Nat.le_refl 1
  | succ limit ih =>
    rw [encodeVarint]
    split
    · exact Nat.le_add_left 1 (limit + 1)
    · have smaller : value / 128 < 128 ^ (limit + 1) := Nat.div_lt_of_lt_mul (by rwa [Nat.mul_comm, ← Nat.pow_succ])
      exact Nat.succ_le_succ (ih smaller)

theorem length_uint64Field_le {value : UInt64} (bound : number < 2 ^ 29) :
    (encodeFields (uint64Field number value)).length ≤ 20 := by
  unfold uint64Field
  split
  · exact Nat.zero_le 20
  · have key : (encodeKey number .varint).length ≤ 10 := length_encodeVarint_le 9 (by change number * 8 + 0 < _; omega)
    have varint : (encodeVarint value.toNat).length ≤ 10 :=
      length_encodeVarint_le 9 (Nat.lt_of_lt_of_le value.toNat_lt (by decide))
    have parts : encodeFields [⟨number, .varint value.toNat⟩] = encodeKey number .varint ++ encodeVarint value.toNat :=
      List.append_nil _
    rw [parts, List.length_append]
    omega

theorem boolField_valid {value : Bool} (positive : 1 ≤ number) (bound : number < 2 ^ 29) :
    ∀ field ∈ boolField number value, field.Valid := by
  cases value with
  | false => exact nofun
  | true => exact List.forall_mem_singleton.mpr ⟨positive, bound, (by decide : 1 < 2 ^ 64)⟩

theorem messageField_valid {bytes : Bytes} (positive : 1 ≤ number) (bound : number < 2 ^ 29)
    (fits : bytes.length < 2 ^ 64) : ∀ field ∈ messageField number bytes, field.Valid :=
  List.forall_mem_singleton.mpr ⟨positive, bound, fits⟩

theorem stringField_valid {text : String} (positive : 1 ≤ number) (bound : number < 2 ^ 29)
    (fits : (utf8 text).length < 2 ^ 64) : ∀ field ∈ stringField number text, field.Valid := by
  unfold stringField
  split
  · intro field none
    exact absurd none List.not_mem_nil
  · exact List.forall_mem_singleton.mpr ⟨positive, bound, fits⟩

theorem toText_utf8 (text : String) : (WireValue.delimited (utf8 text)).toText = some text := by
  have same : (⟨(utf8 text).toArray⟩ : ByteArray) = text.toUTF8 := by
    rw [utf8, Array.toArray_toList]
  have valid : text.toUTF8.IsValidUTF8 := text.isValidUTF8
  change String.fromUTF8? ⟨(utf8 text).toArray⟩ = some text
  rw [same, String.fromUTF8?, dif_pos valid]
  rfl

/-- A number that is left out is the one that an empty message has. -/
theorem foldlM_uint64Field {μ : Type} {value : UInt64} {message : μ} {mergeField : μ → Field → Option μ}
    {set : UInt64 → μ} (merges : ∀ value, mergeField message ⟨number, .varint value⟩ = some (set (UInt64.ofNat value)))
    (default : set 0 = message) : (uint64Field number value).foldlM mergeField message = some (set value) := by
  unfold uint64Field
  split
  · next zero =>
    rw [zero, default]
    rfl
  · rw [List.foldlM_cons, merges, UInt64.ofNat_toNat]
    rfl

theorem foldlM_stringField {μ : Type} {text : String} {message : μ} {mergeField : μ → Field → Option μ} (set : String → μ)
    (merges : ∀ value, mergeField message ⟨number, value⟩ = value.toText.map set) (default : set "" = message) :
    (stringField number text).foldlM mergeField message = some (set text) := by
  unfold stringField
  split
  · next empty =>
    rw [empty, default]
    rfl
  · rw [List.foldlM_cons, merges, toText_utf8]
    rfl

theorem foldlM_boolField {μ : Type} {value : Bool} {message : μ} {mergeField : μ → Field → Option μ} (set : Bool → μ)
    (merges : mergeField message ⟨number, .varint 1⟩ = some (set true)) (default : set false = message) :
    (boolField number value).foldlM mergeField message = some (set value) := by
  cases value with
  | false => exact congrArg some default.symm
  | true =>
    rw [boolField, if_pos rfl, List.foldlM_cons, merges]
    rfl

end Fields

end DatafusionRay.Foundation.WireFormat
