import WebPubSub.Library.MsgPack

/-!
# Protocol Buffers

The wire format, and the types of messages over it. A message is a sequence of fields, each a
number with a value of one of four wire types; groups, which no type here has, are passed over.
A type of messages says how a field changes a message, and any field it does not know leaves
the message as it is. What it writes it reads back, which it carries as a law.

A later field counts over an earlier one, and a message within a message is merged with the
one that was read before it. The limits of the format on the length of a varint, on the size
of a message and on how deep groups stand in each other are left out.
-/

namespace Protobuf

open MsgPack (Bytes Reader Reads)

/-! ## Varints -/

/-- Seven bits a byte, the lowest first, with a mark on every byte but the last. The first
argument bounds the number of further bytes. -/
def varintWithin : Nat → Nat → Bytes
  | 0, value => [UInt8.ofNat value]
  | further + 1, value =>
      if value < 128 then [UInt8.ofNat value]
      else UInt8.ofNat (value % 128 + 128) :: varintWithin further (value / 128)

/-- The bytes of a number, seven bits in each, the lowest first. -/
def varint (value : Nat) : Bytes := varintWithin value value

/-- A number up to the first byte without the highest bit. -/
def readVarint : Reader Nat
  | [] => none
  | byte :: rest =>
      if byte.toNat < 128 then some (byte.toNat, rest)
      else (readVarint rest).map (fun read => (byte.toNat - 128 + 128 * read.1, read.2))

theorem readVarint_eq : readVarint = Reader.byte.bind (fun byte =>
    if byte.toNat < 128 then Reader.pure byte.toNat
    else readVarint.map (fun higher => byte.toNat - 128 + 128 * higher)) := by
  funext bytes
  cases bytes with
  | nil => rfl
  | cons byte rest =>
    rw [readVarint, Reader.bind, Reader.byte, Option.bind_some]
    split <;> rfl

/-- A number is read from its bytes. -/
theorem reads_varintWithin {further value : Nat} (bounded : value ≤ further) :
    Reads readVarint (varintWithin further value) value := by
  have last {value : Nat} (small : value < 128) :
      Reads readVarint [UInt8.ofNat value] value := by
    have spelled : (UInt8.ofNat value).toNat = value := Utf8.byte_toNat (by omega)
    rw [readVarint_eq]
    refine (MsgPack.reads_byte (UInt8.ofNat value)).bind ?_
    rw [spelled, if_pos small]
    exact MsgPack.reads_pure value
  induction further generalizing value with
  | zero => exact last (by omega)
  | succ further inductionHypothesis =>
    rw [varintWithin]
    split
    · rename_i small
      exact last small
    · rename_i large
      have spelled : (UInt8.ofNat (value % 128 + 128)).toNat = value % 128 + 128 :=
        Utf8.byte_toNat (by omega)
      have value_eq : value % 128 + 128 - 128 + 128 * (value / 128) = value := by omega
      have rest : Reads readVarint (varintWithin further (value / 128)) (value / 128) :=
        inductionHypothesis (by omega)
      have higher := rest.map (fun higher => value % 128 + 128 - 128 + 128 * higher)
      rw [value_eq] at higher
      rw [readVarint_eq]
      refine (MsgPack.reads_byte (UInt8.ofNat (value % 128 + 128))).bind ?_
      rw [spelled, if_neg (by omega)]
      exact higher

/-- A number is read back. -/
theorem reads_varint (value : Nat) : Reads readVarint (varint value) value :=
  reads_varintWithin le_rfl

/-! ## Fields -/

/-- A value with its wire type. -/
inductive WireValue where
  | varint (value : Nat)
  | fixed64 (bytes : Bytes)
  | lengthDelimited (bytes : Bytes)
  | fixed32 (bytes : Bytes)
deriving DecidableEq

/-- A field with its number. -/
structure Field where
  number : Nat
  value : WireValue
deriving DecidableEq

namespace WireValue

/-- The kind of a value in the key of its field. -/
def wireType : WireValue → Nat
  | varint _ => 0
  | fixed64 _ => 1
  | lengthDelimited _ => 2
  | fixed32 _ => 5

def write : WireValue → Bytes
  | varint value => Protobuf.varint value
  | fixed64 bytes => bytes
  | lengthDelimited bytes => Protobuf.varint bytes.length ++ bytes
  | fixed32 bytes => bytes

/-- A fixed value has its length. -/
def Sized : WireValue → Prop
  | fixed64 bytes => bytes.length = 8
  | fixed32 bytes => bytes.length = 4
  | _ => True

end WireValue

/-- A field that the format admits. -/
structure Field.Valid (field : Field) : Prop where
  positive : 0 < field.number
  bounded : field.number < 2 ^ 29
  sized : field.value.Sized

/-- The key and the value. -/
def writeField (field : Field) : Bytes :=
  varint (field.number * 8 + field.value.wireType) ++ field.value.write

/-- What is read at a time: a field, or an end of a group. -/
inductive Token where
  | field (field : Field)
  | startGroup (number : Nat)
  | endGroup (number : Nat)

/-- The value after a tag, by its wire type. -/
def readValue (number : Nat) : Nat → Reader Token
  | 0 => readVarint.map (fun value => .field ⟨number, .varint value⟩)
  | 1 => (Reader.take 8).map (fun bytes => .field ⟨number, .fixed64 bytes⟩)
  | 2 => (readVarint.bind Reader.take).map (fun bytes => .field ⟨number, .lengthDelimited bytes⟩)
  | 3 => Reader.pure (.startGroup number)
  | 4 => Reader.pure (.endGroup number)
  | 5 => (Reader.take 4).map (fun bytes => .field ⟨number, .fixed32 bytes⟩)
  | _ => fun _ => none

/-- A tag has 32 bits and no number zero. -/
def readToken : Reader Token :=
  readVarint.bind (fun tag =>
    if tag % 2 ^ 32 / 8 = 0 then fun _ => none
    else readValue (tag % 2 ^ 32 / 8) (tag % 2 ^ 32 % 8))

/-- All tokens, of which each takes a byte. -/
def readTokens : Nat → Bytes → Option (List Token)
  | _, [] => some []
  | 0, _ :: _ => none
  | further + 1, byte :: bytes =>
      (readToken (byte :: bytes)).bind (fun read =>
        (readTokens further read.2).map (fun tokens => read.1 :: tokens))

/-- The fields outside of every group, when each group is closed. The numbers are those of the
groups that are open. -/
def outside : List Nat → List Token → Option (List Field)
  | [], [] => some []
  | _ :: _, [] => none
  | [], .field field :: tokens => (outside [] tokens).map (fun fields => field :: fields)
  | number :: groups, .field _ :: tokens => outside (number :: groups) tokens
  | groups, .startGroup number :: tokens => outside (number :: groups) tokens
  | [], .endGroup _ :: _ => none
  | opened :: groups, .endGroup number :: tokens =>
      if opened = number then outside groups tokens else none

/-- The fields of a message. -/
def readFields (bytes : Bytes) : Option (List Field) :=
  (readTokens bytes.length bytes).bind (outside [])

/-- A field is read from its bytes. -/
theorem reads_field {field : Field} (valid : field.Valid) :
    Reads readToken (writeField field) (.field field) := by
  obtain ⟨number, value⟩ := field
  have positive : 0 < number := valid.positive
  have bounded : number < 2 ^ 29 := valid.bounded
  have sized : value.Sized := valid.sized
  have small : value.wireType < 8 := by cases value <;> simp [WireValue.wireType]
  have tag : (number * 8 + value.wireType) % 2 ^ 32 = number * 8 + value.wireType :=
    Nat.mod_eq_of_lt (by omega)
  have numbered : (number * 8 + value.wireType) / 8 = number := by omega
  have typed : (number * 8 + value.wireType) % 8 = value.wireType := by omega
  refine (reads_varint (number * 8 + value.wireType)).bind ?_
  rw [tag, numbered, typed, if_neg (by omega)]
  cases value with
  | varint value =>
    exact (reads_varint value).map (fun value => Token.field ⟨number, .varint value⟩)
  | fixed64 bytes =>
    exact (MsgPack.reads_take sized).map (fun bytes => Token.field ⟨number, .fixed64 bytes⟩)
  | lengthDelimited bytes =>
    exact ((reads_varint bytes.length).bind (MsgPack.reads_take rfl)).map
      (fun bytes => Token.field ⟨number, .lengthDelimited bytes⟩)
  | fixed32 bytes =>
    exact (MsgPack.reads_take sized).map (fun bytes => Token.field ⟨number, .fixed32 bytes⟩)

theorem writeField_ne_nil (field : Field) : writeField field ≠ [] := by
  have started (further value : Nat) : varintWithin further value ≠ [] := by
    cases further with
    | zero => exact List.cons_ne_nil _ _
    | succ further =>
      rw [varintWithin]
      split <;> exact List.cons_ne_nil _ _
  rw [writeField]
  exact List.append_ne_nil_of_left_ne_nil (started _ _) _

/-- Fields are read one after another. -/
theorem readTokens_write {fields : List Field} (valid : ∀ field ∈ fields, field.Valid) :
    ∀ further, (fields.flatMap writeField).length ≤ further →
      readTokens further (fields.flatMap writeField) = some (fields.map .field) := by
  induction fields with
  | nil =>
    intro further _
    cases further <;> rfl
  | cons field fields inductionHypothesis =>
    intro further bounded
    obtain ⟨first, others⟩ := List.forall_mem_cons.mp valid
    rw [List.flatMap_cons, List.length_append] at bounded
    rw [List.flatMap_cons]
    obtain ⟨byte, rest, spelled⟩ := List.exists_cons_of_ne_nil (writeField_ne_nil field)
    have read := (reads_field first).front (fields.flatMap writeField)
    rw [spelled, List.cons_append] at read
    rw [spelled, List.length_cons] at bounded
    obtain ⟨fuel, rfl⟩ : ∃ fuel, further = fuel + 1 := ⟨further - 1, by omega⟩
    rw [spelled, List.cons_append, readTokens, read, Option.bind_some,
      inductionHypothesis others fuel (by omega)]
    rfl

theorem outside_fields (fields : List Field) : outside [] (fields.map .field) = some fields := by
  induction fields with
  | nil => rfl
  | cons field fields inductionHypothesis =>
    rw [List.map_cons, outside, inductionHypothesis]
    rfl

/-- Fields that are written are read back, in their order. -/
theorem readFields_write {fields : List Field} (valid : ∀ field ∈ fields, field.Valid) :
    readFields (fields.flatMap writeField) = some fields := by
  rw [readFields, readTokens_write valid _ le_rfl, Option.bind_some]
  exact outside_fields fields

/-! ## Messages -/

/-- A type of messages, as its parser and writer use it. -/
structure MessageType (Message : Type) where
  empty : Message
  mergeFrom : Message → Bytes → Option Message
  toByteArray : Message → Bytes
  inverts : ∀ message, mergeFrom empty (toByteArray message) = some message

namespace MessageType

variable {Message Sub : Type}

/-- `Parser.ParseFrom`, which throws by giving `none`. -/
def parseFrom (type : MessageType Message) (bytes : Bytes) : Option Message :=
  type.mergeFrom type.empty bytes

/-- What a type writes it reads back. -/
theorem parseFrom_toByteArray (type : MessageType Message) (message : Message) :
    type.parseFrom (type.toByteArray message) = some message := type.inverts message

/-- The type whose messages change field by field. -/
def ofFields (empty : Message) (merge : Message → Field → Option Message)
    (fields : Message → List Field) (valid : ∀ message, ∀ field ∈ fields message, field.Valid)
    (inverts : ∀ message, (fields message).foldlM merge empty = some message) :
    MessageType Message where
  empty := empty
  mergeFrom message bytes := (readFields bytes).bind (fun fields => fields.foldlM merge message)
  toByteArray message := (fields message).flatMap writeField
  inverts message := by
    rw [readFields_write (valid message), Option.bind_some]
    exact inverts message

/-- Merging a message within a message with the one that was there. -/
def mergeInto (type : MessageType Sub) (before : Option Sub) (bytes : Bytes) : Option Sub :=
  type.mergeFrom (before.getD type.empty) bytes

@[simp]
theorem mergeInto_none (type : MessageType Sub) (message : Sub) :
    type.mergeInto none (type.toByteArray message) = some message := type.inverts message

end MessageType

/-! ## Fields of a type -/

/-- How the bytes of a text are read, which gives `none` where it throws. -/
structure TextReader where
  read : Bytes → Option (List Char)
  read_encode : ∀ text, read (Utf8.encode text) = some text

def textValue (text : List Char) : WireValue := .lengthDelimited (Utf8.encode text)

def bytesValue (bytes : Bytes) : WireValue := .lengthDelimited bytes

def int64Value (value : Int64) : WireValue := .varint value.toUInt64.toNat

def boolValue (value : Bool) : WireValue := .varint value.toNat

/-- A message inside a message is written with its length. -/
def messageValue {Message : Type} (type : MessageType Message) (message : Message) : WireValue :=
  .lengthDelimited (type.toByteArray message)

theorem sized_text (text : List Char) : (textValue text).Sized := trivial

theorem sized_bytes (bytes : Bytes) : (bytesValue bytes).Sized := trivial

theorem sized_int64 (value : Int64) : (int64Value value).Sized := trivial

theorem sized_bool (value : Bool) : (boolValue value).Sized := trivial

theorem sized_message {Message : Type} (type : MessageType Message) (message : Message) :
    (messageValue type message).Sized := trivial

/-- A value is written unless it is the default. -/
def defaultField {Value : Type} [DecidableEq Value] (number : Nat) (write : Value → WireValue)
    (default value : Value) : List Field :=
  if value = default then [] else [⟨number, write value⟩]

/-- An optional value is written whenever there is one. -/
def optionalField {Value : Type} (number : Nat) (write : Value → WireValue) (value : Option Value) :
    List Field := (value.map (fun value => ⟨number, write value⟩)).toList

/-- The integer and the truth value of a varint. -/
def readInt64 (value : Nat) : Int64 := (UInt64.ofNat value).toInt64

/-- Any number but zero is true, in 64 bits. -/
def readBool (value : Nat) : Bool := UInt64.ofNat value != 0

/-- A signed number is read from its two's complement. -/
@[simp]
theorem readInt64_toNat (value : Int64) : readInt64 value.toUInt64.toNat = value := by
  simp [readInt64]

@[simp]
theorem readBool_toNat (value : Bool) : readBool value.toNat = value := by
  cases value <;> rfl

/-- The fields lead from one message to another. -/
def Leads {Message : Type} (merge : Message → Field → Option Message) (before : Message)
    (fields : List Field) (after : Message) : Prop := fields.foldlM merge before = some after

section Leads

variable {Message Value : Type} {merge : Message → Field → Option Message}
  {before between after : Message} {number : Nat} {write : Value → WireValue}

theorem leads_nil : Leads merge before [] before := rfl

theorem leads_one {field : Field} (merged : merge before field = some after) :
    Leads merge before [field] after := by
  simp [Leads, merged]

/-- Fields that are read one after another. -/
theorem Leads.append {first second : List Field} (leads : Leads merge before first between)
    (continues : Leads merge between second after) : Leads merge before (first ++ second) after := by
  rw [Leads, List.foldlM_append, show first.foldlM merge before = some between from leads]
  exact continues

/-- A field leads there when its value is read so, and nowhere when it is not written. -/
theorem leads_defaultField [DecidableEq Value] {default value : Value}
    (merged : merge before ⟨number, write value⟩ = some after)
    (unwritten : value = default → before = after) :
    Leads merge before (defaultField number write default value) after := by
  unfold defaultField
  split
  · rename_i same
    rw [unwritten same]
    exact leads_nil
  · exact leads_one merged

/-- A field that is there is merged, and one that is not changes nothing. -/
theorem leads_optionalField {value : Option Value}
    (merged : ∀ given, value = some given → merge before ⟨number, write given⟩ = some after)
    (unwritten : value = none → before = after) :
    Leads merge before (optionalField number write value) after := by
  cases value with
  | none =>
    rw [unwritten rfl]
    exact leads_nil
  | some given => exact leads_one (merged given rfl)

/-- The numbers of a schema are such that its fields are valid. -/
theorem valid_one {value : WireValue} (numbered : 0 < number ∧ number < 2 ^ 29)
    (sized : value.Sized) : ∀ field ∈ [Field.mk number value], field.Valid := by
  intro field listed
  rw [List.mem_singleton.mp listed]
  exact ⟨numbered.1, numbered.2, sized⟩

theorem valid_append {first second : List Field} (of_first : ∀ field ∈ first, field.Valid)
    (of_second : ∀ field ∈ second, field.Valid) : ∀ field ∈ first ++ second, field.Valid :=
  List.forall_mem_append.mpr ⟨of_first, of_second⟩

/-- A field that is left out by its default is valid. -/
theorem valid_defaultField [DecidableEq Value] (numbered : 0 < number ∧ number < 2 ^ 29)
    (sized : ∀ value, (write value).Sized) (default value : Value) :
    ∀ field ∈ defaultField number write default value, field.Valid := by
  intro field listed
  unfold defaultField at listed
  split at listed
  · cases listed
  · exact valid_one numbered (sized value) field listed

theorem valid_optionalField (numbered : 0 < number ∧ number < 2 ^ 29)
    (sized : ∀ value, (write value).Sized) (value : Option Value) :
    ∀ field ∈ optionalField number write value, field.Valid := by
  intro field listed
  cases value with
  | none => cases listed
  | some given => exact valid_one numbered (sized given) field listed

end Leads

end Protobuf
