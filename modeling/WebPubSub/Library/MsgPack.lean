import WebPubSub.Library.Utf8

/-!
# MessagePack

The part of the format that a flat array of plain values needs: `nil`, integers that are
not negative, texts, bytes, and the array itself, each with the shortest header that fits.

A reader takes a value from the first bytes and leaves the others. What is known of an
encoding is one relation, `Reads`: the value is read off it whatever follows, and no part
of it is enough. The relation composes as the readers do, so the array needs no argument
of its own.
-/

namespace MsgPack

abbrev Bytes := List UInt8

/-! ## Readers -/

/-- Takes a value from the first bytes; `none` when they are no such value. -/
abbrev Reader (Value : Type) := Bytes → Option (Value × Bytes)

namespace Reader

variable {Value Result : Type}

def pure (value : Value) : Reader Value := fun bytes => some (value, bytes)

def bind (reader : Reader Value) (next : Value → Reader Result) : Reader Result := fun bytes =>
  (reader bytes).bind (fun read => next read.1 read.2)

def map (convert : Value → Result) (reader : Reader Value) : Reader Result := fun bytes =>
  (reader bytes).map (fun read => (convert read.1, read.2))

/-- The next `count` bytes. -/
def take (count : Nat) : Reader Bytes := fun bytes =>
  if count ≤ bytes.length then some (bytes.take count, bytes.drop count) else none

/-- The next byte. -/
def byte : Reader UInt8
  | [] => none
  | first :: rest => some (first, rest)

end Reader

/-- The reader takes `value` from exactly these bytes: it leaves what follows them, and it
refuses them when they are cut short. -/
structure Reads {Value : Type} (reader : Reader Value) (bytes : Bytes) (value : Value) : Prop where
  front : ∀ rest, reader (bytes ++ rest) = some (value, rest)
  truncated : ∀ part, part <+: bytes → part ≠ bytes → reader part = none

section Reads

variable {Value Result : Type}

theorem reads_pure (value : Value) : Reads (Reader.pure value) [] value := by
  constructor
  · intro rest
    rfl
  · intro part cut short
    exact absurd (List.prefix_nil.mp cut) short

/-- A part of two pieces is a part of the first, or the first and a part of the second. -/
theorem cut_append_cases {part first second : Bytes} (cut : part <+: first ++ second)
    (short : part ≠ first ++ second) :
    (part <+: first ∧ part ≠ first) ∨
      ∃ inner, part = first ++ inner ∧ inner <+: second ∧ inner ≠ second := by
  rcases List.prefix_or_prefix_of_prefix cut (List.prefix_append first second) with
    inside | covers
  · by_cases whole : part = first
    · right
      refine ⟨[], ?_, List.nil_prefix, ?_⟩
      · simpa using whole
      · intro empty
        apply short
        rw [whole, ← empty, List.append_nil]
    · exact Or.inl ⟨inside, whole⟩
  · obtain ⟨inner, rfl⟩ := covers
    right
    refine ⟨inner, rfl, (List.prefix_append_right_inj first).mp cut, ?_⟩
    intro whole
    exact short (by rw [whole])

/-- One reader after another reads one piece after the other. -/
theorem Reads.bind {reader : Reader Value} {next : Value → Reader Result} {first second : Bytes}
    {value : Value} {result : Result} (reads : Reads reader first value)
    (continues : Reads (next value) second result) :
    Reads (reader.bind next) (first ++ second) result := by
  constructor
  · intro rest
    rw [Reader.bind, List.append_assoc, reads.front, Option.bind_some]
    exact continues.front rest
  · intro part cut short
    rcases cut_append_cases cut short with ⟨inside, part_short⟩ | ⟨inner, rfl, inside, short⟩
    · rw [Reader.bind, reads.truncated part inside part_short, Option.bind_none]
    · rw [Reader.bind, reads.front, Option.bind_some]
      exact continues.truncated inner inside short

/-- A value is converted after it was read. -/
theorem Reads.map {reader : Reader Value} {bytes : Bytes} {value : Value}
    (reads : Reads reader bytes value) (convert : Value → Result) :
    Reads (reader.map convert) bytes (convert value) := by
  constructor
  · intro rest
    rw [Reader.map, reads.front, Option.map_some]
  · intro part cut short
    rw [Reader.map, reads.truncated part cut short, Option.map_none]

theorem reads_byte (value : UInt8) : Reads Reader.byte [value] value := by
  constructor
  · intro rest
    rfl
  · intro part cut short
    rcases List.prefix_cons_iff.mp cut with rfl | ⟨inner, rfl, inside⟩
    · rfl
    · exact absurd (by rw [List.prefix_nil.mp inside]) short

/-- As many bytes as were counted are read. -/
theorem reads_take {count : Nat} {bytes : Bytes} (counted : bytes.length = count) :
    Reads (Reader.take count) bytes bytes := by
  subst counted
  constructor
  · intro rest
    simp [Reader.take]
  · intro part cut short
    have shorter : part.length < bytes.length := by
      apply lt_of_le_of_ne cut.length_le
      intro same
      exact short (cut.eq_of_length same)
    simp only [Reader.take]
    rw [if_neg (Nat.not_le.mpr shorter)]

end Reads

/-! ## Numbers -/

/-- The `width` lowest bytes of a number, the most significant first. -/
def bigEndian : Nat → Nat → Bytes
  | 0, _ => []
  | width + 1, value => bigEndian width (value / 256) ++ [UInt8.ofNat value]

/-- The number that bytes spell, after the digits that were read before them. -/
def fromBigEndian (before : Nat) (bytes : Bytes) : Nat :=
  bytes.foldl (fun value byte => value * 256 + byte.toNat) before

@[simp]
theorem length_bigEndian (width value : Nat) : (bigEndian width value).length = width := by
  induction width generalizing value with
  | zero => rfl
  | succ width inductionHypothesis => simp [bigEndian, inductionHypothesis]

/-- A number that fits the width is read from its digits. -/
theorem fromBigEndian_bigEndian (width : Nat) {value : Nat} (small : value < 256 ^ width) :
    fromBigEndian 0 (bigEndian width value) = value := by
  induction width generalizing value with
  | zero =>
    have zero : value = 0 := by simpa using small
    rw [zero]
    rfl
  | succ width inductionHypothesis =>
    have higher : fromBigEndian 0 (bigEndian width (value / 256)) = value / 256 := by
      apply inductionHypothesis
      rw [pow_succ] at small
      omega
    have lowest : (UInt8.ofNat value).toNat = value % 256 := by simp
    unfold fromBigEndian at higher ⊢
    rw [bigEndian, List.foldl_append, higher, List.foldl_cons, List.foldl_nil, lowest]
    omega

/-- A number of `width` bytes. -/
def number (width : Nat) : Reader Nat := (Reader.take width).map (fromBigEndian 0)

/-- A number of a width is read from its bytes. -/
theorem reads_number (width : Nat) {value : Nat} (small : value < 256 ^ width) :
    Reads (number width) (bigEndian width value) value := by
  have taken : Reads (Reader.take width) (bigEndian width value) (bigEndian width value) :=
    reads_take (length_bigEndian width value)
  have spelled : fromBigEndian 0 (bigEndian width value) = value :=
    fromBigEndian_bigEndian width small
  have mapped : Reads (number width) (bigEndian width value)
    (fromBigEndian 0 (bigEndian width value)) := taken.map _
  rwa [spelled] at mapped

/-! ## Values -/

/-- A plain value. -/
inductive Scalar where
  | nil
  | integer (value : Nat)
  | text (value : List Char)
  | binary (value : Bytes)
deriving DecidableEq

/-- A header with a length of one, two or four bytes; there is none for a longer value. -/
def sized (one two four : UInt8) (length : Nat) : Option Bytes :=
  if length < 256 then some (one :: bigEndian 1 length)
  else if length < 65536 then some (two :: bigEndian 2 length)
  else if length < 4294967296 then some (four :: bigEndian 4 length)
  else none

/-- The header of a text of a length in bytes; a text may be too long for one. -/
def textHeader (length : Nat) : Option Bytes :=
  if length < 32 then some [UInt8.ofNat (0xA0 + length)] else sized 0xD9 0xDA 0xDB length

/-- The shortest form of a scalar. -/
def Scalar.encode : Scalar → Option Bytes
  | .nil => some [0xC0]
  | .integer value =>
      if value < 128 then some [UInt8.ofNat value] else sized 0xCC 0xCD 0xCE value
  | .text value =>
      (textHeader (Utf8.encode value).length).map (fun header => header ++ Utf8.encode value)
  | .binary value =>
      (sized 0xC4 0xC5 0xC6 value.length).map (fun header => header ++ value)

/-- A text of a length, whose bytes are decoded with replacements. -/
def readText (length : Nat) : Reader Scalar :=
  (Reader.take length).map (fun bytes => .text (Utf8.Decoder.run none bytes))

def readBinary (length : Nat) : Reader Scalar := (Reader.take length).map .binary

def readInteger (value : Nat) : Reader Scalar := Reader.pure (.integer value)

/-- What follows the first byte of a value. -/
def afterHeader (header : UInt8) : Reader Scalar :=
  if header.toNat < 0x80 then readInteger header.toNat
  else if 0xA0 ≤ header.toNat ∧ header.toNat < 0xC0 then readText (header.toNat - 0xA0)
  else if header = 0xC0 then Reader.pure .nil
  else if header = 0xC4 then (number 1).bind readBinary
  else if header = 0xC5 then (number 2).bind readBinary
  else if header = 0xC6 then (number 4).bind readBinary
  else if header = 0xCC then (number 1).bind readInteger
  else if header = 0xCD then (number 2).bind readInteger
  else if header = 0xCE then (number 4).bind readInteger
  else if header = 0xD9 then (number 1).bind readText
  else if header = 0xDA then (number 2).bind readText
  else if header = 0xDB then (number 4).bind readText
  else fun _ => none

/-- A header and what it announces. -/
def readScalar : Reader Scalar := Reader.byte.bind afterHeader

/-- A number of scalars. -/
def readScalars : Nat → Reader (List Scalar)
  | 0 => Reader.pure []
  | count + 1 =>
      readScalar.bind (fun item => (readScalars count).map (fun items => item :: items))

/-! ## Arrays -/

/-- The header of an array with a number of items, if there is one. -/
def arrayHeader (length : Nat) : Option Bytes :=
  if length < 16 then some [UInt8.ofNat (0x90 + length)]
  else if length < 65536 then some (0xDC :: bigEndian 2 length)
  else if length < 4294967296 then some (0xDD :: bigEndian 4 length)
  else none

def encodeItems : List Scalar → Option Bytes
  | [] => some []
  | item :: items =>
      item.encode.bind (fun first => (encodeItems items).map (fun rest => first ++ rest))

/-- `encode` of a flat array, with all its items in order; `none` when something does not
fit its header. -/
def encode (items : List Scalar) : Option Bytes :=
  (arrayHeader items.length).bind (fun header =>
    (encodeItems items).map (fun rest => header ++ rest))

/-- An array with any of its headers. -/
def readArray : Reader (List Scalar) :=
  Reader.byte.bind (fun header =>
    if 0x90 ≤ header.toNat ∧ header.toNat < 0xA0 then readScalars (header.toNat - 0x90)
    else if header = 0xDC then (number 2).bind readScalars
    else if header = 0xDD then (number 4).bind readScalars
    else fun _ => none)

/-- `decode` of a flat array: it throws when bytes are left. -/
def decode (bytes : Bytes) : Option (List Scalar) :=
  (readArray bytes).bind (fun read => if read.2 = [] then some read.1 else none)

/-! ## What is written is read back -/

variable {Result : Type}

/-- A header that gives a length is read with that length. -/
theorem reads_sized {one two four : UInt8} {length : Nat} {header : Bytes}
    {next : UInt8 → Reader Result} {body : Nat → Reader Result} {bytes : Bytes} {result : Result}
    (fits : sized one two four length = some header)
    (of_one : next one = (number 1).bind body) (of_two : next two = (number 2).bind body)
    (of_four : next four = (number 4).bind body) (reads : Reads (body length) bytes result) :
    Reads (Reader.byte.bind next) (header ++ bytes) result := by
  have after (width : Nat) (first : UInt8) (small : length < 256 ^ width)
      (of_first : next first = (number width).bind body) :
      Reads (Reader.byte.bind next) (first :: bigEndian width length ++ bytes) result := by
    have lengthRead : Reads (next first) (bigEndian width length ++ bytes) result := by
      rw [of_first]
      exact (reads_number width small).bind reads
    exact (reads_byte first).bind lengthRead
  unfold sized at fits
  split_ifs at fits with short middle long
  · cases fits
    exact after 1 one (by omega) of_one
  · cases fits
    exact after 2 two (by omega) of_two
  · cases fits
    exact after 4 four (by omega) of_four

/-- A text is read from its bytes. -/
theorem reads_readText (value : List Char) :
    Reads (readText (Utf8.encode value).length) (Utf8.encode value) (.text value) := by
  have taken : Reads (Reader.take (Utf8.encode value).length) (Utf8.encode value)
    (Utf8.encode value) := reads_take rfl
  have decoded : Reads (readText (Utf8.encode value).length) (Utf8.encode value)
    (.text (Utf8.Decoder.run none (Utf8.encode value))) := taken.map _
  rwa [Utf8.run_encode] at decoded

theorem reads_readBinary (value : Bytes) :
    Reads (readBinary value.length) value (.binary value) :=
  (reads_take rfl).map Scalar.binary

/-- A scalar is read from its bytes. -/
theorem reads_scalar {item : Scalar} {bytes : Bytes} (encoded : item.encode = some bytes) :
    Reads readScalar bytes item := by
  cases item with
  | nil =>
    cases encoded
    exact (reads_byte 0xC0).bind (reads_pure Scalar.nil)
  | integer value =>
    simp only [Scalar.encode] at encoded
    split_ifs at encoded with small
    · cases encoded
      have header : (UInt8.ofNat value).toNat = value := Utf8.byte_toNat (by omega)
      have rest : Reads (afterHeader (UInt8.ofNat value)) [] (.integer value) := by
        rw [afterHeader, header, if_pos small]
        exact reads_pure _
      exact (reads_byte _).bind rest
    · have read : Reads (readInteger value) [] (.integer value) := reads_pure _
      have sizedRead : Reads readScalar (bytes ++ []) (.integer value) :=
        reads_sized encoded rfl rfl rfl read
      rwa [List.append_nil] at sizedRead
  | text value =>
    obtain ⟨header, fits, rfl⟩ := Option.map_eq_some_iff.mp encoded
    unfold textHeader at fits
    split_ifs at fits with small
    · cases fits
      have spelled : (UInt8.ofNat (0xA0 + (Utf8.encode value).length)).toNat =
        0xA0 + (Utf8.encode value).length := Utf8.byte_toNat (by omega)
      have rest : Reads (afterHeader (UInt8.ofNat (0xA0 + (Utf8.encode value).length)))
          (Utf8.encode value) (.text value) := by
        rw [afterHeader, spelled, if_neg (by omega), if_pos (by omega), Nat.add_sub_cancel_left]
        exact reads_readText value
      exact (reads_byte _).bind rest
    · exact reads_sized fits rfl rfl rfl (reads_readText value)
  | binary value =>
    obtain ⟨header, fits, rfl⟩ := Option.map_eq_some_iff.mp encoded
    exact reads_sized fits rfl rfl rfl (reads_readBinary value)

/-- The items are read one after another. -/
theorem reads_items {items : List Scalar} {bytes : Bytes} (encoded : encodeItems items = some bytes) :
    Reads (readScalars items.length) bytes items := by
  induction items generalizing bytes with
  | nil =>
    cases encoded
    exact reads_pure []
  | cons item items inductionHypothesis =>
    obtain ⟨first, itemEncoded, more⟩ := Option.bind_eq_some_iff.mp encoded
    obtain ⟨rest, itemsEncoded, rfl⟩ := Option.map_eq_some_iff.mp more
    have others : Reads ((readScalars items.length).map (fun items => item :: items)) rest
      (item :: items) := (inductionHypothesis itemsEncoded).map _
    exact (reads_scalar itemEncoded).bind others

/-- An array is read from its bytes. -/
theorem reads_array {items : List Scalar} {bytes : Bytes} (encoded : encode items = some bytes) :
    Reads readArray bytes items := by
  obtain ⟨header, fits, more⟩ := Option.bind_eq_some_iff.mp encoded
  obtain ⟨rest, itemsEncoded, rfl⟩ := Option.map_eq_some_iff.mp more
  have body : Reads (readScalars items.length) rest items := reads_items itemsEncoded
  have after (width : Nat) (small : items.length < 256 ^ width) :
      Reads ((number width).bind readScalars) (bigEndian width items.length ++ rest) items :=
    (reads_number width small).bind body
  unfold arrayHeader at fits
  split_ifs at fits with small middle long
  · cases fits
    have spelled : (UInt8.ofNat (0x90 + items.length)).toNat = 0x90 + items.length :=
      Utf8.byte_toNat (by omega)
    apply (reads_byte _).bind
    rw [spelled, if_pos (by omega), Nat.add_sub_cancel_left]
    exact body
  · cases fits
    exact (reads_byte 0xDC).bind (after 2 (by omega))
  · cases fits
    exact (reads_byte 0xDD).bind (after 4 (by omega))

/-- What was encoded is decoded as it was. -/
theorem decode_encode {items : List Scalar} {bytes : Bytes} (encoded : encode items = some bytes) :
    decode bytes = some items := by
  have read : readArray (bytes ++ []) = some (items, []) := (reads_array encoded).front []
  rw [List.append_nil] at read
  rw [decode, read]
  rfl

/-- Bytes that end before the encoding does are refused. -/
theorem decode_truncated {items : List Scalar} {bytes part : Bytes}
    (encoded : encode items = some bytes) (cut : part <+: bytes) (short : part ≠ bytes) :
    decode part = none := by
  rw [decode, (reads_array encoded).truncated part cut short, Option.bind_none]

/-! ## What is read is all there is -/

/-- What a reader takes, it takes whatever follows. -/
def Steady {Value : Type} (reader : Reader Value) : Prop :=
  ∀ bytes more value rest, reader bytes = some (value, rest) →
    reader (bytes ++ more) = some (value, rest ++ more)

section Steady

variable {Value : Type}

theorem steady_pure (value : Value) : Steady (Reader.pure value) := by
  intro bytes more read rest taken
  cases taken
  rfl

theorem steady_none : Steady (fun _ => none : Reader Value) := by
  intro bytes more read rest taken
  cases taken

/-- A reader that goes on with another is steady if both are. -/
theorem Steady.bind {reader : Reader Value} {next : Value → Reader Result} (steady : Steady reader)
    (continues : ∀ value, Steady (next value)) : Steady (reader.bind next) := by
  intro bytes more result rest taken
  obtain ⟨⟨value, left⟩, read, after⟩ := Option.bind_eq_some_iff.mp taken
  rw [Reader.bind, steady bytes more value left read, Option.bind_some]
  exact continues value left more result rest after

theorem Steady.map {reader : Reader Value} (steady : Steady reader) (convert : Value → Result) :
    Steady (reader.map convert) := by
  intro bytes more result rest taken
  obtain ⟨⟨value, left⟩, read, same⟩ := Option.map_eq_some_iff.mp taken
  cases same
  rw [Reader.map, steady bytes more value left read, Option.map_some]

theorem Steady.ite {condition : Prop} [Decidable condition] {first second : Reader Value}
    (of_first : Steady first) (of_second : Steady second) :
    Steady (if condition then first else second) := by
  split
  · exact of_first
  · exact of_second

theorem steady_byte : Steady Reader.byte := by
  intro bytes more value rest taken
  cases bytes with
  | nil => cases taken
  | cons first bytes =>
    cases taken
    rfl

theorem steady_take (count : Nat) : Steady (Reader.take count) := by
  intro bytes more value rest taken
  unfold Reader.take at taken ⊢
  split_ifs at taken with enough
  cases taken
  rw [if_pos (by simp; omega), List.take_append_of_le_length enough,
    List.drop_append_of_le_length enough]

theorem steady_number (width : Nat) : Steady (number width) := (steady_take width).map _

/-- What stands behind a header is read whatever follows. -/
theorem steady_afterHeader (header : UInt8) : Steady (afterHeader header) := by
  have text (length : Nat) : Steady (readText length) := (steady_take length).map _
  have binary (length : Nat) : Steady (readBinary length) := (steady_take length).map _
  have integer (value : Nat) : Steady (readInteger value) := steady_pure _
  unfold afterHeader
  refine .ite (integer _) (.ite (text _) (.ite (steady_pure _) ?_))
  refine .ite (.bind (steady_number 1) binary) (.ite (.bind (steady_number 2) binary) ?_)
  refine .ite (.bind (steady_number 4) binary) (.ite (.bind (steady_number 1) integer) ?_)
  refine .ite (.bind (steady_number 2) integer) (.ite (.bind (steady_number 4) integer) ?_)
  refine .ite (.bind (steady_number 1) text) (.ite (.bind (steady_number 2) text) ?_)
  exact .ite (.bind (steady_number 4) text) steady_none

theorem steady_readScalars (count : Nat) : Steady (readScalars count) := by
  induction count with
  | zero => exact steady_pure []
  | succ count inductionHypothesis =>
    exact (steady_byte.bind steady_afterHeader).bind (fun item => inductionHypothesis.map _)

/-- The reader of arrays looks at nothing behind what it reads. -/
theorem steady_readArray : Steady readArray := by
  apply steady_byte.bind
  intro header
  refine .ite (steady_readScalars _) (.ite (.bind (steady_number 2) steady_readScalars) ?_)
  exact .ite (.bind (steady_number 4) steady_readScalars) steady_none

end Steady

/-- No part of what is decoded is itself decoded. -/
theorem decode_whole {bytes part : Bytes} {items : List Scalar} (decoded : decode part = some items)
    (cut : part <+: bytes) (short : part ≠ bytes) : decode bytes = none := by
  obtain ⟨more, rfl⟩ := cut
  obtain ⟨⟨read, rest⟩, taken, ended⟩ := Option.bind_eq_some_iff.mp decoded
  have empty : rest = [] := by
    by_contra left
    rw [if_neg left] at ended
    cases ended
  subst empty
  have left : more ≠ [] := by
    rintro rfl
    exact short (List.append_nil part).symm
  rw [decode, steady_readArray part more read [] taken, List.nil_append, Option.bind_some]
  exact if_neg left

end MsgPack
