import WebPubSub.Library.Base64Url
import WebPubSub.Library.JsNumber

/-!
# Engine.IO and Socket.IO packets

The packet types of `engine.io-parser` and `socket.io-parser`, and
`decodeStringPartial` of `decoder.ts`, which reads only the type and the number
of attachments from an encoded Socket.IO packet. JavaScript strings are sequences
of Unicode characters; an attachment count is whatever number the text denotes.

The parsers themselves are outside the repository. The code only passes their
results on, so an encoder is a pair of functions; the text encoding of
`engine.io-parser` is one of them.
-/

namespace WebPubSub

abbrev Text := List Char

-- named, so that membership of texts is decided by one term in every module
instance : LawfulBEq Text := inferInstance

/-- `PacketType` of `engine.io-parser`. -/
inductive EioPacketType where
  | «open» | close | ping | pong | message | upgrade | noop | error
deriving DecidableEq, Repr

/-- `RawData`: absent, a string, or a buffer of any kind. -/
inductive RawData where
  | absent : RawData
  | text : Text → RawData
  | binary : List UInt8 → RawData
deriving DecidableEq, Repr

/-- An Engine.IO packet, without its compression options. -/
structure EioPacket where
  type : EioPacketType
  data : RawData
deriving DecidableEq, Repr

/-- `encodePacket` without binary support, and `encodePayload`. -/
structure Codec where
  encodePacket : EioPacket → Text
  encodePayload : List EioPacket → Text

/-- The characters `engine.io-parser` writes for a packet type. -/
def EioPacketType.text : EioPacketType → Text
  | .open => ['0']
  | .close => ['1']
  | .ping => ['2']
  | .pong => ['3']
  | .message => ['4']
  | .upgrade => ['5']
  | .noop => ['6']
  | .error => "undefined".toList

/-- Base64 with the standard alphabet and padding. -/
def base64 (bytes : List UInt8) : Text :=
  let digits := (Base64Url.encodeBytes bytes).map (fun
    | '-' => '+'
    | '_' => '/'
    | char => char)
  digits ++ List.replicate ((4 - digits.length % 4) % 4) '='

/-- A packet as text: a buffer in base64, anything else after its type. -/
def encodeEioPacket (packet : EioPacket) : Text :=
  match packet.data with
  | .binary content => 'b' :: base64 content
  | .text str => packet.type.text ++ str
  | .absent => packet.type.text

/-- The text encoding of `engine.io-parser`: packets joined by a record separator. -/
def Codec.engineIo : Codec where
  encodePacket := encodeEioPacket
  encodePayload packets := List.intercalate [Char.ofNat 30] (packets.map encodeEioPacket)

/-- `PacketType` of `socket.io-parser`. -/
inductive SioPacketType where
  | connect | disconnect | event | ack | connectError | binaryEvent | binaryAck
deriving DecidableEq, Repr

namespace SioPacketType

/-- The numbers of the enumeration, in declaration order. -/
def all : List SioPacketType :=
  [.connect, .disconnect, .event, .ack, .connectError, .binaryEvent, .binaryAck]

/-- The character that starts an encoded packet of this type. -/
def digit : SioPacketType → Char
  | .connect => '0'
  | .disconnect => '1'
  | .event => '2'
  | .ack => '3'
  | .connectError => '4'
  | .binaryEvent => '5'
  | .binaryAck => '6'

/-- `PacketType[type]`, undefined for every number that is not a member. -/
def ofNumber (number : JsNumber) : Option SioPacketType :=
  all.find? (fun type => decide (JsNumber.ofText [type.digit] = number))

/-- `_isTypeWithBinary`. -/
def withBinary : SioPacketType → Bool
  | .binaryEvent | .binaryAck => true
  | _ => false

end SioPacketType

/-- The result of a partial decoding. -/
structure PartialSioPacket where
  type : SioPacketType
  attachments : JsNumber
deriving DecidableEq

/-- `decodeStringPartial`. The count stands between the type and the first `-`,
and is accepted when it is the text of the number it denotes. -/
def decodeStringPartial (str : Text) : Except Text PartialSioPacket :=
  let type := JsNumber.ofText (str.take 1)
  match SioPacketType.ofNumber type with
  | none => .error ("unknown packet type ".toList ++ type.toText)
  | some type =>
    if type.withBinary then
      let buf := (str.drop 1).takeWhile (· ≠ '-')
      if buf ≠ (JsNumber.ofText buf).toText ∨ str[1 + buf.length]? ≠ some '-' then
        .error "Illegal attachments".toList
      else .ok ⟨type, JsNumber.ofText buf⟩
    else .ok ⟨type, .finite 0⟩

theorem ofNumber_digit (type : SioPacketType) :
    SioPacketType.ofNumber (JsNumber.ofText [type.digit]) = some type := by
  cases type <;> decide +kernel

/-- A packet of a type without attachments decodes to that type, whatever follows. -/
theorem decodeStringPartial_text (type : SioPacketType) (rest : Text)
    (plain : type.withBinary = false) :
    decodeStringPartial (type.digit :: rest) = .ok ⟨type, .finite 0⟩ := by
  simp [decodeStringPartial, ofNumber_digit, plain]

/-- A header as the Socket.IO encoder writes it: type, count, dash, rest. -/
def binaryHeader (type : SioPacketType) (attachments : Nat) (rest : Text) : Text :=
  type.digit :: Nat.toDigits 10 attachments ++ '-' :: rest

/-- An encoded header decodes to its type and count. -/
theorem decodeStringPartial_header (type : SioPacketType) (attachments : Nat) (rest : Text)
    (binary : type.withBinary = true) (exact : attachments < JsNumber.safeBound) :
    decodeStringPartial (binaryHeader type attachments rest) =
      .ok ⟨type, .finite attachments⟩ := by
  obtain ⟨read, written⟩ := JsNumber.toDigits_roundTrip exact
  have digits : ∀ char ∈ Nat.toDigits 10 attachments, decide (char ≠ '-') = true := by
    intro char member
    have digit := Nat.isDigit_of_mem_toDigits (by decide) (by decide) member
    by_contra dash
    obtain rfl : char = '-' := by simpa using dash
    revert digit
    decide
  have count : (Nat.toDigits 10 attachments ++ '-' :: rest).takeWhile (· ≠ '-') =
      Nat.toDigits 10 attachments := by
    rw [List.takeWhile_append_of_pos digits]
    simp
  have dash : (binaryHeader type attachments rest)[1 + (Nat.toDigits 10 attachments).length]? =
      some '-' := by
    simp [binaryHeader, Nat.add_comm 1]
  have counted : ((binaryHeader type attachments rest).drop 1).takeWhile (· ≠ '-') =
      Nat.toDigits 10 attachments := count
  simp only [decodeStringPartial, counted]
  rw [show (binaryHeader type attachments rest).take 1 = [type.digit] from rfl, ofNumber_digit]
  simp only [binary, if_true, read, written, dash]
  simp

end WebPubSub
