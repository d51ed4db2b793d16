import WebPubSub.Library.ByteView
import WebPubSub.Library.JsNumber
import WebPubSub.Tunnel.MessageProtocol

/-!
# Tunnel messages on a socket

`TunnelServerProtocol` reads what a socket delivers and writes what it is given to send. It
meets bytes as an `ArrayBuffer`, as a `Uint8Array` or as a Node `Buffer`, and the latter two
are windows on a buffer that may hold more. The reader takes the length from the buffer behind
a slice, which is a copy for a `Uint8Array` and shared for a `Buffer`; the writer hands out
the buffer behind the window.

Reading therefore depends on the bytes alone unless the buffer behind a `Buffer` begins with
a length that bounds other bytes, and writing exactly when the window covers its buffer.
-/

namespace WebPubSub.Tunnel

open MsgPack (Bytes)

/-- A `Uint8Array`, which may be a Node `Buffer`. -/
structure Uint8Array extends ByteView where
  isBuffer : Bool
deriving DecidableEq

namespace Uint8Array

/-- A `Uint8Array` with a buffer of its own. -/
def fresh (bytes : Bytes) : Uint8Array := ⟨ByteView.whole bytes, false⟩

/-- `slice`: the one of a `Buffer` shares its memory, any other copies. -/
def slice (data : Uint8Array) (start : Nat) (stop : Int) : Uint8Array :=
  if data.isBuffer then ⟨data.subarray start stop, true⟩
  else fresh (data.subarray start stop).bytes

variable (data : Uint8Array)

theorem bytes_slice (start : Nat) (stop : Int) :
    (data.slice start stop).bytes = Tunnel.slice data.bytes start stop := by
  have part : (data.subarray start stop).bytes = Tunnel.slice data.bytes start stop := by
    rw [ByteView.bytes_subarray, Tunnel.slice, ByteView.length_bytes, ByteView.stopAt]
  unfold slice
  split
  · exact part
  · exact (ByteView.bytes_whole _).trans part

end Uint8Array

/-- The ways in which bytes are presented. -/
inductive BinaryData where
  | arrayBuffer (bytes : Bytes)
  | uint8Array (data : Uint8Array)
deriving DecidableEq

/-- The bytes that are presented. -/
def BinaryData.bytes : BinaryData → Bytes
  | .arrayBuffer bytes => bytes
  | .uint8Array data => data.bytes

/-- The `data` of a message that is sent. -/
inductive MessageData where
  | json (value : Json)
  | binary (data : BinaryData)

/-- The messages of the client that the protocol reads or writes; it writes no other kind. -/
inductive WebPubSubMessage where
  | connected (connectionId userId reconnectionToken : Option Json)
  | serverData (data : Uint8Array)
  | sendEvent (event : Text) (data : MessageData)
  | other (kind : Text)

/-- What is thrown: an error of the protocol itself, or one of what it calls. -/
inductive Thrown where
  | error (message : String)
  | inner
deriving DecidableEq

/-! ## Reading -/

/-- `TunnelMessageProtocol.parseMessage`: `none` when it throws. -/
def TunnelMessageProtocol.parseMessage (packing : Packing) (data : Uint8Array) :
    Option (Option ParsedMessage) :=
  let lengthHeader := data.slice 0 4
  (getInt32 lengthHeader.buffer).bind (fun length =>
    let content := data.slice 4 (length + 4)
    (packing.decode content.bytes).bind parseArray)

/-- The value of a numeral, which may have a sign. -/
def isTen (numeral : Text) : Bool := JsNumber.ofText numeral = .finite 10

/-- `== TunnelMessageType.ConnectionConnected`. An array is compared by its text, which is that
of its element when there is one. -/
def looselyConnected : Json → Bool
  | .number source => isTen source
  | .string text => isTen text
  | .array [item] => looselyConnected item
  | _ => false

/-- What `!` takes for false. -/
def falsy : Json → Bool
  | .null => true
  | .bool value => !value
  | .number source => JsNumber.ofText (source.dropWhile (fun char => char = '-')) = .finite 0
  | .string text => text = []
  | .array _ => false
  | .object _ => false

/-- `?? ""`. -/
def orEmpty : Option Json → Option Json
  | none | some .null => some (.string [])
  | some value => some value

/-- What the client is given to read from a socket. -/
inductive Input where
  | text (text : Text)
  | binary (data : BinaryData)

/-- The view that the bytes are read through. -/
def BinaryData.view : BinaryData → Uint8Array
  | .arrayBuffer bytes => ⟨ByteView.whole bytes, false⟩
  | .uint8Array data => data

/-- What a parsed message means to the client. -/
def clientMessage (buffer : Uint8Array) : Option (Option ParsedMessage) →
    Except Thrown WebPubSubMessage
  | none => .error .inner
  | some none => .error (.error "Expecting tunnel message")
  | some (some tunnel) =>
      if falsy tunnel.json then .error (.error "Expecting tunnel message")
      else if (tunnel.json.property "Type".toList).any looselyConnected then
        .ok (.connected (tunnel.json.property "ConnectionId".toList)
          (orEmpty (tunnel.json.property "UserId".toList))
          (orEmpty (tunnel.json.property "ReconnectionToken".toList)))
      else .ok (.serverData buffer)

/-- `parseMessages`. -/
def parseMessages (packing : Packing) : Input → Except Thrown WebPubSubMessage
  | .text _ => .error (.error "Expecting ArrayBuffer or Buffer.")
  | .binary data =>
      let buffer := data.view
      clientMessage buffer (TunnelMessageProtocol.parseMessage packing buffer)

/-! ## Writing -/

/-- `writeMessage`, which gives an `ArrayBuffer`. -/
def writeMessage : WebPubSubMessage → Except Thrown Bytes
  | .sendEvent _ (.binary (.arrayBuffer bytes)) => .ok bytes
  | .sendEvent _ (.binary (.uint8Array data)) => .ok data.buffer
  | .sendEvent _ (.json _) => .error (.error "Expecting ArrayBuffer or Buffer.")
  | _ => .error (.error "Expecting sendEvent.")

/-! ## The bytes alone -/

/-- A message with the bytes it carries in a buffer of their own. -/
def WebPubSubMessage.copied : WebPubSubMessage → WebPubSubMessage
  | .serverData data => .serverData (.fresh data.bytes)
  | message => message

/-- Reading gives what it gives for a fresh copy of the bytes. -/
def ReadAsBytes (packing : Packing) (data : BinaryData) : Prop :=
  (parseMessages packing (.binary data)).map WebPubSubMessage.copied =
    parseMessages packing (.binary (.uint8Array (.fresh data.bytes)))

/-- The content within the bytes that a header gives. -/
def bounded (header bytes : Bytes) : Option Bytes :=
  (getInt32 header).map (fun length => slice bytes 4 (length + 4))

/-- No content, or none of a message. -/
def Unreadable (packing : Packing) (content : Option Bytes) : Prop :=
  (content.bind packing.decode).bind parseArray = none

/-- What a `Buffer` shares begins with a length that gives the same content as its own, or the
content is unreadable under both. -/
def SameContent (packing : Packing) : BinaryData → Prop
  | .arrayBuffer _ => True
  | .uint8Array data => data.isBuffer = true →
      bounded data.buffer data.bytes = bounded data.bytes data.bytes ∨
        (Unreadable packing (bounded data.buffer data.bytes) ∧
          Unreadable packing (bounded data.bytes data.bytes))

/-- The window covers its buffer. -/
def Covers : BinaryData → Prop
  | .arrayBuffer _ => True
  | .uint8Array data => data.length = data.buffer.length

section Reading

variable (packing : Packing) {data : Uint8Array}

/-- The length is read off the first four bytes. -/
theorem getInt32_take (bytes : Bytes) : getInt32 (bytes.take 4) = getInt32 bytes := by
  rcases bytes with _ | ⟨first, _ | ⟨second, _ | ⟨third, _ | ⟨fourth, rest⟩⟩⟩⟩ <;> rfl

/-- Reading is decoding what the header in front of the slice's buffer bounds. -/
theorem parseMessage_bounded (header : Bytes)
    (sliced : getInt32 (data.slice 0 4).buffer = getInt32 header) :
    TunnelMessageProtocol.parseMessage packing data =
      ((bounded header data.bytes).bind packing.decode).bind parseArray := by
  simp only [TunnelMessageProtocol.parseMessage, bounded, sliced, Uint8Array.bytes_slice]
  cases getInt32 header <;> rfl

/-- A `Buffer` is read under the header in front of what it shares. -/
theorem parseMessage_shared (shares : data.isBuffer = true) :
    TunnelMessageProtocol.parseMessage packing data =
      ((bounded data.buffer data.bytes).bind packing.decode).bind parseArray := by
  apply parseMessage_bounded
  rw [Uint8Array.slice, if_pos shares, ByteView.buffer_subarray]

/-- Any other array is read under its own header. -/
theorem parseMessage_copied (copies : data.isBuffer = false) :
    TunnelMessageProtocol.parseMessage packing data =
      ((bounded data.bytes data.bytes).bind packing.decode).bind parseArray := by
  have buffer : (data.slice 0 4).buffer = data.bytes.take 4 := by
    rw [Uint8Array.slice, if_neg (by simp [copies])]
    exact (ByteView.bytes_subarray _ 0 4).trans rfl
  apply parseMessage_bounded
  rw [buffer, getInt32_take]

/-- The model of the reader on plain bytes is the one on an array of its own. -/
theorem parseMessage_fresh (bytes : Bytes) :
    TunnelMessageProtocol.parseMessage packing (.fresh bytes) = parseMessage packing bytes := by
  have held : (Uint8Array.fresh bytes).bytes = bytes := ByteView.bytes_whole bytes
  have header : getInt32 (slice bytes 0 4) = getInt32 bytes := getInt32_take bytes
  rw [parseMessage_copied packing rfl, held, parseMessage, bounded, header]
  cases getInt32 bytes <;> rfl

/-- What a parsed message means does not depend on how its bytes are held, and only a throwing
reader leads to the error from inside. -/
theorem clientMessage_copied (parsed : Option (Option ParsedMessage)) :
    (clientMessage data parsed).map WebPubSubMessage.copied =
      clientMessage (.fresh data.bytes) parsed := by
  rcases parsed with _ | _ | tunnel
  · rfl
  · rfl
  · simp only [clientMessage]
    split_ifs <;> rfl

theorem clientMessage_inner {buffer : Uint8Array} {parsed : Option (Option ParsedMessage)} :
    clientMessage buffer parsed = .error .inner ↔ parsed = none := by
  rcases parsed with _ | _ | tunnel
  · simp [clientMessage]
  · simp [clientMessage]
  · simp only [clientMessage]
    split_ifs <;> simp

/-- Two contents that headers bound within the same bytes are both parts of what follows the
first four, so one of them is a part of the other. -/
theorem bounded_nested {header other bytes content rest : Bytes}
    (first : bounded header bytes = some content) (second : bounded other bytes = some rest) :
    content <+: rest ∨ rest <+: content := by
  have within {header content : Bytes} (found : bounded header bytes = some content) :
      content <+: bytes.drop 4 := by
    obtain ⟨length, -, rfl⟩ := Option.map_eq_some_iff.mp found
    rw [slice, List.drop_take]
    exact List.take_prefix _ _
  exact List.prefix_or_prefix_of_prefix (within first) (within second)

/-- Different contents cannot both be read, as no part of what is decoded is itself decoded. -/
theorem bounded_agree {header other bytes : Bytes}
    (whole : ∀ {bytes part items}, packing.decode part = some items → part <+: bytes →
      part ≠ bytes → packing.decode bytes = none)
    (read : ¬Unreadable packing (bounded header bytes))
    (alsoRead : ¬Unreadable packing (bounded other bytes)) :
    bounded header bytes = bounded other bytes := by
  have decoded {header : Bytes} (read : ¬Unreadable packing (bounded header bytes)) :
      ∃ content items, bounded header bytes = some content ∧
        packing.decode content = some items := by
    obtain ⟨result, found⟩ := Option.ne_none_iff_exists'.mp read
    obtain ⟨items, taken, -⟩ := Option.bind_eq_some_iff.mp found
    obtain ⟨content, held, opened⟩ := Option.bind_eq_some_iff.mp taken
    exact ⟨content, items, held, opened⟩
  obtain ⟨content, items, held, opened⟩ := decoded read
  obtain ⟨rest, others, alsoHeld, alsoOpened⟩ := decoded alsoRead
  by_cases same : content = rest
  · rw [held, alsoHeld, same]
  · cases bounded_nested held alsoHeld with
    | inl part => cases alsoOpened.symm.trans (whole opened part same)
    | inr part => cases opened.symm.trans (whole alsoOpened part (Ne.symm same))

/-- Reading depends on the bytes alone exactly when both headers give the same content. -/
theorem readAsBytes_iff
    (whole : ∀ {bytes part items}, packing.decode part = some items → part <+: bytes →
      part ≠ bytes → packing.decode bytes = none) (presented : BinaryData) :
    ReadAsBytes packing presented ↔ SameContent packing presented := by
  have held (bytes : Bytes) : (Uint8Array.fresh bytes).bytes = bytes := ByteView.bytes_whole bytes
  cases presented with
  | arrayBuffer bytes =>
    have same : (clientMessage (.fresh bytes)
        (TunnelMessageProtocol.parseMessage packing (.fresh bytes))).map WebPubSubMessage.copied =
          clientMessage (.fresh (Uint8Array.fresh bytes).bytes)
            (TunnelMessageProtocol.parseMessage packing (.fresh bytes)) :=
      clientMessage_copied _
    rw [held] at same
    exact iff_of_true same trivial
  | uint8Array data =>
    have meaning : ReadAsBytes packing (.uint8Array data) ↔
        clientMessage (.fresh data.bytes) (TunnelMessageProtocol.parseMessage packing data) =
          clientMessage (.fresh data.bytes)
            (((bounded data.bytes data.bytes).bind packing.decode).bind parseArray) := by
      have own : TunnelMessageProtocol.parseMessage packing (.fresh data.bytes) =
          ((bounded data.bytes data.bytes).bind packing.decode).bind parseArray := by
        rw [parseMessage_copied packing rfl, held]
      rw [← own, ← clientMessage_copied]
      exact Iff.rfl
    rw [meaning]
    by_cases shares : data.isBuffer = true
    · rw [parseMessage_shared packing shares]
      constructor
      · intro same _
        by_cases unread : Unreadable packing (bounded data.buffer data.bytes)
        · have thrown : clientMessage (.fresh data.bytes)
              (((bounded data.bytes data.bytes).bind packing.decode).bind parseArray) =
                .error .inner := same.symm.trans (clientMessage_inner.mpr unread)
          exact Or.inr ⟨unread, clientMessage_inner.mp thrown⟩
        · left
          apply bounded_agree packing whole unread
          intro alsoUnread
          exact unread (clientMessage_inner.mp (same.trans (clientMessage_inner.mpr alsoUnread)))
      · intro sameContent
        rcases sameContent shares with same | ⟨unread, alsoUnread⟩
        · rw [same]
        · rw [show _ = none from unread, show _ = none from alsoUnread]
    · have copies : data.isBuffer = false := by simpa using shares
      rw [parseMessage_copied packing copies]
      exact iff_of_true rfl (fun also => absurd also shares)

end Reading

/-- Writing gives exactly the bytes when the window covers its buffer. -/
theorem writeMessage_iff (event : Text) (presented : BinaryData) :
    writeMessage (.sendEvent event (.binary presented)) = .ok presented.bytes ↔
      Covers presented := by
  cases presented with
  | arrayBuffer bytes => exact iff_of_true rfl trivial
  | uint8Array data =>
    change Except.ok data.buffer = Except.ok data.bytes ↔ _
    rw [Except.ok.injEq]
    exact data.buffer_eq_bytes_iff

/-- Reading and writing depend on the bytes alone, each under its own condition. -/
theorem bytes_alone_iff (packing : Packing)
    (whole : ∀ {bytes part items}, packing.decode part = some items → part <+: bytes →
      part ≠ bytes → packing.decode bytes = none) (event : Text) (presented : BinaryData) :
    (ReadAsBytes packing presented ↔ SameContent packing presented) ∧
      (writeMessage (.sendEvent event (.binary presented)) = .ok presented.bytes ↔
        Covers presented) :=
  ⟨readAsBytes_iff packing whole presented, writeMessage_iff event presented⟩

/-- A close message in a pool, behind an empty header that is not its own. -/
def pooled (isBuffer : Bool) : BinaryData :=
  .uint8Array ⟨⟨[0, 0, 0, 0, 14, 0, 0, 0, 0x93, 7, 0xAA, 123, 34, 84, 121, 112, 101, 34, 58, 55, 125,
    0xC0, 0], 4, 18, by decide⟩, isBuffer⟩

theorem bytes_alone_pooled :
    (ReadAsBytes .msgPack (pooled false) ↔ SameContent .msgPack (pooled false)) ∧
      (writeMessage (.sendEvent [] (.binary (pooled false))) = .ok (pooled false).bytes ↔
        Covers (pooled false)) :=
  bytes_alone_iff .msgPack MsgPack.decode_whole [] (pooled false)

/-- In a pool, a `Buffer` is read under another header and is written with its neighbours. -/
theorem pool_leaks :
    ¬ReadAsBytes .msgPack (pooled true) ∧
      writeMessage (.sendEvent [] (.binary (pooled true))) ≠ .ok (pooled true).bytes := by
  constructor
  · intro same
    have outcome := congrArg Except.isOk same
    revert outcome
    decide +kernel
  · decide +kernel

end WebPubSub.Tunnel
