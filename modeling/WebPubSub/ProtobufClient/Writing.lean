import WebPubSub.ProtobufClient.Messages

/-!
# Writing the messages of a client

`WriteMessage` and `WriteData` of `WebPubSubProtobufProtocolHelper.cs`. What is written is read
back by the schema with every field as it was given. The type of the data is the one under which
`TryParseMessageData` reads what was written: a JSON payload is written as text although the
schema has a case of its own for it, so it comes back as text, and every other payload comes
back under its own type.
-/

namespace WebPubSub.ProtobufClient

open MsgPack (Bytes)
open Protobuf

/-- `WebPubSubDataType`; a value of an enumeration need not be one of its names. -/
inductive WebPubSubDataType where
  | binary
  | json
  | text
  | protobuf
  | other (value : Int)
deriving DecidableEq

structure AckMessageError where
  name : Text
  message : Text
deriving DecidableEq

/-- The messages of the client library. A `BinaryData` is given by its bytes. -/
inductive WebPubSubMessage where
  | ackMessage (ackId : Int64) (success : Bool) (error : Option AckMessageError)
  | connectedMessage (userId connectionId reconnectionToken : Text)
  | disconnectedMessage (reason : Text)
  | groupDataMessage (group : Text) (dataType : WebPubSubDataType) (data : Bytes)
      (sequenceId : Option Int64) (fromUserId : Option Text)
  | serverDataMessage (dataType : WebPubSubDataType) (data : Bytes) (sequenceId : Option Int64)
  | joinGroupMessage (group : Text) (ackId : Option Int64)
  | leaveGroupMessage (group : Text) (ackId : Option Int64)
  | sendToGroupMessage (group : Text) (data : Bytes) (dataType : WebPubSubDataType)
      (noEcho : Bool) (ackId : Option Int64)
  | sendEventMessage (eventName : Text) (data : Bytes) (dataType : WebPubSubDataType)
      (ackId : Option Int64)
  | sequenceAckMessage (sequenceId : Int64)
deriving DecidableEq

/-- The exceptions of the helper and of what it calls. -/
inductive Thrown where
  | invalidData (message : String)
  | nullReference
  | invalidProtocolBuffer
  | notSupported
deriving DecidableEq

variable {Any : Type} (runtime : Runtime Any)

/-! ## The helper -/

/-- `BinaryData.ToString`. -/
def toText (data : Bytes) : Text := Utf8.Decoder.run none data

/-- `WriteData`. -/
def writeData (dataType : WebPubSubDataType) (data : Bytes) : Except Thrown (MessageData Any) :=
  match dataType with
  | .binary => .ok ⟨some (.binaryData data)⟩
  | .text | .json => .ok ⟨some (.textData (toText data))⟩
  | .protobuf =>
      match runtime.any.parseFrom data with
      | some any => .ok ⟨some (.protobufData any)⟩
      | none => .error .invalidProtocolBuffer
  | .other _ => .error .notSupported

/-- `WriteMessage`, which writes nothing of a message it has no case for. -/
def writeMessage : WebPubSubMessage → Except Thrown Bytes
  | .sequenceAckMessage sequenceId =>
      .ok ((UpstreamMessage.type runtime).toByteArray ⟨some (.sequenceAckMessage ⟨sequenceId⟩)⟩)
  | .joinGroupMessage group ackId =>
      .ok ((UpstreamMessage.type runtime).toByteArray ⟨some (.joinGroupMessage ⟨group, ackId⟩)⟩)
  | .leaveGroupMessage group ackId =>
      .ok ((UpstreamMessage.type runtime).toByteArray ⟨some (.leaveGroupMessage ⟨group, ackId⟩)⟩)
  | .sendToGroupMessage group data dataType noEcho ackId => do
      let data ← writeData runtime dataType data
      return (UpstreamMessage.type runtime).toByteArray
        ⟨some (.sendToGroupMessage ⟨group, ackId, some data, some noEcho⟩)⟩
  | .sendEventMessage eventName data dataType ackId => do
      let data ← writeData runtime dataType data
      return (UpstreamMessage.type runtime).toByteArray
        ⟨some (.eventMessage ⟨eventName, some data, ackId⟩)⟩
  | _ => .ok []

/-- `TryParseMessageData`, which reads a property of its argument before anything else. -/
def tryParseMessageData : Option (MessageData Any) →
    Except Thrown (Option (WebPubSubDataType × Bytes))
  | none => .error .nullReference
  | some ⟨some (.textData text)⟩ => .ok (some (.text, Utf8.encode text))
  | some ⟨some (.jsonData text)⟩ => .ok (some (.json, Utf8.encode text))
  | some ⟨some (.binaryData bytes)⟩ => .ok (some (.binary, bytes))
  | some ⟨some (.protobufData any)⟩ => .ok (some (.protobuf, runtime.any.toByteArray any))
  | some ⟨none⟩ => .ok none

/-! ## What a round trip gives -/

/-- The payloads of a type. -/
def IsPayload : WebPubSubDataType → Bytes → Prop
  | .text, data => ∃ text, data = Utf8.encode text
  | .json, data => ∃ text, data = Utf8.encode text
  | .binary, _ => True
  | .protobuf, data => ∃ any, runtime.any.parseFrom data = some any
  | .other _, _ => False

/-- The same payload of a type: an `Any` may be written in several ways. -/
def SamePayload : WebPubSubDataType → Bytes → Bytes → Prop
  | .protobuf, first, second => runtime.any.parseFrom first = runtime.any.parseFrom second
  | _, first, second => first = second

/-- The five kinds of messages that are written, with a payload of its type. -/
def Supported : WebPubSubMessage → Prop
  | .sequenceAckMessage _ => True
  | .joinGroupMessage _ _ => True
  | .leaveGroupMessage _ _ => True
  | .sendToGroupMessage _ data dataType _ _ => IsPayload runtime dataType data
  | .sendEventMessage _ data dataType _ => IsPayload runtime dataType data
  | _ => False

/-- What was written is read as a payload of a type. -/
def ReadAs (written : MessageData Any) (dataType : WebPubSubDataType) (data : Bytes) : Prop :=
  ∃ content, tryParseMessageData runtime (some written) = .ok (some (dataType, content)) ∧
    SamePayload runtime dataType content data

/-- The case of the schema and its fields are those of the message. -/
def Gives : WebPubSubMessage → UpstreamMessage Any → Prop
  | .sequenceAckMessage sequenceId, upstream =>
      upstream.message = some (.sequenceAckMessage ⟨sequenceId⟩)
  | .joinGroupMessage group ackId, upstream =>
      upstream.message = some (.joinGroupMessage ⟨group, ackId⟩)
  | .leaveGroupMessage group ackId, upstream =>
      upstream.message = some (.leaveGroupMessage ⟨group, ackId⟩)
  | .sendToGroupMessage group data dataType noEcho ackId, upstream =>
      ∃ written, upstream.message =
          some (.sendToGroupMessage ⟨group, ackId, some written, some noEcho⟩) ∧
        ReadAs runtime written dataType data
  | .sendEventMessage eventName data dataType ackId, upstream =>
      ∃ written, upstream.message = some (.eventMessage ⟨eventName, some written, ackId⟩) ∧
        ReadAs runtime written dataType data
  | _, _ => False

/-- The bytes that are written are read back as the message. -/
def RoundTrips (message : WebPubSubMessage) : Prop :=
  ∃ bytes upstream, writeMessage runtime message = .ok bytes ∧
    (UpstreamMessage.type runtime).parseFrom bytes = some upstream ∧ Gives runtime message upstream

/-- The type of the data that a message carries. -/
def WebPubSubMessage.dataType : WebPubSubMessage → Option WebPubSubDataType
  | .sendToGroupMessage _ _ dataType _ _ => some dataType
  | .sendEventMessage _ _ dataType _ => some dataType
  | _ => none

section RoundTrip

variable {message : WebPubSubMessage}

/-- What is written of an upstream message is read back as it. -/
theorem roundTrips_of_written {upstream : UpstreamMessage Any}
    (written : writeMessage runtime message = .ok ((UpstreamMessage.type runtime).toByteArray upstream)) :
    RoundTrips runtime message ↔ Gives runtime message upstream := by
  have read := (UpstreamMessage.type runtime).parseFrom_toByteArray upstream
  constructor
  · rintro ⟨bytes, other, same, parsed, gives⟩
    obtain rfl := Except.ok.inj (written.symm.trans same)
    obtain rfl := Option.some.inj (read.symm.trans parsed)
    exact gives
  · exact fun gives => ⟨_, upstream, written, read, gives⟩

/-- A payload is written, and it is read as a payload of its type unless it is JSON. -/
theorem writeData_readAs {dataType : WebPubSubDataType} {data : Bytes}
    (payload : IsPayload runtime dataType data) :
    ∃ written, writeData runtime dataType data = .ok written ∧
      (ReadAs runtime written dataType data ↔ dataType ≠ .json) := by
  cases dataType with
  | binary => exact ⟨_, rfl, iff_of_true ⟨data, rfl, rfl⟩ (by decide)⟩
  | json =>
    refine ⟨_, rfl, iff_of_false ?_ (by simp)⟩
    rintro ⟨content, read, -⟩
    cases read
  | text =>
    obtain ⟨text, rfl⟩ := payload
    refine ⟨_, rfl, iff_of_true ⟨Utf8.encode text, ?_, rfl⟩ (by decide)⟩
    rw [tryParseMessageData, toText, Utf8.run_encode]
  | protobuf =>
    obtain ⟨any, parsed⟩ := payload
    refine ⟨⟨some (.protobufData any)⟩, by rw [writeData, parsed], iff_of_true ?_ (by decide)⟩
    exact ⟨_, rfl, (runtime.any.parseFrom_toByteArray any).trans parsed.symm⟩
  | other value => exact payload.elim

/-- A message is read back as it was exactly when it carries no JSON. -/
theorem write_round_trip_iff (supported : Supported runtime message) :
    RoundTrips runtime message ↔ message.dataType ≠ some .json := by
  cases message with
  | sequenceAckMessage sequenceId =>
    exact iff_of_true ((roundTrips_of_written runtime rfl).mpr rfl) (by simp [WebPubSubMessage.dataType])
  | joinGroupMessage group ackId =>
    exact iff_of_true ((roundTrips_of_written runtime rfl).mpr rfl) (by simp [WebPubSubMessage.dataType])
  | leaveGroupMessage group ackId =>
    exact iff_of_true ((roundTrips_of_written runtime rfl).mpr rfl) (by simp [WebPubSubMessage.dataType])
  | sendToGroupMessage group data dataType noEcho ackId =>
    obtain ⟨written, wrote, read⟩ := writeData_readAs runtime supported
    have sent : writeMessage runtime (.sendToGroupMessage group data dataType noEcho ackId) =
        .ok ((UpstreamMessage.type runtime).toByteArray
          ⟨some (.sendToGroupMessage ⟨group, ackId, some written, some noEcho⟩)⟩) := by
      simp [writeMessage, wrote, bind, Except.bind, pure, Except.pure]
    rw [roundTrips_of_written runtime sent]
    simp [Gives, WebPubSubMessage.dataType, read]
  | sendEventMessage eventName data dataType ackId =>
    obtain ⟨written, wrote, read⟩ := writeData_readAs runtime supported
    have sent : writeMessage runtime (.sendEventMessage eventName data dataType ackId) =
        .ok ((UpstreamMessage.type runtime).toByteArray
          ⟨some (.eventMessage ⟨eventName, some written, ackId⟩)⟩) := by
      simp [writeMessage, wrote, bind, Except.bind, pure, Except.pure]
    rw [roundTrips_of_written runtime sent]
    simp [Gives, WebPubSubMessage.dataType, read]
  | ackMessage | connectedMessage | disconnectedMessage | groupDataMessage | serverDataMessage =>
    exact supported.elim

end RoundTrip

/-- The bytes for joining a group with an acknowledgement. -/
example : writeMessage Runtime.standard (.joinGroupMessage "group".toList (some 44133)) =
    .ok [50, 11, 10, 5, 103, 114, 111, 117, 112, 16, 229, 216, 2] := by decide +kernel

/-- A text comes back, and a JSON payload does not. -/
theorem write_round_trip_event :
    RoundTrips Runtime.standard (.sendEventMessage "event".toList [120] .text none) ∧
      ¬RoundTrips Runtime.standard (.sendEventMessage "event".toList [49] .json none) := by
  have text : Supported Runtime.standard (.sendEventMessage "event".toList [120] .text none) :=
    ⟨['x'], by decide⟩
  have json : Supported Runtime.standard (.sendEventMessage "event".toList [49] .json none) :=
    ⟨['1'], by decide⟩
  constructor
  · exact (write_round_trip_iff Runtime.standard text).mpr (by decide)
  · intro trips
    exact (write_round_trip_iff Runtime.standard json).mp trips rfl

/-- A JSON payload comes back as text. -/
theorem json_becomes_text :
    Supported Runtime.standard (.sendEventMessage "event".toList [123, 125] .json none) ∧
      ¬RoundTrips Runtime.standard (.sendEventMessage "event".toList [123, 125] .json none) := by
  refine ⟨⟨"{}".toList, by decide⟩, ?_⟩
  rintro ⟨bytes, upstream, wrote, parsed, gives⟩
  obtain rfl := Except.ok.inj wrote
  obtain rfl := Option.some.inj
    (((UpstreamMessage.type Runtime.standard).parseFrom_toByteArray _).symm.trans parsed)
  obtain ⟨written, same, content, read, -⟩ := gives
  cases same
  cases read

end WebPubSub.ProtobufClient
