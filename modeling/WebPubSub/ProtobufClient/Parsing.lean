import WebPubSub.ProtobufClient.Writing

/-!
# Parsing the messages of the service

`ParseMessage` of `WebPubSubProtobufProtocolHelper.cs`, on everything that the wire can carry:
any case of a choice, or none of them, and any message within a message, or none. Each shape
leads to its message or to an `InvalidDataException`, except for a data message without data,
whose absent `Data` is read before it is checked.
-/

namespace WebPubSub.ProtobufClient

open MsgPack (Bytes)
open Protobuf

variable {Any : Type} (runtime : Runtime Any)

/-- `DataCase` by its name. -/
def dataCase : Option (MessageData Any) → Except Thrown String
  | none => .error .nullReference
  | some ⟨none⟩ => .ok "None"
  | some ⟨some (.textData _)⟩ => .ok "TextData"
  | some ⟨some (.binaryData _)⟩ => .ok "BinaryData"
  | some ⟨some (.protobufData _)⟩ => .ok "ProtobufData"
  | some ⟨some (.jsonData _)⟩ => .ok "JsonData"

/-- The exception for a data message that is not understood. -/
def invalidDataType (message : DownstreamMessage.DataMessage Any) :
    Except Thrown (List WebPubSubMessage) := do
  let name ← dataCase message.data
  throw (.invalidData ("Invalid data type: " ++ name))

/-- The case of a data message. -/
def parseDataMessage (message : DownstreamMessage.DataMessage Any) :
    Except Thrown (List WebPubSubMessage) := do
  match ← tryParseMessageData runtime message.data with
  | none => invalidDataType message
  | some (dataType, binaryData) =>
      if message.origin = "group".toList then
        return [.groupDataMessage (message.group.getD []) dataType binaryData message.sequenceId none]
      else if message.origin = "server".toList then
        return [.serverDataMessage dataType binaryData message.sequenceId]
      else invalidDataType message

/-- The cases of a message. -/
def parseDownstream : DownstreamMessage Any → Except Thrown (List WebPubSubMessage)
  | ⟨some (.ackMessage ack)⟩ =>
      .ok [.ackMessage ack.ackId ack.success
        (ack.error.map (fun error => ⟨error.name, error.message⟩))]
  | ⟨some (.dataMessage message)⟩ => parseDataMessage runtime message
  | ⟨some (.systemMessage ⟨some (.connectedMessage message)⟩)⟩ =>
      .ok [.connectedMessage message.userId message.connectionId message.reconnectionToken]
  | ⟨some (.systemMessage ⟨some (.disconnectedMessage message)⟩)⟩ =>
      .ok [.disconnectedMessage message.reason]
  | ⟨some (.systemMessage ⟨none⟩)⟩ =>
      .error (.invalidData "Invalid system message type: None")
  | ⟨none⟩ => .error (.invalidData "Invalid message type: None")

/-- `ParseMessage`. -/
def parseMessage (input : Bytes) : Except Thrown (List WebPubSubMessage) :=
  match (DownstreamMessage.type runtime).parseFrom input with
  | some downstream => parseDownstream runtime downstream
  | none => .error .invalidProtocolBuffer

/-! ## What parsing may give -/

/-- The type and the bytes of the data on the wire. -/
inductive Carries : MessageData Any → WebPubSubDataType → Bytes → Prop
  | text (text : Text) : Carries ⟨some (.textData text)⟩ .text (Utf8.encode text)
  | json (text : Text) : Carries ⟨some (.jsonData text)⟩ .json (Utf8.encode text)
  | binary (bytes : Bytes) : Carries ⟨some (.binaryData bytes)⟩ .binary bytes
  | protobuf (any : Any) :
      Carries ⟨some (.protobufData any)⟩ .protobuf (runtime.any.toByteArray any)

/-- A message of the kind on the wire, with its fields. -/
inductive Corresponds : DownstreamMessage Any → WebPubSubMessage → Prop
  | ack (ackId : Int64) (success : Bool) :
      Corresponds ⟨some (.ackMessage ⟨ackId, success, none⟩)⟩ (.ackMessage ackId success none)
  | failure (ackId : Int64) (success : Bool) (name text : Text) :
      Corresponds ⟨some (.ackMessage ⟨ackId, success, some ⟨name, text⟩⟩)⟩
        (.ackMessage ackId success (some ⟨name, text⟩))
  | group (group : Option Text) (sequenceId : Option Int64) {data : MessageData Any}
      {dataType : WebPubSubDataType} {bytes : Bytes} (carries : Carries runtime data dataType bytes) :
      Corresponds ⟨some (.dataMessage ⟨"group".toList, group, some data, sequenceId⟩)⟩
        (.groupDataMessage (group.getD []) dataType bytes sequenceId none)
  | server (group : Option Text) (sequenceId : Option Int64) {data : MessageData Any}
      {dataType : WebPubSubDataType} {bytes : Bytes} (carries : Carries runtime data dataType bytes) :
      Corresponds ⟨some (.dataMessage ⟨"server".toList, group, some data, sequenceId⟩)⟩
        (.serverDataMessage dataType bytes sequenceId)
  | connected (connectionId userId reconnectionToken : Text) :
      Corresponds
        ⟨some (.systemMessage ⟨some (.connectedMessage ⟨connectionId, userId, reconnectionToken⟩)⟩)⟩
        (.connectedMessage userId connectionId reconnectionToken)
  | disconnected (reason : Text) :
      Corresponds ⟨some (.systemMessage ⟨some (.disconnectedMessage ⟨reason⟩)⟩)⟩
        (.disconnectedMessage reason)

/-- Exactly one message that corresponds, or the declared exception. -/
def Declared (downstream : DownstreamMessage Any)
    (result : Except Thrown (List WebPubSubMessage)) : Prop :=
  (∃ message, result = .ok [message] ∧ Corresponds runtime downstream message) ∨
    ∃ text, result = .error (.invalidData text)

/-- A data message without data. -/
def LacksData (downstream : DownstreamMessage Any) : Prop :=
  ∃ message, downstream.message = some (.dataMessage message) ∧ message.data = none

section Totality

variable {runtime}

/-- Data is read as what the wire carries, or it has no case that is known. -/
theorem tryParseMessageData_cases (data : MessageData Any) :
    (∃ dataType bytes, tryParseMessageData runtime (some data) = .ok (some (dataType, bytes)) ∧
      Carries runtime data dataType bytes) ∨
      tryParseMessageData runtime (some data) = .ok none := by
  rcases data with ⟨_ | text | bytes | any | text⟩
  · exact Or.inr rfl
  · exact Or.inl ⟨_, _, rfl, .text text⟩
  · exact Or.inl ⟨_, _, rfl, .binary bytes⟩
  · exact Or.inl ⟨_, _, rfl, .protobuf any⟩
  · exact Or.inl ⟨_, _, rfl, .json text⟩

/-- With data there, its case has a name. -/
theorem invalidDataType_declared {message : DownstreamMessage.DataMessage Any}
    {data : MessageData Any} (held : message.data = some data) :
    ∃ text, invalidDataType message = .error (.invalidData text) := by
  rw [invalidDataType, held]
  rcases data with ⟨_ | text | bytes | any | text⟩ <;> exact ⟨_, rfl⟩

theorem parseDataMessage_declared {message : DownstreamMessage.DataMessage Any}
    {data : MessageData Any} (held : message.data = some data) :
    Declared runtime ⟨some (.dataMessage message)⟩ (parseDataMessage runtime message) := by
  obtain ⟨text, invalid⟩ := invalidDataType_declared held
  obtain ⟨origin, group, content, sequenceId⟩ := message
  subst held
  rcases tryParseMessageData_cases data with ⟨dataType, bytes, parsed, carries⟩ | unknown
  · by_cases grouped : origin = "group".toList
    · subst grouped
      exact Or.inl ⟨_, by rw [parseDataMessage, parsed]; rfl, .group group sequenceId carries⟩
    · by_cases served : origin = "server".toList
      · subst served
        exact Or.inl ⟨_, by rw [parseDataMessage, parsed]; rfl, .server group sequenceId carries⟩
      · refine Or.inr ⟨text, ?_⟩
        rw [parseDataMessage, parsed]
        exact (if_neg grouped).trans ((if_neg served).trans invalid)
  · refine Or.inr ⟨text, ?_⟩
    rw [parseDataMessage, unknown]
    exact invalid

/-- Without data, the check throws before it can answer. -/
theorem parseDataMessage_lacks {message : DownstreamMessage.DataMessage Any}
    (absent : message.data = none) : parseDataMessage runtime message = .error .nullReference := by
  rw [parseDataMessage, absent]
  rfl

/-- Every message but a data message without data leads to an outcome that is declared. -/
theorem parseDownstream_declared (downstream : DownstreamMessage Any) :
    Declared runtime downstream (parseDownstream runtime downstream) ↔ ¬LacksData downstream := by
  rcases downstream with ⟨_ | ack | message | ⟨_ | message | message⟩⟩
  · exact iff_of_true (Or.inr ⟨_, rfl⟩) (by rintro ⟨message, same, -⟩; cases same)
  · obtain ⟨ackId, success, _ | ⟨name, text⟩⟩ := ack
    · exact iff_of_true (Or.inl ⟨_, rfl, .ack ackId success⟩)
        (by rintro ⟨message, same, -⟩; cases same)
    · exact iff_of_true (Or.inl ⟨_, rfl, .failure ackId success name text⟩)
        (by rintro ⟨message, same, -⟩; cases same)
  · cases held : message.data with
    | none =>
      refine iff_of_false ?_ (fun lacks => lacks ⟨message, rfl, held⟩)
      have thrown : parseDataMessage runtime message = .error .nullReference :=
        parseDataMessage_lacks held
      rintro (⟨parsed, returned, -⟩ | ⟨text, declared⟩)
      · cases thrown.symm.trans returned
      · cases thrown.symm.trans declared
    | some data =>
      refine iff_of_true (parseDataMessage_declared held) ?_
      rintro ⟨other, same, absent⟩
      cases same
      cases held.symm.trans absent
  · exact iff_of_true (Or.inr ⟨_, rfl⟩) (by rintro ⟨message, same, -⟩; cases same)
  · exact iff_of_true (Or.inl ⟨_, rfl, .connected _ _ _⟩) (by rintro ⟨message, same, -⟩; cases same)
  · exact iff_of_true (Or.inl ⟨_, rfl, .disconnected _⟩) (by rintro ⟨message, same, -⟩; cases same)

variable (runtime)

/-- Whatever message the bytes carry, parsing them gives what is declared exactly when it is not
a data message without data. -/
theorem parse_total_iff {input : Bytes} {downstream : DownstreamMessage Any}
    (carried : (DownstreamMessage.type runtime).parseFrom input = some downstream) :
    Declared runtime downstream (parseMessage runtime input) ↔ ¬LacksData downstream := by
  rw [parseMessage, carried]
  exact parseDownstream_declared downstream

end Totality

/-- Every message is carried by some bytes, so none is left out. -/
theorem carried_all (downstream : DownstreamMessage Any) :
    ∃ input, (DownstreamMessage.type runtime).parseFrom input = some downstream :=
  ⟨_, (DownstreamMessage.type runtime).parseFrom_toByteArray downstream⟩

/-- An ack is parsed as declared, and a data message without data, which is two bytes, is not. -/
theorem parse_total_ack :
    Declared Runtime.standard ⟨some (.ackMessage ⟨123, true, none⟩)⟩
        (parseMessage Runtime.standard
          ((DownstreamMessage.type Runtime.standard).toByteArray
            ⟨some (.ackMessage ⟨123, true, none⟩)⟩)) ∧
      ¬Declared Runtime.standard ⟨some (.dataMessage ⟨[], none, none, none⟩)⟩
        (parseMessage Runtime.standard [18, 0]) := by
  constructor
  · apply (parse_total_iff Runtime.standard (MessageType.parseFrom_toByteArray _ _)).mpr
    rintro ⟨message, same, -⟩
    cases same
  · intro declared
    exact (parse_total_iff Runtime.standard rfl).mp declared ⟨_, rfl, rfl⟩

/-- An empty data message is carried by two bytes and leads to neither. -/
theorem absent_data_read :
    (DownstreamMessage.type Runtime.standard).parseFrom [18, 0] =
        some ⟨some (.dataMessage ⟨[], none, none, none⟩)⟩ ∧
      ¬Declared Runtime.standard ⟨some (.dataMessage ⟨[], none, none, none⟩)⟩
        (parseMessage Runtime.standard [18, 0]) := by
  have thrown : parseMessage Runtime.standard [18, 0] = .error .nullReference := by rfl
  refine ⟨rfl, ?_⟩
  rw [thrown]
  rintro (⟨message, returned, -⟩ | ⟨text, declared⟩)
  · cases returned
  · cases declared

end WebPubSub.ProtobufClient
