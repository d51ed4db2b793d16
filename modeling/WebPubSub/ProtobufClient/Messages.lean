import WebPubSub.Library.Protobuf
import WebPubSub.Packets

/-!
# The messages of the protobuf protocol

`webpubsub.client.proto`: what a client sends and what it receives, with the bytes of each.
The classes that are generated from the schema write their fields in the order of the numbers,
leave out what has its default, and read any sequence of fields.

`google.protobuf.Any` and the reading of texts belong to the runtime, which is outside the
repository. It is only assumed that both read back what they wrote.
-/

namespace WebPubSub.ProtobufClient

open MsgPack (Bytes)
open Protobuf

/-- What the generated classes use of the runtime. -/
structure Runtime (Any : Type) where
  text : TextReader
  any : MessageType Any

variable {Any : Type}

/-! ## `MessageData` -/

/-- The cases of `data`. -/
inductive MessageData.DataOneof (Any : Type) where
  | textData (text : Text)
  | binaryData (bytes : Bytes)
  | protobufData (any : Any)
  | jsonData (text : Text)

/-- The payload of a message; without a case it has none. -/
structure MessageData (Any : Type) where
  data : Option (MessageData.DataOneof Any)

namespace MessageData

/-- The `Any` that a further one is merged with. -/
def any : MessageData Any → Option Any
  | ⟨some (.protobufData any)⟩ => some any
  | _ => none

/-- The field of a case replaces what was read before, except an `Any`, which is merged. -/
def merge (runtime : Runtime Any) (message : MessageData Any) :
    Field → Option (MessageData Any)
  | ⟨1, .lengthDelimited bytes⟩ =>
      (runtime.text.read bytes).map (fun text => ⟨some (.textData text)⟩)
  | ⟨2, .lengthDelimited bytes⟩ => some ⟨some (.binaryData bytes)⟩
  | ⟨3, .lengthDelimited bytes⟩ =>
      (runtime.any.mergeInto message.any bytes).map (fun any => ⟨some (.protobufData any)⟩)
  | ⟨4, .lengthDelimited bytes⟩ =>
      (runtime.text.read bytes).map (fun text => ⟨some (.jsonData text)⟩)
  | _ => some message

/-- A case is written also where its value is empty. -/
def fields (runtime : Runtime Any) : MessageData Any → List Field
  | ⟨none⟩ => []
  | ⟨some (.textData text)⟩ => [⟨1, textValue text⟩]
  | ⟨some (.binaryData bytes)⟩ => [⟨2, bytesValue bytes⟩]
  | ⟨some (.protobufData any)⟩ => [⟨3, messageValue runtime.any any⟩]
  | ⟨some (.jsonData text)⟩ => [⟨4, textValue text⟩]

/-- What is written is read back as the same case. -/
def type (runtime : Runtime Any) : MessageType (MessageData Any) :=
  .ofFields ⟨none⟩ (merge runtime) (fields runtime)
    (by
      intro message
      rcases message with ⟨_ | text | bytes | any | text⟩
      · exact List.forall_mem_nil _
      · exact valid_one (by decide) trivial
      · exact valid_one (by decide) trivial
      · exact valid_one (by decide) trivial
      · exact valid_one (by decide) trivial)
    (by
      intro message
      rcases message with ⟨_ | text | bytes | any | text⟩
      · exact leads_nil
      · exact leads_one (by simp [textValue, merge, runtime.text.read_encode])
      · exact leads_one rfl
      · exact leads_one (by simp [messageValue, merge, MessageData.any])
      · exact leads_one (by simp [textValue, merge, runtime.text.read_encode]))

end MessageData

/-! ## `UpstreamMessage` -/

namespace UpstreamMessage

/-- A request to send data to a group; an optional field may be absent. -/
structure SendToGroupMessage (Any : Type) where
  group : Text
  ackId : Option Int64
  data : Option (MessageData Any)
  noEcho : Option Bool

namespace SendToGroupMessage

/-- A data field is merged with the data before it; the others replace. -/
def merge (runtime : Runtime Any) (message : SendToGroupMessage Any) :
    Field → Option (SendToGroupMessage Any)
  | ⟨1, .lengthDelimited bytes⟩ =>
      (runtime.text.read bytes).map (fun group => { message with group })
  | ⟨2, .varint value⟩ => some { message with ackId := some (readInt64 value) }
  | ⟨3, .lengthDelimited bytes⟩ =>
      ((MessageData.type runtime).mergeInto message.data bytes).map (fun data =>
        { message with data := some data })
  | ⟨4, .varint value⟩ => some { message with noEcho := some (readBool value) }
  | _ => some message

/-- A group that is empty is not written; the options are written if they are there. -/
def fields (runtime : Runtime Any) (message : SendToGroupMessage Any) : List Field :=
  defaultField 1 textValue [] message.group ++ optionalField 2 int64Value message.ackId ++
    optionalField 3 (messageValue (MessageData.type runtime)) message.data ++
    optionalField 4 boolValue message.noEcho

def type (runtime : Runtime Any) : MessageType (SendToGroupMessage Any) :=
  .ofFields ⟨[], none, none, none⟩ (merge runtime) (fields runtime)
    (fun _ => valid_append (valid_append (valid_append
      (valid_defaultField (by decide) sized_text _ _)
      (valid_optionalField (by decide) sized_int64 _))
      (valid_optionalField (by decide) (sized_message _) _))
      (valid_optionalField (by decide) sized_bool _))
    (by
      rintro ⟨group, ackId, data, noEcho⟩
      have named : Leads (merge runtime) ⟨[], none, none, none⟩ (defaultField 1 textValue [] group)
          ⟨group, none, none, none⟩ :=
        leads_defaultField (by simp [textValue, merge, runtime.text.read_encode])
          (by rintro rfl; rfl)
      have acked : Leads (merge runtime) ⟨group, none, none, none⟩
          (optionalField 2 int64Value ackId) ⟨group, ackId, none, none⟩ :=
        leads_optionalField (by rintro given rfl; simp [int64Value, merge]) (by rintro rfl; rfl)
      have filled : Leads (merge runtime) ⟨group, ackId, none, none⟩
          (optionalField 3 (messageValue (MessageData.type runtime)) data)
          ⟨group, ackId, data, none⟩ :=
        leads_optionalField (by rintro given rfl; simp [messageValue, merge]) (by rintro rfl; rfl)
      have echoed : Leads (merge runtime) ⟨group, ackId, data, none⟩
          (optionalField 4 boolValue noEcho) ⟨group, ackId, data, noEcho⟩ :=
        leads_optionalField (by rintro given rfl; simp [boolValue, merge]) (by rintro rfl; rfl)
      exact ((named.append acked).append filled).append echoed)

end SendToGroupMessage

/-- An event with its data. -/
structure EventMessage (Any : Type) where
  event : Text
  data : Option (MessageData Any)
  ackId : Option Int64

namespace EventMessage

def merge (runtime : Runtime Any) (message : EventMessage Any) :
    Field → Option (EventMessage Any)
  | ⟨1, .lengthDelimited bytes⟩ =>
      (runtime.text.read bytes).map (fun event => { message with event })
  | ⟨2, .lengthDelimited bytes⟩ =>
      ((MessageData.type runtime).mergeInto message.data bytes).map (fun data =>
        { message with data := some data })
  | ⟨3, .varint value⟩ => some { message with ackId := some (readInt64 value) }
  | _ => some message

def fields (runtime : Runtime Any) (message : EventMessage Any) : List Field :=
  defaultField 1 textValue [] message.event ++
    optionalField 2 (messageValue (MessageData.type runtime)) message.data ++
    optionalField 3 int64Value message.ackId

def type (runtime : Runtime Any) : MessageType (EventMessage Any) :=
  .ofFields ⟨[], none, none⟩ (merge runtime) (fields runtime)
    (fun _ => valid_append (valid_append
      (valid_defaultField (by decide) sized_text _ _)
      (valid_optionalField (by decide) (sized_message _) _))
      (valid_optionalField (by decide) sized_int64 _))
    (by
      rintro ⟨event, data, ackId⟩
      have named : Leads (merge runtime) ⟨[], none, none⟩ (defaultField 1 textValue [] event)
          ⟨event, none, none⟩ :=
        leads_defaultField (by simp [textValue, merge, runtime.text.read_encode])
          (by rintro rfl; rfl)
      have filled : Leads (merge runtime) ⟨event, none, none⟩
          (optionalField 2 (messageValue (MessageData.type runtime)) data) ⟨event, data, none⟩ :=
        leads_optionalField (by rintro given rfl; simp [messageValue, merge]) (by rintro rfl; rfl)
      have acked : Leads (merge runtime) ⟨event, data, none⟩
          (optionalField 3 int64Value ackId) ⟨event, data, ackId⟩ :=
        leads_optionalField (by rintro given rfl; simp [int64Value, merge]) (by rintro rfl; rfl)
      exact (named.append filled).append acked)

end EventMessage

/-- `JoinGroupMessage` and `LeaveGroupMessage`, which have the same fields. -/
structure GroupMessage where
  group : Text
  ackId : Option Int64
deriving DecidableEq

/-- The fields of a request to join. -/
abbrev JoinGroupMessage := GroupMessage

/-- The fields of a request to leave. -/
abbrev LeaveGroupMessage := GroupMessage

namespace GroupMessage

def merge (runtime : Runtime Any) (message : GroupMessage) : Field → Option GroupMessage
  | ⟨1, .lengthDelimited bytes⟩ =>
      (runtime.text.read bytes).map (fun group => { message with group })
  | ⟨2, .varint value⟩ => some { message with ackId := some (readInt64 value) }
  | _ => some message

def fields (message : GroupMessage) : List Field :=
  defaultField 1 textValue [] message.group ++ optionalField 2 int64Value message.ackId

/-- Both requests with their bytes. -/
def type (runtime : Runtime Any) : MessageType GroupMessage :=
  .ofFields ⟨[], none⟩ (merge runtime) fields
    (fun _ => valid_append
      (valid_defaultField (by decide) sized_text _ _)
      (valid_optionalField (by decide) sized_int64 _))
    (by
      rintro ⟨group, ackId⟩
      have named : Leads (merge runtime) ⟨[], none⟩ (defaultField 1 textValue [] group)
          ⟨group, none⟩ :=
        leads_defaultField (by simp [textValue, merge, runtime.text.read_encode])
          (by rintro rfl; rfl)
      have acked : Leads (merge runtime) ⟨group, none⟩ (optionalField 2 int64Value ackId)
          ⟨group, ackId⟩ :=
        leads_optionalField (by rintro given rfl; simp [int64Value, merge]) (by rintro rfl; rfl)
      exact named.append acked)

end GroupMessage

/-- The greatest sequence number that was seen. -/
structure SequenceAckMessage where
  sequenceId : Int64
deriving DecidableEq

namespace SequenceAckMessage

def merge (message : SequenceAckMessage) : Field → Option SequenceAckMessage
  | ⟨1, .varint value⟩ => some ⟨readInt64 value⟩
  | _ => some message

/-- A number that is zero is not written. -/
def fields (message : SequenceAckMessage) : List Field :=
  defaultField 1 int64Value 0 message.sequenceId

def type : MessageType SequenceAckMessage :=
  .ofFields ⟨0⟩ merge fields (fun _ => valid_defaultField (by decide) sized_int64 _ _)
    (by
      rintro ⟨sequenceId⟩
      exact leads_defaultField (by simp [int64Value, merge]) (by rintro rfl; rfl))

end SequenceAckMessage

/-- The cases of `message`. -/
inductive MessageOneof (Any : Type) where
  | sendToGroupMessage (message : SendToGroupMessage Any)
  | eventMessage (message : EventMessage Any)
  | joinGroupMessage (message : JoinGroupMessage)
  | leaveGroupMessage (message : LeaveGroupMessage)
  | sequenceAckMessage (message : SequenceAckMessage)

end UpstreamMessage

/-- What a client sends: one of the cases, or none when no known field was read. -/
structure UpstreamMessage (Any : Type) where
  message : Option (UpstreamMessage.MessageOneof Any)

namespace UpstreamMessage

/-- A case is merged with what there is of the same case. -/
def merge (runtime : Runtime Any) (upstream : UpstreamMessage Any) :
    Field → Option (UpstreamMessage Any)
  | ⟨1, .lengthDelimited bytes⟩ =>
      let before := match upstream.message with
        | some (.sendToGroupMessage message) => some message
        | _ => none
      ((SendToGroupMessage.type runtime).mergeInto before bytes).map (fun message =>
        ⟨some (.sendToGroupMessage message)⟩)
  | ⟨5, .lengthDelimited bytes⟩ =>
      let before := match upstream.message with
        | some (.eventMessage message) => some message
        | _ => none
      ((EventMessage.type runtime).mergeInto before bytes).map (fun message =>
        ⟨some (.eventMessage message)⟩)
  | ⟨6, .lengthDelimited bytes⟩ =>
      let before := match upstream.message with
        | some (.joinGroupMessage message) => some message
        | _ => none
      ((GroupMessage.type runtime).mergeInto before bytes).map (fun message =>
        ⟨some (.joinGroupMessage message)⟩)
  | ⟨7, .lengthDelimited bytes⟩ =>
      let before := match upstream.message with
        | some (.leaveGroupMessage message) => some message
        | _ => none
      ((GroupMessage.type runtime).mergeInto before bytes).map (fun message =>
        ⟨some (.leaveGroupMessage message)⟩)
  | ⟨8, .lengthDelimited bytes⟩ =>
      let before := match upstream.message with
        | some (.sequenceAckMessage message) => some message
        | _ => none
      (SequenceAckMessage.type.mergeInto before bytes).map (fun message =>
        ⟨some (.sequenceAckMessage message)⟩)
  | _ => some upstream

/-- The number of the one field tells the case. -/
def fields (runtime : Runtime Any) : UpstreamMessage Any → List Field
  | ⟨none⟩ => []
  | ⟨some (.sendToGroupMessage message)⟩ =>
      [⟨1, messageValue (SendToGroupMessage.type runtime) message⟩]
  | ⟨some (.eventMessage message)⟩ => [⟨5, messageValue (EventMessage.type runtime) message⟩]
  | ⟨some (.joinGroupMessage message)⟩ => [⟨6, messageValue (GroupMessage.type runtime) message⟩]
  | ⟨some (.leaveGroupMessage message)⟩ => [⟨7, messageValue (GroupMessage.type runtime) message⟩]
  | ⟨some (.sequenceAckMessage message)⟩ => [⟨8, messageValue SequenceAckMessage.type message⟩]

/-- What is written is read back as the same case. -/
def type (runtime : Runtime Any) : MessageType (UpstreamMessage Any) :=
  .ofFields ⟨none⟩ (merge runtime) (fields runtime)
    (by
      rintro ⟨_ | message | message | message | message | message⟩
      · exact List.forall_mem_nil _
      · exact valid_one (by decide) (sized_message _ message)
      · exact valid_one (by decide) (sized_message _ message)
      · exact valid_one (by decide) (sized_message _ message)
      · exact valid_one (by decide) (sized_message _ message)
      · exact valid_one (by decide) (sized_message _ message))
    (by
      rintro ⟨_ | message | message | message | message | message⟩
      · exact leads_nil
      · exact leads_one (by simp [messageValue, merge])
      · exact leads_one (by simp [messageValue, merge])
      · exact leads_one (by simp [messageValue, merge])
      · exact leads_one (by simp [messageValue, merge])
      · exact leads_one (by simp [messageValue, merge]))

end UpstreamMessage

/-! ## `DownstreamMessage` -/

namespace DownstreamMessage

/-- Why a request failed. -/
structure ErrorMessage where
  name : Text
  message : Text
deriving DecidableEq

namespace ErrorMessage

def merge (runtime : Runtime Any) (error : ErrorMessage) : Field → Option ErrorMessage
  | ⟨1, .lengthDelimited bytes⟩ => (runtime.text.read bytes).map (fun name => { error with name })
  | ⟨2, .lengthDelimited bytes⟩ =>
      (runtime.text.read bytes).map (fun message => { error with message })
  | _ => some error

def fields (error : ErrorMessage) : List Field :=
  defaultField 1 textValue [] error.name ++ defaultField 2 textValue [] error.message

/-- An error with its bytes; both texts may be left out. -/
def type (runtime : Runtime Any) : MessageType ErrorMessage :=
  .ofFields ⟨[], []⟩ (merge runtime) fields
    (fun _ => valid_append
      (valid_defaultField (by decide) sized_text _ _)
      (valid_defaultField (by decide) sized_text _ _))
    (by
      rintro ⟨name, message⟩
      have named : Leads (merge runtime) ⟨[], []⟩ (defaultField 1 textValue [] name) ⟨name, []⟩ :=
        leads_defaultField (by simp [textValue, merge, runtime.text.read_encode])
          (by rintro rfl; rfl)
      have explained : Leads (merge runtime) ⟨name, []⟩ (defaultField 2 textValue [] message)
          ⟨name, message⟩ :=
        leads_defaultField (by simp [textValue, merge, runtime.text.read_encode])
          (by rintro rfl; rfl)
      exact named.append explained)

end ErrorMessage

/-- An ack; that of a request that failed has an error. -/
structure AckMessage where
  ackId : Int64
  success : Bool
  error : Option ErrorMessage
deriving DecidableEq

namespace AckMessage

/-- An error is merged with the one before it. -/
def merge (runtime : Runtime Any) (ack : AckMessage) : Field → Option AckMessage
  | ⟨1, .varint value⟩ => some { ack with ackId := readInt64 value }
  | ⟨2, .varint value⟩ => some { ack with success := readBool value }
  | ⟨3, .lengthDelimited bytes⟩ =>
      ((ErrorMessage.type runtime).mergeInto ack.error bytes).map (fun error =>
        { ack with error := some error })
  | _ => some ack

/-- A number that is zero and a success that is false are not written. -/
def fields (runtime : Runtime Any) (ack : AckMessage) : List Field :=
  defaultField 1 int64Value 0 ack.ackId ++ defaultField 2 boolValue false ack.success ++
    optionalField 3 (messageValue (ErrorMessage.type runtime)) ack.error

def type (runtime : Runtime Any) : MessageType AckMessage :=
  .ofFields ⟨0, false, none⟩ (merge runtime) (fields runtime)
    (fun _ => valid_append (valid_append
      (valid_defaultField (by decide) sized_int64 _ _)
      (valid_defaultField (by decide) sized_bool _ _))
      (valid_optionalField (by decide) (sized_message _) _))
    (by
      rintro ⟨ackId, success, error⟩
      have numbered : Leads (merge runtime) ⟨0, false, none⟩ (defaultField 1 int64Value 0 ackId)
          ⟨ackId, false, none⟩ :=
        leads_defaultField (by simp [int64Value, merge]) (by rintro rfl; rfl)
      have judged : Leads (merge runtime) ⟨ackId, false, none⟩
          (defaultField 2 boolValue false success) ⟨ackId, success, none⟩ :=
        leads_defaultField (by simp [boolValue, merge]) (by rintro rfl; rfl)
      have explained : Leads (merge runtime) ⟨ackId, success, none⟩
          (optionalField 3 (messageValue (ErrorMessage.type runtime)) error)
          ⟨ackId, success, error⟩ :=
        leads_optionalField (by rintro given rfl; simp [messageValue, merge]) (by rintro rfl; rfl)
      exact (numbered.append judged).append explained)

end AckMessage

/-- `DataMessage`, whose `from` is its `origin`. -/
structure DataMessage (Any : Type) where
  origin : Text
  group : Option Text
  data : Option (MessageData Any)
  sequenceId : Option Int64

namespace DataMessage

/-- The data are merged, the other fields replace. -/
def merge (runtime : Runtime Any) (message : DataMessage Any) : Field → Option (DataMessage Any)
  | ⟨1, .lengthDelimited bytes⟩ =>
      (runtime.text.read bytes).map (fun origin => { message with origin })
  | ⟨2, .lengthDelimited bytes⟩ =>
      (runtime.text.read bytes).map (fun group => { message with group := some group })
  | ⟨3, .lengthDelimited bytes⟩ =>
      ((MessageData.type runtime).mergeInto message.data bytes).map (fun data =>
        { message with data := some data })
  | ⟨4, .varint value⟩ => some { message with sequenceId := some (readInt64 value) }
  | _ => some message

/-- The sender is left out when empty, the other fields when absent. -/
def fields (runtime : Runtime Any) (message : DataMessage Any) : List Field :=
  defaultField 1 textValue [] message.origin ++ optionalField 2 textValue message.group ++
    optionalField 3 (messageValue (MessageData.type runtime)) message.data ++
    optionalField 4 int64Value message.sequenceId

def type (runtime : Runtime Any) : MessageType (DataMessage Any) :=
  .ofFields ⟨[], none, none, none⟩ (merge runtime) (fields runtime)
    (fun _ => valid_append (valid_append (valid_append
      (valid_defaultField (by decide) sized_text _ _)
      (valid_optionalField (by decide) sized_text _))
      (valid_optionalField (by decide) (sized_message _) _))
      (valid_optionalField (by decide) sized_int64 _))
    (by
      rintro ⟨origin, group, data, sequenceId⟩
      have sent : Leads (merge runtime) ⟨[], none, none, none⟩ (defaultField 1 textValue [] origin)
          ⟨origin, none, none, none⟩ :=
        leads_defaultField (by simp [textValue, merge, runtime.text.read_encode])
          (by rintro rfl; rfl)
      have named : Leads (merge runtime) ⟨origin, none, none, none⟩
          (optionalField 2 textValue group) ⟨origin, group, none, none⟩ :=
        leads_optionalField (by rintro given rfl; simp [textValue, merge, runtime.text.read_encode])
          (by rintro rfl; rfl)
      have filled : Leads (merge runtime) ⟨origin, group, none, none⟩
          (optionalField 3 (messageValue (MessageData.type runtime)) data)
          ⟨origin, group, data, none⟩ :=
        leads_optionalField (by rintro given rfl; simp [messageValue, merge]) (by rintro rfl; rfl)
      have numbered : Leads (merge runtime) ⟨origin, group, data, none⟩
          (optionalField 4 int64Value sequenceId) ⟨origin, group, data, sequenceId⟩ :=
        leads_optionalField (by rintro given rfl; simp [int64Value, merge]) (by rintro rfl; rfl)
      exact ((sent.append named).append filled).append numbered)

end DataMessage

/-- The names of a new connection, and the token to recover it. -/
structure ConnectedMessage where
  connectionId : Text
  userId : Text
  reconnectionToken : Text
deriving DecidableEq

namespace ConnectedMessage

def merge (runtime : Runtime Any) (message : ConnectedMessage) : Field → Option ConnectedMessage
  | ⟨1, .lengthDelimited bytes⟩ =>
      (runtime.text.read bytes).map (fun connectionId => { message with connectionId })
  | ⟨2, .lengthDelimited bytes⟩ =>
      (runtime.text.read bytes).map (fun userId => { message with userId })
  | ⟨3, .lengthDelimited bytes⟩ =>
      (runtime.text.read bytes).map (fun reconnectionToken => { message with reconnectionToken })
  | _ => some message

def fields (message : ConnectedMessage) : List Field :=
  defaultField 1 textValue [] message.connectionId ++ defaultField 2 textValue [] message.userId ++
    defaultField 3 textValue [] message.reconnectionToken

/-- A connected message with its bytes. -/
def type (runtime : Runtime Any) : MessageType ConnectedMessage :=
  .ofFields ⟨[], [], []⟩ (merge runtime) fields
    (fun _ => valid_append (valid_append
      (valid_defaultField (by decide) sized_text _ _)
      (valid_defaultField (by decide) sized_text _ _))
      (valid_defaultField (by decide) sized_text _ _))
    (by
      rintro ⟨connectionId, userId, reconnectionToken⟩
      have connected : Leads (merge runtime) ⟨[], [], []⟩ (defaultField 1 textValue [] connectionId)
          ⟨connectionId, [], []⟩ :=
        leads_defaultField (by simp [textValue, merge, runtime.text.read_encode])
          (by rintro rfl; rfl)
      have named : Leads (merge runtime) ⟨connectionId, [], []⟩
          (defaultField 2 textValue [] userId) ⟨connectionId, userId, []⟩ :=
        leads_defaultField (by simp [textValue, merge, runtime.text.read_encode])
          (by rintro rfl; rfl)
      have renewed : Leads (merge runtime) ⟨connectionId, userId, []⟩
          (defaultField 3 textValue [] reconnectionToken)
          ⟨connectionId, userId, reconnectionToken⟩ :=
        leads_defaultField (by simp [textValue, merge, runtime.text.read_encode])
          (by rintro rfl; rfl)
      exact (connected.append named).append renewed)

end ConnectedMessage

/-- Why the connection ends. -/
structure DisconnectedMessage where
  reason : Text
deriving DecidableEq

namespace DisconnectedMessage

/-- The reason has the number two; other fields are skipped. -/
def merge (runtime : Runtime Any) (message : DisconnectedMessage) :
    Field → Option DisconnectedMessage
  | ⟨2, .lengthDelimited bytes⟩ => (runtime.text.read bytes).map DisconnectedMessage.mk
  | _ => some message

def fields (message : DisconnectedMessage) : List Field :=
  defaultField 2 textValue [] message.reason

def type (runtime : Runtime Any) : MessageType DisconnectedMessage :=
  .ofFields ⟨[]⟩ (merge runtime) fields (fun _ => valid_defaultField (by decide) sized_text _ _)
    (by
      rintro ⟨reason⟩
      exact leads_defaultField (by simp [textValue, merge, runtime.text.read_encode])
        (by rintro rfl; rfl))

end DisconnectedMessage

/-- `SystemMessage`, by the cases of its `message`. -/
inductive SystemMessage.MessageOneof where
  | connectedMessage (message : ConnectedMessage)
  | disconnectedMessage (message : DisconnectedMessage)
deriving DecidableEq

/-- What is told about the connection itself. -/
structure SystemMessage where
  message : Option SystemMessage.MessageOneof
deriving DecidableEq

namespace SystemMessage

/-- A case is merged with what there is of the same case. -/
def merge (runtime : Runtime Any) (system : SystemMessage) : Field → Option SystemMessage
  | ⟨1, .lengthDelimited bytes⟩ =>
      let before := match system.message with
        | some (.connectedMessage message) => some message
        | _ => none
      ((ConnectedMessage.type runtime).mergeInto before bytes).map (fun message =>
        ⟨some (.connectedMessage message)⟩)
  | ⟨2, .lengthDelimited bytes⟩ =>
      let before := match system.message with
        | some (.disconnectedMessage message) => some message
        | _ => none
      ((DisconnectedMessage.type runtime).mergeInto before bytes).map (fun message =>
        ⟨some (.disconnectedMessage message)⟩)
  | _ => some system

def fields (runtime : Runtime Any) : SystemMessage → List Field
  | ⟨none⟩ => []
  | ⟨some (.connectedMessage message)⟩ =>
      [⟨1, messageValue (ConnectedMessage.type runtime) message⟩]
  | ⟨some (.disconnectedMessage message)⟩ =>
      [⟨2, messageValue (DisconnectedMessage.type runtime) message⟩]

/-- A system message with its bytes. -/
def type (runtime : Runtime Any) : MessageType SystemMessage :=
  .ofFields ⟨none⟩ (merge runtime) (fields runtime)
    (by
      rintro ⟨_ | message | message⟩
      · exact List.forall_mem_nil _
      · exact valid_one (by decide) (sized_message _ message)
      · exact valid_one (by decide) (sized_message _ message))
    (by
      rintro ⟨_ | message | message⟩
      · exact leads_nil
      · exact leads_one (by simp [messageValue, merge])
      · exact leads_one (by simp [messageValue, merge]))

end SystemMessage

/-- The cases of `message`. -/
inductive MessageOneof (Any : Type) where
  | ackMessage (message : AckMessage)
  | dataMessage (message : DataMessage Any)
  | systemMessage (message : SystemMessage)

end DownstreamMessage

/-- What a client receives: one of the cases, or none when no known field was read. -/
structure DownstreamMessage (Any : Type) where
  message : Option (DownstreamMessage.MessageOneof Any)

namespace DownstreamMessage

/-- A case is merged with what there is of the same case. -/
def merge (runtime : Runtime Any) (downstream : DownstreamMessage Any) :
    Field → Option (DownstreamMessage Any)
  | ⟨1, .lengthDelimited bytes⟩ =>
      let before := match downstream.message with
        | some (.ackMessage message) => some message
        | _ => none
      ((AckMessage.type runtime).mergeInto before bytes).map (fun message =>
        ⟨some (.ackMessage message)⟩)
  | ⟨2, .lengthDelimited bytes⟩ =>
      let before := match downstream.message with
        | some (.dataMessage message) => some message
        | _ => none
      ((DataMessage.type runtime).mergeInto before bytes).map (fun message =>
        ⟨some (.dataMessage message)⟩)
  | ⟨3, .lengthDelimited bytes⟩ =>
      let before := match downstream.message with
        | some (.systemMessage message) => some message
        | _ => none
      ((SystemMessage.type runtime).mergeInto before bytes).map (fun message =>
        ⟨some (.systemMessage message)⟩)
  | _ => some downstream

/-- The number of the one field tells the case. -/
def fields (runtime : Runtime Any) : DownstreamMessage Any → List Field
  | ⟨none⟩ => []
  | ⟨some (.ackMessage message)⟩ => [⟨1, messageValue (AckMessage.type runtime) message⟩]
  | ⟨some (.dataMessage message)⟩ => [⟨2, messageValue (DataMessage.type runtime) message⟩]
  | ⟨some (.systemMessage message)⟩ => [⟨3, messageValue (SystemMessage.type runtime) message⟩]

/-- What is written is read back as the same case. -/
def type (runtime : Runtime Any) : MessageType (DownstreamMessage Any) :=
  .ofFields ⟨none⟩ (merge runtime) (fields runtime)
    (by
      rintro ⟨_ | message | message | message⟩
      · exact List.forall_mem_nil _
      · exact valid_one (by decide) (sized_message _ message)
      · exact valid_one (by decide) (sized_message _ message)
      · exact valid_one (by decide) (sized_message _ message))
    (by
      rintro ⟨_ | message | message | message⟩
      · exact leads_nil
      · exact leads_one (by simp [messageValue, merge])
      · exact leads_one (by simp [messageValue, merge])
      · exact leads_one (by simp [messageValue, merge]))

end DownstreamMessage

/-! ## A runtime -/

/-- `google.protobuf.Any` by its two fields. -/
structure AnyMessage where
  typeUrl : Text
  value : Bytes
deriving DecidableEq

namespace AnyMessage

def merge (reader : TextReader) (any : AnyMessage) : Field → Option AnyMessage
  | ⟨1, .lengthDelimited bytes⟩ => (reader.read bytes).map (fun typeUrl => { any with typeUrl })
  | ⟨2, .lengthDelimited value⟩ => some { any with value }
  | _ => some any

def fields (any : AnyMessage) : List Field :=
  defaultField 1 textValue [] any.typeUrl ++ defaultField 2 bytesValue [] any.value

/-- An `Any` with its bytes. -/
def type (reader : TextReader) : MessageType AnyMessage :=
  .ofFields ⟨[], []⟩ (merge reader) fields
    (fun _ => valid_append
      (valid_defaultField (by decide) sized_text _ _)
      (valid_defaultField (by decide) sized_bytes _ _))
    (by
      rintro ⟨typeUrl, value⟩
      have named : Leads (merge reader) ⟨[], []⟩ (defaultField 1 textValue [] typeUrl)
          ⟨typeUrl, []⟩ :=
        leads_defaultField (by simp [textValue, merge, reader.read_encode]) (by rintro rfl; rfl)
      have filled : Leads (merge reader) ⟨typeUrl, []⟩
          (defaultField 2 bytesValue [] value) ⟨typeUrl, value⟩ :=
        leads_defaultField rfl (by rintro rfl; rfl)
      exact named.append filled)

end AnyMessage

/-- Texts are read with replacement characters, and an `Any` has no unknown fields. -/
def Runtime.standard : Runtime AnyMessage :=
  let text : TextReader := ⟨fun bytes => some (Utf8.Decoder.run none bytes), by simp [Utf8.run_encode]⟩
  ⟨text, AnyMessage.type text⟩

end WebPubSub.ProtobufClient
