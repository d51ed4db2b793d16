import WebPubSub.Library.JsonText
import WebPubSub.Library.Utf8
import WebPubSub.Packets

/-!
# The client that reconnects

`WebPubSubServiceWebsocketClient` of the reliable subprotocol: what `Listen` makes of the
frames of a message, which messages it hands over and acknowledges, how it reconnects, and the
table of calls that wait for an ack.

A `JsonNode` is the value that was parsed. The depth that the parser of .NET allows has no
counterpart here, and the address of a reconnection is kept as the two values that its query
is made of.
-/

namespace WebPubSub.Reliable

abbrev Bytes := List UInt8

/-! ## Reading a message -/

inductive WebSocketMessageType where
  | text | binary | close
deriving DecidableEq

/-- A `WebSocketReceiveResult` with what was written to the front of the buffer. -/
structure WebSocketReceiveResult where
  written : Bytes
  messageType : WebSocketMessageType
  endOfMessage : Bool
deriving DecidableEq

/-- `resultArrayWithTrailing`. The buffer is overwritten by the next frame, a clone is not. -/
inductive ResultArray where
  | null
  | buffer
  | clone (bytes : Bytes)

/-- The variables of the loop over the frames of a message. -/
structure Reading where
  buffer : Bytes
  resultArrayWithTrailing : ResultArray
  resultArraySize : Nat
  ms : Option Bytes

inductive ResponseMessage where
  | textMessage (text : Text)
  | binaryMessage (bytes : Bytes)
  | close

namespace Reading

/-- The loop starts with nothing read into a buffer that holds anything. -/
def start (buffer : Bytes) : Reading := ⟨buffer, .null, 0, none⟩

/-- The bytes of `resultArrayWithTrailing`. -/
def resultArray (reading : Reading) : Bytes :=
  match reading.resultArrayWithTrailing with
  | .null => []
  | .buffer => reading.buffer
  | .clone bytes => bytes

/-- What was read: the stream when there is one, or the array without what trails. -/
def content (reading : Reading) : Bytes :=
  reading.ms.getD (reading.resultArray.take reading.resultArraySize)

/-- One turn of the loop, up to the test of `EndOfMessage`. -/
def receive (reading : Reading) (frame : WebSocketReceiveResult) : Reading :=
  let count := frame.written.length
  let reading :=
    { reading with buffer := frame.written ++ reading.buffer.drop count }
  match reading.resultArrayWithTrailing with
  | .null =>
      { reading with
        resultArraySize := reading.resultArraySize + count
        resultArrayWithTrailing := .buffer }
  | _ => { reading with ms := some (reading.content ++ reading.buffer.take count) }

/-- The rest of a turn when the message goes on: the array is cloned once. -/
def keep (reading : Reading) : Reading :=
  match reading.resultArrayWithTrailing with
  | .buffer => { reading with resultArrayWithTrailing := .clone reading.resultArray }
  | _ => reading

/-- What was read, by the type of the last frame. -/
def response (reading : Reading) (type : WebSocketMessageType) : ResponseMessage :=
  match type with
  | .text => .textMessage (Utf8.Decoder.run none reading.content)
  | .binary => .binaryMessage reading.content
  | .close => .close

/-- The loop, with the frames it leaves; `none` when they end before the message does. -/
def run (reading : Reading) :
    List WebSocketReceiveResult → Option (ResponseMessage × List WebSocketReceiveResult)
  | [] => none
  | frame :: frames =>
      let reading := reading.receive frame
      if frame.endOfMessage then some (reading.response frame.messageType, frames)
      else reading.keep.run frames

end Reading

/-! ## Reading a member -/

/-- A node is a null reference for `null`. -/
def node : Json → Option Json
  | .null => none
  | json => some json

/-- `jobject[key]`, which throws when the value is no object or has two members of one name. -/
def item (json : Json) (key : Text) : Option (Option Json) :=
  match json with
  | .object members =>
      if (members.map Prod.fst).Nodup then
        some (((members.find? (fun member => member.1 = key)).map Prod.snd).bind node)
      else none
  | _ => none

/-- `jobject[key].ToString()`, which throws when there is no such member. `written` is the text
of a value that is no string. -/
def itemText (written : Json → Text) (json : Json) (key : Text) : Option Text :=
  (item json key).join.map (fun value =>
    match value with
    | .string text => text
    | other => written other)

/-- The largest `ulong` plus one. -/
def ulongSize : Nat := 2 ^ 64

/-- `GetValue<ulong>()`, which throws for anything but digits of a `ulong`. -/
def getUlong : Json → Option Nat
  | .number source =>
      let value := Nat.ofDigitChars 10 source 0
      if source.all Char.isDigit ∧ value < ulongSize then some value else none
  | _ => none

/-! ## The client -/

/-- The address that is connected to: `_uri`, or the base address with the two values. -/
inductive Target where
  | uri
  | recovery (connectionId reconnectionToken : Text)
deriving DecidableEq

/-- How the task of an `AckEntity` ended. -/
inductive Completion where
  | result (success : Bool)
  | cancelled
  | exception
deriving DecidableEq

/-- Where the tasks of a client stand. `ended` is a `Listen` that has ended, with
`HandleReconnectionAsync` not yet run. -/
inductive Phase where
  | created
  | listening
  | ended
  | reconnecting (target : Target)
  | finished
deriving DecidableEq

/-- The fields of a client, and the tasks of the `AckEntity` objects in the order in which they
were made. `cache` gives the entity of an `ackId`. -/
structure Client where
  disableReconnection : Bool
  initialized : Bool
  latestSequenceId : Nat
  connectionId : Option Text
  reconnectionToken : Option Text
  cache : List (Nat × Nat)
  entities : List (Option Completion)
  phase : Phase
deriving DecidableEq

namespace Client

def initial : Client where
  disableReconnection := false
  initialized := false
  latestSequenceId := 0
  connectionId := none
  reconnectionToken := none
  cache := []
  entities := []
  phase := .created

/-- `BuildReconnectionUri`, and the choice that `StartAsync` makes. -/
def buildReconnectionUri (client : Client) : Target :=
  match client.connectionId, client.reconnectionToken with
  | some connectionId, some reconnectionToken => .recovery connectionId reconnectionToken
  | _, _ => .uri

/-- A connection was made, by `StartAsync` or by `HandleReconnectionAsync`. -/
def connected (client : Client) : Client := { client with phase := .listening }

/-- The end of `Listen`. -/
def endListen (client : Client) (policyViolation : Bool) : Client :=
  { client with
    disableReconnection := client.disableReconnection || policyViolation
    phase := .ended }

/-- `Stop`. The socket that is disposed ends `Listen` later. -/
def stop (client : Client) : Client := { client with disableReconnection := true }

/-- A completion source keeps the first completion. -/
def complete (client : Client) (entity : Nat) (completion : Completion) : Client :=
  { client with entities := client.entities.modify entity (fun done => done.or (some completion)) }

/-- `HandleReconnectionAsync` up to its loop. -/
def handleReconnection (client : Client) : Client :=
  let cancelled := client.cache.foldl (fun client entry => client.complete entry.2 .cancelled)
    client
  { cancelled with
    cache := []
    phase :=
      if client.disableReconnection then .finished
      else .reconnecting client.buildReconnectionUri }

/-- `CreateAckEntity`, with the entity that was made. -/
def createAckEntity (client : Client) (ackId : Nat) : Client × Nat :=
  ({ client with
      cache :=
        client.cache.filter (fun entry => entry.1 ≠ ackId) ++ [(ackId, client.entities.length)]
      entities := client.entities ++ [none] }, client.entities.length)

/-- `HandleAck`. -/
def handleAck (client : Client) (ackId : Nat) (success : Bool) : Client :=
  match client.cache.lookup ackId with
  | none => client
  | some entity =>
      { client with cache := client.cache.filter (fun entry => entry.1 ≠ ackId) }.complete entity
        (.result success)

section Listening

variable (written : Json → Text)

/-- The part of `Listen` that reads the connected message, and whether it did not throw. -/
def readConnected (client : Client) (json : Json) : Client × Bool :=
  if client.initialized then (client, true)
  else
    match itemText written json "type".toList with
    | none => (client, false)
    | some type =>
      if type ≠ "system".toList then (client, true)
      else
        match itemText written json "event".toList with
        | none => (client, false)
        | some event =>
          if event ≠ "connected".toList then (client, true)
          else
            match itemText written json "connectionId".toList with
            | none => (client, false)
            | some connectionId =>
              let client := { client with connectionId := some connectionId }
              match itemText written json "reconnectionToken".toList with
              | none => (client, false)
              | some reconnectionToken =>
                ({ client with
                    reconnectionToken := some reconnectionToken
                    initialized := true }, true)

/-- The sequence id that is acknowledged, if there is one, and whether the message is a
duplicate; `none` when reading the number throws. -/
def readSequence (client : Client) (json : Json) : Option (Client × Option Nat × Bool) :=
  match item json "sequenceId".toList with
  | none => none
  | some none => some (client, none, false)
  | some (some value) =>
      (getUlong value).map (fun sequenceId =>
        if client.latestSequenceId < sequenceId then
          ({ client with latestSequenceId := sequenceId }, some sequenceId, false)
        else (client, some client.latestSequenceId, true))

/-- What `Listen` makes of a message: it ends, or it sends a `SequenceAckMessage` and hands a
text to `OnNext`. -/
inductive Outcome where
  | ended
  | handled (sequenceAck : Option Nat) (next : Option Text)
deriving DecidableEq

/-- One turn of `Listen` after the message is complete. -/
def handle (client : Client) (text : Text) : Client × Outcome :=
  match Json.parse text with
  | none => (client, .ended)
  | some json =>
    match client.readConnected written json with
    | (client, false) => (client, .ended)
    | (client, true) =>
      match client.readSequence json with
      | none => (client, .ended)
      | some (client, sequenceAck, duplicated) =>
        (client, .handled sequenceAck (if duplicated then none else some text))

/-- One turn of `Listen`. A message that is binary has no text. -/
def listen (client : Client) (buffer : Bytes) (frames : List WebSocketReceiveResult) :
    Option (Client × Outcome) :=
  ((Reading.start buffer).run frames).map (fun read =>
    match read.1 with
    | .textMessage text => client.handle written text
    | .binaryMessage _ | .close => (client, .ended))

end Listening

end Client

/-! ## Laws -/

namespace Reading

variable {reading : Reading}

/-- Nothing was read, or what was read is not in the buffer. -/
def Settled (reading : Reading) : Prop :=
  match reading.resultArrayWithTrailing with
  | .null => reading.ms = none ∧ reading.resultArraySize = 0
  | .buffer => False
  | .clone _ => True

/-- A frame is added to what was read. -/
theorem content_receive (settled : reading.Settled) (frame : WebSocketReceiveResult) :
    (reading.receive frame).content = reading.content ++ frame.written := by
  obtain ⟨buffer, held, size, ms⟩ := reading
  cases held with
  | null =>
    obtain ⟨rfl, rfl⟩ := settled
    simp [receive, content, resultArray]
  | buffer => exact settled.elim
  | clone bytes => cases ms <;> simp [receive, content, resultArray]

/-- Cloning the array keeps what was read, and the buffer may be written again. -/
theorem keep_receive (settled : reading.Settled) (frame : WebSocketReceiveResult) :
    (reading.receive frame).keep.content = (reading.receive frame).content ∧
      (reading.receive frame).keep.Settled := by
  obtain ⟨buffer, held, size, ms⟩ := reading
  cases held with
  | null => exact ⟨rfl, trivial⟩
  | buffer => exact settled.elim
  | clone bytes => exact ⟨rfl, trivial⟩

/-- The message is what its frames were, whatever the buffer held. -/
theorem run_frames (settled : reading.Settled) {front : List WebSocketReceiveResult}
    (more : ∀ frame ∈ front, frame.endOfMessage = false) {last : WebSocketReceiveResult}
    (final : last.endOfMessage = true) (text : last.messageType = .text)
    (rest : List WebSocketReceiveResult) :
    reading.run (front ++ last :: rest) =
      some (.textMessage (Utf8.Decoder.run none
        (reading.content ++ (front ++ [last]).flatMap WebSocketReceiveResult.written)), rest) := by
  induction front generalizing reading with
  | nil => simp [run, final, text, response, content_receive settled]
  | cons frame front inductionHypothesis =>
    obtain ⟨goesOn, others⟩ := List.forall_mem_cons.mp more
    obtain ⟨kept, again⟩ := keep_receive settled frame
    rw [List.cons_append, run, goesOn]
    simp only [Bool.false_eq_true, if_false]
    rw [inductionHypothesis again others, kept, content_receive settled]
    simp

end Reading

end WebPubSub.Reliable
