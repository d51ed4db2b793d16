import WebPubSub.Library.Base64
import WebPubSub.Library.Protobuf
import WebPubSub.Packets

/-!
# Awareness messages

What `WebPubSubSyncClient` says about awareness, when its socket opens and when its awareness
changes, and how `WebPubSubSyncHost` and the other clients read it. The envelope names the kind
of a message, the bytes inside it begin with a number of their own.

`lib0` and `y-protocols` are libraries. Of the first a reader is known to read what the writer
of its kind wrote; an array is written behind its length. Of the second the reader of awareness
updates reads what was encoded, and nothing from no bytes; the first message of a sync is a
zero and an array, the state vector of the document. The changes of an awareness that an update
leads to are left out, as is what the handlers of the other two kinds answer.

`decodes_iff` says which messages are read: the one of an opened socket carries the bytes of
the sync message that was written before it.
-/

namespace WebPubSub.Sync.Wire

open MsgPack (Bytes Reader Reads)

/-- One client of an awareness update; a client that is gone has no state. -/
structure Entry (State : Type) where
  clientID : Nat
  clock : Nat
  state : Option State
deriving DecidableEq

/-- What the code uses of `lib0` and `y-protocols`. -/
structure Libraries (Doc State : Type) where
  writeVarUint : Nat → Bytes
  readVarUint : Reader Nat
  readVarUint8Array : Reader Bytes
  encodeStateVector : Doc → Bytes
  encodeEntries : List (Entry State) → Bytes
  decodeEntries : Bytes → Option (List (Entry State))
  readVarUint_write : ∀ value rest, readVarUint (writeVarUint value ++ rest) = some (value, rest)
  readVarUint8Array_write : ∀ array rest,
    readVarUint8Array (writeVarUint array.length ++ (array ++ rest)) = some (array, rest)
  decodeEntries_encode : ∀ entries, decodeEntries (encodeEntries entries) = some entries
  decodeEntries_nil : decodeEntries [] = none

/-- An `Awareness`: the states by their clients, with the clock of each. -/
structure Awareness (State : Type) where
  states : Nat → Option State
  clock : Nat → Nat

/-- What an update says of some clients. -/
def Awareness.entries {State : Type} (awareness : Awareness State) (clients : List Nat) :
    List (Entry State) :=
  clients.map (fun client => ⟨client, awareness.clock client, awareness.states client⟩)

/-- `MessageDataType`. -/
inductive MessageDataType where
  | init
  | sync
  | awareness
deriving DecidableEq

def MessageDataType.text : MessageDataType → Text
  | .init => "init".toList
  | .sync => "sync".toList
  | .awareness => "awareness".toList

/-- `MessageData`. -/
structure MessageData where
  t : Text
  f : Text
  c : Text
deriving DecidableEq

/-- What a client sends on its socket. -/
inductive ClientMessage where
  | joinGroup (group : Text)
  | sendToGroup (group : Text) (data : MessageData)
deriving DecidableEq

def messageSyncStep1 : Nat := 0

def messageAwareness : Nat := 1

def messageQueryAwareness : Nat := 3

/-- `messageYjsSyncStep1` of `y-protocols`. -/
def messageYjsSyncStep1 : Nat := 0

/-- A client, with the number of its document; `ws` says whether it has a socket. -/
structure SyncClient (Doc State : Type) where
  uuid : Text
  topic : Text
  clientID : Nat
  doc : Doc
  awareness : Awareness State
  ws : Bool

section Messages

variable {Doc State : Type} (libraries : Libraries Doc State)

/-- `writeVarUint8Array`. -/
def writeVarUint8Array (array : Bytes) : Bytes := libraries.writeVarUint array.length ++ array

/-- `writeSyncStep1`. -/
def writeSyncStep1 (doc : Doc) : Bytes :=
  libraries.writeVarUint messageYjsSyncStep1 ++
    writeVarUint8Array libraries (libraries.encodeStateVector doc)

/-- `encodeAwarenessUpdate`. -/
def encodeAwarenessUpdate (awareness : Awareness State) (clients : List Nat) : Bytes :=
  libraries.encodeEntries (awareness.entries clients)

/-! ## Sending -/

/-- `sendToControlGroup`. -/
def sendToControlGroup (client : SyncClient Doc State) (type : MessageDataType) (u8 : Bytes) :
    List ClientMessage :=
  if client.ws then
    [.sendToGroup (client.topic ++ ".host".toList) ⟨type.text, client.uuid, base64 u8⟩]
  else []

/-- The awareness update handler of a client. -/
def awarenessUpdateHandler (client : SyncClient Doc State) (added updated removed : List Nat) :
    List ClientMessage :=
  let changedClients := added ++ updated ++ removed
  let encoder := libraries.writeVarUint messageAwareness ++
    writeVarUint8Array libraries
      (encodeAwarenessUpdate libraries client.awareness changedClients)
  sendToControlGroup client .awareness encoder

/-- `onopen` of the socket of a client. -/
def onopen (client : SyncClient Doc State) : List ClientMessage :=
  let encoder := libraries.writeVarUint messageSyncStep1 ++ writeSyncStep1 libraries client.doc
  let greeting := .joinGroup client.topic :: sendToControlGroup client .init encoder
  match client.awareness.states client.clientID with
  | none => greeting
  | some _ =>
    let _encoderAwarenessState := libraries.writeVarUint messageAwareness ++
      writeVarUint8Array libraries
        (encodeAwarenessUpdate libraries client.awareness [client.clientID])
    -- the bytes that are sent are those of the encoder of the sync message
    greeting ++ sendToControlGroup client .awareness encoder

/-! ## Receiving -/

/-- `onAwareness` of the host: the update that it applies; none if it throws, which the host
catches. The number before the update is skipped. -/
def onAwareness (data : MessageData) : Option (List (Entry State)) := do
  let (_, rest) ← libraries.readVarUint (Base64.decode data.c)
  let (update, _) ← libraries.readVarUint8Array rest
  libraries.decodeEntries update

/-- What the handler of a message does. -/
inductive Handled (State : Type) where
  | sync
  | queryAwareness
  | awareness (update : List (Entry State))

/-- `readMessage` of a client; it throws by giving none. -/
def readMessage (buf : Bytes) : Option (Handled State) := do
  let (messageType, rest) ← libraries.readVarUint buf
  if messageType = messageSyncStep1 then some .sync
  else if messageType = messageQueryAwareness then some .queryAwareness
  else if messageType = messageAwareness then
    let (update, _) ← libraries.readVarUint8Array rest
    (libraries.decodeEntries update).map .awareness
  else none

end Messages

/-! ## What is read -/

/-- Where a client sends a message of awareness. -/
inductive SendPoint where
  | onopen
  | awarenessUpdate (added updated removed : List Nat)
deriving DecidableEq

section Reading

variable {Doc State : Type} (libraries : Libraries Doc State)

/-- The messages of a send point. -/
def SendPoint.messages (client : SyncClient Doc State) : SendPoint → List ClientMessage
  | .onopen => Wire.onopen libraries client
  | .awarenessUpdate added updated removed =>
    awarenessUpdateHandler libraries client added updated removed

/-- The clients whose states a send point encodes. -/
def SendPoint.clients (client : SyncClient Doc State) : SendPoint → List Nat
  | .onopen => [client.clientID]
  | .awarenessUpdate added updated removed => added ++ updated ++ removed

/-- The host and the other clients read just these entries from a message. -/
def Decodes (data : MessageData) (entries : List (Entry State)) : Prop :=
  onAwareness libraries data = some entries ∧
    readMessage libraries (Base64.decode data.c) = some (.awareness entries)

variable {libraries}

theorem decode_base64 (bytes : Bytes) : Base64.decode (base64 bytes) = bytes := by
  have standard : base64 bytes = (Base64Url.encodeBytes bytes).map Base64.standard ++
      List.replicate
        ((4 - ((Base64Url.encodeBytes bytes).map Base64.standard).length % 4) % 4) '=' := rfl
  rw [standard, Base64.decode_encode]

/-- The bytes of an awareness message are read as the update that they were written for. -/
theorem decodes_update (type sender : Text) (entries : List (Entry State)) :
    Decodes libraries ⟨type, sender, base64 (libraries.writeVarUint messageAwareness ++
      writeVarUint8Array libraries (libraries.encodeEntries entries))⟩ entries := by
  have update : libraries.readVarUint8Array
      (writeVarUint8Array libraries (libraries.encodeEntries entries)) =
        some (libraries.encodeEntries entries, []) := by
    have read := libraries.readVarUint8Array_write (libraries.encodeEntries entries) []
    rwa [List.append_nil] at read
  constructor
  · simp [onAwareness, decode_base64, libraries.readVarUint_write, update,
      libraries.decodeEntries_encode]
  · simp [readMessage, decode_base64, libraries.readVarUint_write, update,
      libraries.decodeEntries_encode, messageAwareness, messageSyncStep1, messageQueryAwareness]

/-- The bytes of a sync message under the name of awareness: the host finds an empty update in
them and throws, and a client takes them for a sync message. -/
theorem sync_read (type sender : Text) (doc : Doc) :
    onAwareness libraries ⟨type, sender, base64 (libraries.writeVarUint messageSyncStep1 ++
        writeSyncStep1 libraries doc)⟩ = none ∧
      readMessage libraries (Base64.decode (base64 (libraries.writeVarUint messageSyncStep1 ++
        writeSyncStep1 libraries doc))) = some .sync := by
  have empty : libraries.readVarUint8Array (writeSyncStep1 libraries doc) =
      some ([], writeVarUint8Array libraries (libraries.encodeStateVector doc)) :=
    libraries.readVarUint8Array_write [] _
  constructor
  · simp [onAwareness, decode_base64, libraries.readVarUint_write, empty,
      libraries.decodeEntries_nil]
  · simp [readMessage, decode_base64, libraries.readVarUint_write, messageSyncStep1]

theorem mem_sendToControlGroup {client : SyncClient Doc State} {type : MessageDataType}
    {u8 : Bytes} {group : Text} {data : MessageData}
    (sent : .sendToGroup group data ∈ sendToControlGroup client type u8) :
    data = ⟨type.text, client.uuid, base64 u8⟩ := by
  unfold sendToControlGroup at sent
  split at sent
  · obtain ⟨-, rfl⟩ := ClientMessage.sendToGroup.inj (List.mem_singleton.mp sent)
    rfl
  · cases sent

/-- The awareness message of an opened socket has the bytes of the sync message. -/
theorem onopen_sends {client : SyncClient Doc State} {group : Text} {data : MessageData}
    (sent : .sendToGroup group data ∈ onopen libraries client)
    (kind : data.t = MessageDataType.awareness.text) :
    data = ⟨MessageDataType.awareness.text, client.uuid, base64
      (libraries.writeVarUint messageSyncStep1 ++ writeSyncStep1 libraries client.doc)⟩ := by
  have init {bytes : Bytes} (sent : .sendToGroup group data ∈
      ClientMessage.joinGroup client.topic :: sendToControlGroup client .init bytes) : False := by
    obtain joined | said := List.mem_cons.mp sent
    · cases joined
    · have other : MessageDataType.init.text ≠ MessageDataType.awareness.text := by decide
      rw [mem_sendToControlGroup said] at kind
      exact other kind
  unfold onopen at sent
  split at sent
  · exact (init sent).elim
  · obtain greeting | said := List.mem_append.mp sent
    · exact (init greeting).elim
    · exact mem_sendToControlGroup said

end Reading

/-! ## Libraries for states that are true or false -/

/-- The JSON text of a state, as bytes. -/
def stateBytes : Option Bool → Bytes
  | none => Utf8.encode "null".toList
  | some true => Utf8.encode "true".toList
  | some false => Utf8.encode "false".toList

/-- A text behind its length. -/
def readState : Reader (Option Bool) :=
  Protobuf.readVarint.bind (fun length => (Reader.take length).bind (fun bytes =>
    if bytes = stateBytes none then Reader.pure none
    else if bytes = stateBytes (some true) then Reader.pure (some true)
    else if bytes = stateBytes (some false) then Reader.pure (some false)
    else fun _ => none))

def writeEntry (entry : Entry Bool) : Bytes :=
  Protobuf.varint entry.clientID ++ (Protobuf.varint entry.clock ++
    (Protobuf.varint (stateBytes entry.state).length ++ stateBytes entry.state))

def readEntry : Reader (Entry Bool) :=
  Protobuf.readVarint.bind (fun clientID => Protobuf.readVarint.bind (fun clock =>
    readState.map (fun state => ⟨clientID, clock, state⟩)))

def readEntries : Nat → Reader (List (Entry Bool))
  | 0 => Reader.pure []
  | count + 1 => readEntry.bind (fun entry => (readEntries count).map (fun entries => entry :: entries))

theorem reads_state (state : Option Bool) :
    Reads readState (Protobuf.varint (stateBytes state).length ++ stateBytes state) state := by
  apply (Protobuf.reads_varint _).bind
  have written : stateBytes state = stateBytes state ++ [] := (List.append_nil _).symm
  rw [written]
  apply (MsgPack.reads_take (by rw [List.append_nil])).bind
  match state with
  | none => exact MsgPack.reads_pure none
  | some true => exact MsgPack.reads_pure (some true)
  | some false => exact MsgPack.reads_pure (some false)

theorem reads_entry (entry : Entry Bool) : Reads readEntry (writeEntry entry) entry :=
  (Protobuf.reads_varint entry.clientID).bind ((Protobuf.reads_varint entry.clock).bind
    ((reads_state entry.state).map _))

theorem reads_entries (entries : List (Entry Bool)) :
    Reads (readEntries entries.length) (entries.flatMap writeEntry) entries := by
  induction entries with
  | nil => exact MsgPack.reads_pure []
  | cons entry entries inductionHypothesis =>
    exact (reads_entry entry).bind (inductionHypothesis.map _)

/-- The number of the entries and the entries. -/
def encodeBools (entries : List (Entry Bool)) : Bytes :=
  Protobuf.varint entries.length ++ entries.flatMap writeEntry

def decodeBools (bytes : Bytes) : Option (List (Entry Bool)) :=
  ((Protobuf.readVarint.bind readEntries) bytes).map Prod.fst

theorem decodeBools_encode (entries : List (Entry Bool)) :
    decodeBools (encodeBools entries) = some entries := by
  have read := ((Protobuf.reads_varint entries.length).bind (reads_entries entries)).front []
  rw [List.append_nil] at read
  rw [decodeBools, encodeBools, read]
  rfl

/-- An array behind its length. -/
def readArray : Reader Bytes := Protobuf.readVarint.bind Reader.take

theorem readArray_write (array rest : Bytes) :
    readArray (Protobuf.varint array.length ++ (array ++ rest)) = some (array, rest) := by
  have read := ((Protobuf.reads_varint array.length).bind (MsgPack.reads_take rfl)).front rest
  rw [List.append_assoc] at read
  exact read

/-- The libraries for documents without content, whose state vector has no entry. -/
def boolLibraries : Libraries Unit Bool where
  writeVarUint := Protobuf.varint
  readVarUint := Protobuf.readVarint
  readVarUint8Array := readArray
  encodeStateVector _ := Protobuf.varint 0
  encodeEntries := encodeBools
  decodeEntries := decodeBools
  readVarUint_write value := (Protobuf.reads_varint value).front
  readVarUint8Array_write := readArray_write
  decodeEntries_encode := decodeBools_encode
  decodeEntries_nil := rfl

/-- A client whose own state is set. -/
def presentClient : SyncClient Unit Bool where
  uuid := ['u']
  topic := ['t']
  clientID := 7
  doc := ()
  awareness := ⟨fun client => if client = 7 then some true else none, fun _ => 1⟩
  ws := true

/-- A message of awareness is read as the states that were encoded for it if and only if the
awareness update handler sends it. -/
theorem decodes_iff {Doc State : Type} (libraries : Libraries Doc State)
    (client : SyncClient Doc State) (point : SendPoint) {group : Text} {data : MessageData}
    (sent : .sendToGroup group data ∈ point.messages libraries client)
    (kind : data.t = MessageDataType.awareness.text) :
    Decodes libraries data (client.awareness.entries (point.clients client)) ↔
      point ≠ .onopen := by
  cases point with
  | onopen =>
    apply iff_of_false
    · rintro ⟨read, -⟩
      rw [onopen_sends sent kind, (sync_read _ _ _).1] at read
      cases read
    · intro other
      exact other rfl
  | awarenessUpdate added updated removed =>
    apply iff_of_true
    · rw [mem_sendToControlGroup sent]
      exact decodes_update _ _ _
    · intro other
      cases other

/-- What the update handler sends of the own state. -/
def ownUpdate : MessageData := ⟨"awareness".toList, ['u'], "AQgBBwEEdHJ1ZQ==".toList⟩

theorem ownUpdate_sent : .sendToGroup "t.host".toList ownUpdate ∈
    (SendPoint.awarenessUpdate [] [7] []).messages boolLibraries presentClient := by decide

/-- A client that sends its own state, which every peer reads. -/
theorem decodes_iff_own :
    Decodes boolLibraries ownUpdate (presentClient.awareness.entries [7]) ↔
      SendPoint.awarenessUpdate [] [7] [] ≠ .onopen :=
  decodes_iff boolLibraries presentClient (.awarenessUpdate [] [7] []) ownUpdate_sent (by decide)

/-- What an opened socket sends of the own state: the sync message once more. -/
def openedSocket : MessageData := ⟨"awareness".toList, ['u'], "AAABAA==".toList⟩

/-- Neither the host nor a client finds the own state in it. -/
theorem opened_unread :
    onopen boolLibraries presentClient =
        [.joinGroup ['t'],
          .sendToGroup "t.host".toList ⟨"init".toList, ['u'], "AAABAA==".toList⟩,
          .sendToGroup "t.host".toList openedSocket] ∧
      onAwareness boolLibraries openedSocket = none ∧
      ¬Decodes boolLibraries openedSocket (presentClient.awareness.entries [7]) := by
  have unread : onAwareness boolLibraries openedSocket = none := by decide
  refine ⟨by decide, unread, ?_⟩
  rintro ⟨read, -⟩
  rw [unread] at read
  cases read

end WebPubSub.Sync.Wire
