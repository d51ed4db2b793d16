import Mathlib.Logic.Function.Basic
import WebPubSub.Library.Machine
import WebPubSub.Library.Replica

/-!
# The sync clients and their host

`WebPubSubSyncClient` and `WebPubSubSyncHost` keep copies of one document. A client sends to
the group of the host, the host to the group of the clients, and the service relays the
messages of each sender in order. The document is the library's: the protocol asks it for
what a known document lacks and hears of every real change.

The url fetch of a start and the opening of its socket are two steps; a client has one
socket at a time, and its host stays connected. What the two parties say about awareness is
left out: it carries no update of the document.
-/

namespace WebPubSub.Sync

open UpdateDoc

/-- The messages of the sync protocol. -/
inductive SyncMessage (Doc : Type) where
  /-- `writeSyncStep1`: what the sender has. -/
  | step1 (known : Doc)
  /-- `writeSyncStep2`: what the receiver lacked. -/
  | step2 (update : Doc)
  /-- `writeUpdate`. -/
  | update (update : Doc)

/-- `MessageDataType`, without awareness. -/
inductive MessageDataType where
  | init
  | sync

/-- What a client sends on its socket. -/
inductive ClientMessage (Doc : Type) where
  | joinGroup
  | sendToGroup (type : MessageDataType) (message : SyncMessage Doc)

/-- What the host finds in its group. -/
structure ControlMessage (Doc : Type) where
  /-- `f`, the uuid of the client. -/
  sender : Nat
  type : MessageDataType
  message : SyncMessage Doc

/-- What the host sends to the group of the clients. -/
structure HostMessage (Doc : Type) where
  /-- `t`, the uuid of a client; none in a broadcast. -/
  target : Option Nat
  message : SyncMessage Doc

/-- `t` is undefined or the uuid of the client. -/
def HostMessage.addresses {Doc : Type} (message : HostMessage Doc) (index : Nat) : Bool :=
  message.target.all (· == index)

/-- `_ws` and `_wsConnected`. -/
inductive Socket where
  | absent
  | connecting
  | connected
  | closing
  deriving DecidableEq

/-- A client, with what is in flight on its socket. -/
structure Client (Doc : Type) where
  doc : Doc
  socket : Socket
  outbox : List (ClientMessage Doc)
  inbox : List (HostMessage Doc)
  /-- The service has the socket in the group of the clients. -/
  joined : Bool

/-- The clients by their uuids, and the host with what is in flight on its socket. -/
structure State (Doc : Type) where
  clients : Nat → Client Doc
  host : Doc
  hostInbox : List (ControlMessage Doc)
  hostOutbox : List (HostMessage Doc)

/-- No client is connected; each party has a document of its own. -/
def State.initial {Doc : Type} (documents : Nat → Doc) (host : Doc) : State Doc where
  clients index := ⟨documents index, .absent, [], [], false⟩
  host := host
  hostInbox := []
  hostOutbox := []

/-- Who changed a document. -/
inductive Origin where
  | client
  | other
  deriving DecidableEq

/-- What happens around the clients and their host. -/
inductive Event (Doc : Type) where
  | edit (index : Nat) (change : Doc)
  | hostEdit (change : Doc)
  | start (index : Nat)
  | onopen (index : Nat)
  | stop (index : Nat)
  | onclose (index : Nat)
  /-- The timer of `resyncInterval`. -/
  | resync (index : Nat)
  /-- The service takes the next message of a client. -/
  | relay (index : Nat)
  /-- The service takes the next message of the host. -/
  | relayHost
  | hostReceives
  | clientReceives (index : Nat)

/-- What the clients send, and what they take. -/
inductive Output (Doc : Type) where
  | sent (index : Nat) (message : ClientMessage Doc)
  | received (index : Nat) (message : SyncMessage Doc)

section Documents

variable {Doc : Type} [UpdateDoc Doc]

/-- `readSyncMessage`: the document after the message, and the answer. -/
def readSyncMessage (doc : Doc) : SyncMessage Doc → Doc × Option (SyncMessage Doc)
  | .step1 known => (doc, some (.step2 (missing doc known)))
  | .step2 update => (doc ⊔ update, none)
  | .update update => (doc ⊔ update, none)

/-- The event `update` of a document, which a change without effect does not fire. -/
def updateEvent [DecidableLE Doc] (before after : Doc) : Option Doc :=
  if after ≤ before then none else some (missing after before)

/-- `_updateHandler` of the client. -/
def updateHandler (origin : Origin) (update : Doc) : List (ClientMessage Doc) :=
  if origin = .client then [] else [.sendToGroup .sync (.update update)]

variable [DecidableLE Doc]

/-- The document of a client changes; `_updateHandler` hears of it. -/
def Client.change (client : Client Doc) (doc : Doc) (origin : Origin) :
    Client Doc × List (ClientMessage Doc) :=
  ({ client with doc := doc }, (updateEvent client.doc doc).toList.flatMap (updateHandler origin))

/-- `onmessage` and `readMessage` of the client: a message for another client is ignored. -/
def Client.onmessage (index : Nat) (client : Client Doc) (message : HostMessage Doc) :
    Client Doc × List (ClientMessage Doc) :=
  if message.addresses index then
    let (doc, answer) := readSyncMessage client.doc message.message
    let (changed, told) := client.change doc .client
    (changed, told ++ answer.toList.map (.sendToGroup .sync))
  else
    (client, [])

/-- `broadcast` of the host. -/
def broadcast (update : Doc) : HostMessage Doc := ⟨none, .update update⟩

/-- The document of the host changes; its update handler broadcasts. -/
def State.hostChange (state : State Doc) (doc : Doc) : State Doc :=
  { state with
    host := doc
    hostOutbox := state.hostOutbox ++ (updateEvent state.host doc).toList.map broadcast }

/-- `send` of the host. -/
def State.send (state : State Doc) (target : Nat) (message : SyncMessage Doc) : State Doc :=
  { state with hostOutbox := state.hostOutbox ++ [⟨some target, message⟩] }

/-- `onClientInit`. -/
def State.onClientInit (state : State Doc) (sender : Nat) : State Doc :=
  state.send sender (.step1 state.host)

/-- `onClientSync`. -/
def State.onClientSync (state : State Doc) (sender : Nat) (message : SyncMessage Doc) :
    State Doc :=
  let (doc, answer) := readSyncMessage state.host message
  let changed := state.hostChange doc
  match answer with
  | some answer => changed.send sender answer
  | none => changed

/-- `onmessage` of the host. -/
def State.hostOnmessage (state : State Doc) (control : ControlMessage Doc) : State Doc :=
  match control.type with
  | .init => (state.onClientInit control.sender).onClientSync control.sender control.message
  | .sync => state.onClientSync control.sender control.message

def State.put (state : State Doc) (index : Nat) (client : Client Doc) : State Doc :=
  { state with clients := Function.update state.clients index client }

/-- `client.ws?.send` for each message: nothing leaves a socket that is not open. -/
def State.post (state : State Doc) (index : Nat) (client : Client Doc)
    (messages : List (ClientMessage Doc)) : State Doc × List (Output Doc) :=
  if client.socket = .connected then
    (state.put index { client with outbox := client.outbox ++ messages },
      messages.map (.sent index))
  else
    (state.put index client, [])

/-- The service takes a message of a client: the client joins, or the host gets it. -/
def State.relay (state : State Doc) (index : Nat) : Option (State Doc) :=
  let client := state.clients index
  match client.outbox with
  | [] => none
  | .joinGroup :: rest => some (state.put index { client with outbox := rest, joined := true })
  | .sendToGroup type message :: rest => some
      { state.put index { client with outbox := rest } with
        hostInbox := state.hostInbox ++ [⟨index, type, message⟩] }

/-- The service takes a message of the host to every member of the group. -/
def State.relayHost (state : State Doc) : Option (State Doc) :=
  match state.hostOutbox with
  | [] => none
  | message :: rest => some { state with
      hostOutbox := rest
      clients := fun index =>
        let client := state.clients index
        if client.joined then { client with inbox := client.inbox ++ [message] } else client }

/-- The host takes the next message of its group. -/
def State.hostReceives (state : State Doc) : Option (State Doc) :=
  match state.hostInbox with
  | [] => none
  | control :: rest => some ({ state with hostInbox := rest }.hostOnmessage control)

/-- A client takes the next message on its socket. -/
def State.clientReceives (state : State Doc) (index : Nat) :
    Option (State Doc × List (Output Doc)) :=
  let client := state.clients index
  match client.inbox with
  | [] => none
  | message :: rest =>
    let (changed, messages) := { client with inbox := rest }.onmessage index message
    let (next, sent) := state.post index changed messages
    if message.addresses index then
      some (next, .received index message.message :: sent)
    else
      some (next, sent)

/-- `stop`: the socket starts to close. -/
def Client.stop (client : Client Doc) : Client Doc :=
  match client.socket with
  | .absent => client
  | _ => { client with socket := .closing }

/-- What is in flight on a closed socket is lost. -/
def Client.onclose (client : Client Doc) : Client Doc :=
  ⟨client.doc, .absent, [], [], false⟩

/-- The messages of `onopen`. -/
def Client.greeting (client : Client Doc) : List (ClientMessage Doc) :=
  [.joinGroup, .sendToGroup .init (.step1 client.doc)]

/-- The clients, their host and the service. -/
def protocol : Machine (State Doc) (Event Doc) (Output Doc) where
  step state
    | .edit index change =>
      let client := state.clients index
      let (changed, messages) := client.change (client.doc ⊔ change) .other
      some (state.post index changed messages)
    | .hostEdit change => some (state.hostChange (state.host ⊔ change), [])
    | .start index =>
      let client := state.clients index
      match client.socket with
      | .absent => some (state.put index { client with socket := .connecting }, [])
      | _ => some (state, [])
    | .onopen index =>
      let client := state.clients index
      match client.socket with
      | .connecting => some (state.post index { client with socket := .connected } client.greeting)
      | _ => none
    | .stop index => some (state.put index (state.clients index).stop, [])
    | .onclose index =>
      match (state.clients index).socket with
      | .absent => none
      | _ => some (state.put index (state.clients index).onclose, [])
    | .resync index =>
      let client := state.clients index
      some (state.post index client [.sendToGroup .sync (.step1 client.doc)])
    | .relay index => (state.relay index).map (fun next => (next, []))
    | .relayHost => state.relayHost.map (fun next => (next, []))
    | .hostReceives => state.hostReceives.map (fun next => (next, []))
    | .clientReceives index => state.clientReceives index

end Documents

end WebPubSub.Sync
