import Mathlib.Algebra.Order.Group.Int
import WebPubSub.Library.Json
import WebPubSub.Library.Keyed
import WebPubSub.Library.Machine
import WebPubSub.Packets

/-!
# The store of the admin view

The view of namespaces, rooms, clients and events is rebuilt in the browser from the messages
of the admin namespace. A socket is one object that the lists of its namespace, of its rooms and
of its client share, so that the lists hold references and a change of the object shows in all
of them. Each message is one mutation.

What a socket carries beyond its ids and rooms is displayed but never read here and left out.
The clock does not move within a mutation.
-/

namespace WebPubSub.AdminUi

/-- A reference to the object of a socket. -/
abbrev Ref := Nat

/-- A socket as it is announced, with the flag that the store adds. -/
structure Socket where
  id : Text
  nsp : Text
  clientId : Text
  rooms : List Text
  connected : Bool
deriving DecidableEq

/-- The argument of `socket_updated`: ids and the fields that it has. -/
structure SocketUpdate where
  id : Text
  nsp : Text
  clientId : Option Text
  rooms : Option (List Text)
  connected : Option Bool

/-- `merge(existingSocket, socket)`. The elements of an array replace those at their indices. -/
def Socket.merge (socket : Socket) (update : SocketUpdate) : Socket where
  id := update.id
  nsp := update.nsp
  clientId := update.clientId.getD socket.clientId
  rooms := (update.rooms.map (fun rooms => rooms ++ socket.rooms.drop rooms.length)).getD
    socket.rooms
  connected := update.connected.getD socket.connected

/-- A room; it is private when its name is the id of the socket that entered it. -/
structure Room where
  name : Text
  active : Bool
  isPrivate : Option Bool
  sockets : List Ref
deriving DecidableEq

/-- What an event is about. -/
inductive EventDetail where
  | connection
  | disconnection (reason : Text)
  | roomJoined (room : Text)
  | roomLeft (room : Text)
  | eventReceived (eventName : Option Json) (args : List Json)
  | eventSent (eventName : Option Json) (args : List Json)

/-- An entry of the log of a namespace. -/
structure Event where
  eventId : Nat
  timestamp : Int
  id : Text
  detail : EventDetail

/-- A namespace; its sockets are references. -/
structure Namespace where
  name : Text
  sockets : List Ref
  rooms : List Room
  events : List Event

/-- A client with the references of its sockets. -/
structure Client where
  id : Text
  connected : Bool
  sockets : List Ref
deriving DecidableEq

/-- A count of a kind of event in a slot of time. -/
structure AggregatedEvent where
  timestamp : Int
  type : Text
  subType : Option Text
  count : Int
deriving DecidableEq

/-- The fields by which an aggregated event is found. -/
def AggregatedEvent.bucket (event : AggregatedEvent) : Int × Text × Option Text :=
  (event.timestamp, event.type, event.subType)

/-- The state of the module `main`, with `EVENT_COUNTER`. The objects of all sockets that were
ever added are kept by their references; the selected namespace is an index. -/
structure State where
  objects : List Socket
  namespaces : List Namespace
  clients : List Client
  selectedNamespace : Option Nat
  aggregatedEvents : List AggregatedEvent
  eventCounter : Nat

/-- The store before any message. -/
def initial : State := ⟨[], [], [], none, [], 0⟩

/-! ## Entries and their creation -/

def Namespace.create (name : Text) : Namespace := ⟨name, [], [], []⟩

def Room.create (name : Text) : Room := ⟨name, true, none, []⟩

def Client.create (id : Text) : Client := ⟨id, true, []⟩

/-- `getOrCreateNamespace`, and an update of what it returns. -/
def updateNamespace (update : Namespace → Namespace) (name : Text) :
    List Namespace → List Namespace :=
  Keyed.alter Namespace.name Namespace.create update name

/-- `getOrCreateRoom`, and an update of what it returns. -/
def updateRoom (update : Room → Room) (name : Text) : List Room → List Room :=
  Keyed.alter Room.name Room.create update name

/-- `getOrCreateClient`, and an update of what it returns. -/
def updateClient (update : Client → Client) (id : Text) : List Client → List Client :=
  Keyed.alter Client.id Client.create update id

/-- The id of the socket behind a reference. -/
def idOf (objects : List Socket) (ref : Ref) : Option Text := objects[ref]?.map Socket.id

/-- `find(sockets, { id })`. -/
def findSocket (objects : List Socket) (id : Text) (sockets : List Ref) : Option Ref :=
  Keyed.find (idOf objects) (some id) sockets

/-- `remove(sockets, { id })`. -/
def removeSocket (objects : List Socket) (id : Text) (sockets : List Ref) : List Ref :=
  Keyed.remove (idOf objects) (some id) sockets

/-- Push a socket onto a list that holds none with its id. -/
def pushSocket (objects : List Socket) (id : Text) (ref : Ref) (sockets : List Ref) : List Ref :=
  if (findSocket objects id sockets).isNone then sockets ++ [ref] else sockets

/-- A change of the object that `find(sockets, { id })` returns, if there is one. -/
def changeSocket (change : Socket → Socket) (id : Text) (sockets : List Ref)
    (objects : List Socket) : List Socket :=
  match findSocket objects id sockets with
  | none => objects
  | some ref => objects.modify ref change

/-- The namespace with a name as `getOrCreateNamespace` returns it. -/
def State.namespaceOf (state : State) (name : Text) : Namespace :=
  (Keyed.find Namespace.name name state.namespaces).getD (Namespace.create name)

/-! ## Updates of entries -/

/-- A socket is listed in a room that it has. -/
def Room.enter (objects : List Socket) (id : Text) (ref : Ref) (room : Room) : Room :=
  { room with
    isPrivate := some (room.name = id)
    sockets := pushSocket objects id ref room.sockets }

/-- A socket that joins is listed without a search. -/
def Room.join (ref : Ref) (room : Room) : Room := { room with sockets := room.sockets ++ [ref] }

/-- A room loses the socket with an id, and is inactive when it was the last. -/
def Room.dismiss (objects : List Socket) (id : Text) (room : Room) : Room :=
  let sockets := removeSocket objects id room.sockets
  { room with
    sockets := sockets
    active := if sockets = [] then false else room.active }

/-- A client gets a socket. -/
def Client.enter (objects : List Socket) (id : Text) (ref : Ref) (client : Client) : Client :=
  { client with sockets := pushSocket objects id ref client.sockets }

/-- A client loses the socket with an id. -/
def Client.dismiss (objects : List Socket) (id : Text) (client : Client) : Client :=
  let sockets := removeSocket objects id client.sockets
  { client with
    sockets := sockets
    connected := if sockets = [] then false else client.connected }

/-- What `addSocket` does to the rooms of the socket's namespace. -/
def addToRooms (objects : List Socket) (id : Text) (ref : Ref) (names : List Text)
    (rooms : List Room) : List Room :=
  names.foldl (fun rooms name => updateRoom (Room.enter objects id ref) name rooms) rooms

/-- A socket enters its namespace and its rooms. -/
def Namespace.enter (objects : List Socket) (socket : Socket) (ref : Ref) (nsp : Namespace) :
    Namespace :=
  { nsp with
    sockets := pushSocket objects socket.id ref nsp.sockets
    rooms := addToRooms objects socket.id ref socket.rooms nsp.rooms }

/-- A socket is removed from the sockets of a namespace; its rooms keep it. -/
def Namespace.dismiss (objects : List Socket) (id : Text) (nsp : Namespace) : Namespace :=
  { nsp with sockets := removeSocket objects id nsp.sockets }

/-- The room that a listed socket joins. -/
def Namespace.join (objects : List Socket) (id room : Text) (nsp : Namespace) : Namespace :=
  match findSocket objects id nsp.sockets with
  | none => nsp
  | some ref => { nsp with rooms := updateRoom (Room.join ref) room nsp.rooms }

/-- A room that is left empty is removed. -/
def Namespace.leave (objects : List Socket) (id room : Text) (nsp : Namespace) : Namespace :=
  { nsp with
    rooms := Keyed.alterRemoving Room.name Room.create (Room.dismiss objects id)
      (fun room => room.sockets = []) room nsp.rooms }

/-- A client that is left without sockets is removed. -/
def removeFromClient (objects : List Socket) (id clientId : Text) : List Client → List Client :=
  Keyed.alterRemoving Client.id Client.create (Client.dismiss objects id)
    (fun client => client.sockets = []) clientId

/-- `pushUniq(socket.rooms, room)`. -/
def Socket.pushRoom (room : Text) (socket : Socket) : Socket :=
  if room ∈ socket.rooms then socket else { socket with rooms := socket.rooms ++ [room] }

/-- `remove(socket.rooms, room)`. -/
def Socket.removeRoom (room : Text) (socket : Socket) : Socket :=
  { socket with rooms := socket.rooms.erase room }

def Socket.disconnect (socket : Socket) : Socket := { socket with connected := false }

/-! Each update keeps the key by which its entry is found. -/

@[simp]
theorem Namespace.name_create (name : Text) : (Namespace.create name).name = name := rfl

@[simp]
theorem Room.name_create (name : Text) : (Room.create name).name = name := rfl

@[simp]
theorem Client.id_create (id : Text) : (Client.create id).id = id := rfl

@[simp]
theorem Room.name_enter (objects : List Socket) (id : Text) (ref : Ref) (room : Room) :
    (room.enter objects id ref).name = room.name := rfl

@[simp]
theorem Room.name_join (ref : Ref) (room : Room) : (room.join ref).name = room.name := rfl

@[simp]
theorem Room.name_dismiss (objects : List Socket) (id : Text) (room : Room) :
    (room.dismiss objects id).name = room.name := rfl

@[simp]
theorem Client.id_enter (objects : List Socket) (id : Text) (ref : Ref) (client : Client) :
    (client.enter objects id ref).id = client.id := rfl

@[simp]
theorem Client.id_dismiss (objects : List Socket) (id : Text) (client : Client) :
    (client.dismiss objects id).id = client.id := rfl

@[simp]
theorem Namespace.name_enter (objects : List Socket) (socket : Socket) (ref : Ref)
    (nsp : Namespace) : (nsp.enter objects socket ref).name = nsp.name := rfl

@[simp]
theorem Namespace.name_dismiss (objects : List Socket) (id : Text) (nsp : Namespace) :
    (nsp.dismiss objects id).name = nsp.name := rfl

@[simp]
theorem Namespace.name_join (objects : List Socket) (id room : Text) (nsp : Namespace) :
    (nsp.join objects id room).name = nsp.name := by
  rw [Namespace.join]
  split <;> rfl

@[simp]
theorem Namespace.name_leave (objects : List Socket) (id room : Text) (nsp : Namespace) :
    (nsp.leave objects id room).name = nsp.name := rfl

/-! ## Mutations -/

/-- The object is stored and listed in its namespace, its rooms and its client. -/
def addSocket (state : State) (socket : Socket) : State :=
  let ref := state.objects.length
  let objects := state.objects ++ [{ socket with connected := true }]
  { state with
    objects := objects
    namespaces := updateNamespace (Namespace.enter objects socket ref) socket.nsp state.namespaces
    clients := updateClient (Client.enter objects socket.id ref) socket.clientId state.clients }

/-- How many events a namespace keeps. -/
def MAX_ARRAY_LENGTH : Nat := 1000

/-- `array.push(event)`, and `array.shift()` of an array that is too long. -/
def pushBounded (events : List Event) (event : Event) : List Event :=
  let events := events ++ [event]
  if events.length > MAX_ARRAY_LENGTH then events.tail else events

/-- An event is added to the log. -/
def Namespace.log (event : Event) (nsp : Namespace) : Namespace :=
  { nsp with events := pushBounded nsp.events event }

@[simp]
theorem Namespace.name_log (event : Event) (nsp : Namespace) :
    (nsp.log event).name = nsp.name := rfl

/-- `pushEvents` on the events of a namespace. -/
def pushEvents (state : State) (name : Text) (timestamp : Int) (id : Text)
    (detail : EventDetail) : State :=
  { state with
    eventCounter := state.eventCounter + 1
    namespaces := updateNamespace
      (Namespace.log ⟨state.eventCounter + 1, timestamp, id, detail⟩) name state.namespaces }

/-- `splice(0)` on the sockets and rooms of a namespace. -/
def Namespace.clear (nsp : Namespace) : Namespace := { nsp with sockets := [], rooms := [] }

/-- A snapshot replaces the sockets, the rooms and the clients, and selects a namespace if none
is. -/
def onAllSockets (state : State) (sockets : List Socket) : State :=
  let cleared := { state with
    namespaces := state.namespaces.map Namespace.clear
    clients := [] }
  let state := sockets.foldl addSocket cleared
  { state with
    selectedNamespace := state.selectedNamespace.or
      ((state.namespaces.findIdx? (fun nsp => nsp.name = ['/'])).or
        (if state.namespaces = [] then none else some 0)) }

/-- A socket is announced and logged. -/
def onSocketConnected (state : State) (timestamp : Int) (socket : Socket) : State :=
  pushEvents (addSocket state socket) socket.nsp timestamp socket.id .connection

/-- The fields that are given are merged into the object. -/
def onSocketUpdated (state : State) (update : SocketUpdate) : State :=
  { state with
    objects := changeSocket (Socket.merge · update) update.id
      (state.namespaceOf update.nsp).sockets state.objects
    namespaces := updateNamespace (fun nsp => nsp) update.nsp state.namespaces }

/-- The object is marked, removed from its namespace and its client, and logged. -/
def onSocketDisconnected (state : State) (timestamp : Int) (name id reason : Text) : State :=
  let found := (findSocket state.objects id (state.namespaceOf name).sockets).bind
    (fun ref => state.objects[ref]?)
  let state := { state with
    objects := changeSocket Socket.disconnect id (state.namespaceOf name).sockets state.objects
    namespaces := updateNamespace (Namespace.dismiss state.objects id) name state.namespaces
    clients :=
      match found with
      | none => state.clients
      | some socket => removeFromClient state.objects id socket.clientId state.clients }
  pushEvents state name timestamp id (.disconnection reason)

/-- A socket joins a room and the event is logged. -/
def onRoomJoined (state : State) (timestamp : Int) (name room id : Text) : State :=
  let state := { state with
    objects := changeSocket (Socket.pushRoom room) id (state.namespaceOf name).sockets
      state.objects
    namespaces := updateNamespace (Namespace.join state.objects id room) name state.namespaces }
  pushEvents state name timestamp id (.roomJoined room)

/-- A socket leaves a room and the event is logged. -/
def onRoomLeft (state : State) (timestamp : Int) (name room id : Text) : State :=
  let state := { state with
    objects := changeSocket (Socket.removeRoom room) id (state.namespaceOf name).sockets
      state.objects
    namespaces := updateNamespace (Namespace.leave state.objects id room) name state.namespaces }
  pushEvents state name timestamp id (.roomLeft room)

/-- How long counts are shown, in milliseconds. -/
def TEN_MINUTES : Int := 10 * 60 * 1000

/-- The slot of ten seconds. -/
def roundedTimestamp (timestamp : Int) : Int := timestamp - timestamp.tmod 10000

/-- The aggregated event that is found or pushed, with the count still to be added. -/
def AggregatedEvent.create (bucket : Int × Text × Option Text) : AggregatedEvent :=
  ⟨bucket.1, bucket.2.1, bucket.2.2, 0⟩

def AggregatedEvent.add (count : Int) (elem : AggregatedEvent) : AggregatedEvent :=
  { elem with count := elem.count + count }

@[simp]
theorem AggregatedEvent.bucket_create (bucket : Int × Text × Option Text) :
    (AggregatedEvent.create bucket).bucket = bucket := rfl

@[simp]
theorem AggregatedEvent.bucket_add (count : Int) (elem : AggregatedEvent) :
    (elem.add count).bucket = elem.bucket := rfl

/-- One turn of the loop over the aggregated events of a message. -/
def addAggregated (events : List AggregatedEvent) (event : AggregatedEvent) :
    List AggregatedEvent :=
  Keyed.alter AggregatedEvent.bucket AggregatedEvent.create (AggregatedEvent.add event.count)
    (roundedTimestamp event.timestamp, event.type, event.subType) events

/-- The counts that a server reports are added up, and old ones dropped. -/
def onServerStats (state : State) (aggregatedEvents : Option (List AggregatedEvent))
    (now : Int) : State :=
  match aggregatedEvents with
  | none => state
  | some aggregated =>
    { state with
      aggregatedEvents := (aggregated.foldl addAggregated state.aggregatedEvents).filter
        (fun elem => ¬ elem.timestamp < now - TEN_MINUTES) }

/-- `args.shift()` and the event it belongs to. -/
def shift (detail : Option Json → List Json → EventDetail) (args : List Json) : EventDetail :=
  detail args.head? args.tail

/-- The messages that the store takes, and the choice of a namespace. -/
inductive Mutation where
  | selectNamespace (selected : Option Nat)
  | onAllSockets (sockets : List Socket)
  | onSocketConnected (timestamp : Int) (socket : Socket)
  | onSocketUpdated (update : SocketUpdate)
  | onSocketDisconnected (timestamp : Int) (nsp id reason : Text)
  | onRoomJoined (timestamp : Int) (nsp room id : Text)
  | onRoomLeft (timestamp : Int) (nsp room id : Text)
  | onServerStats (aggregatedEvents : Option (List AggregatedEvent)) (now : Int)
  | onEventReceived (timestamp : Int) (nsp id : Text) (args : List Json)
  | onEventSent (timestamp : Int) (nsp id : Text) (args : List Json)

/-- The mutation of each message. -/
def commit (state : State) : Mutation → State
  | .selectNamespace selected => { state with selectedNamespace := selected }
  | .onAllSockets sockets => onAllSockets state sockets
  | .onSocketConnected timestamp socket => onSocketConnected state timestamp socket
  | .onSocketUpdated update => onSocketUpdated state update
  | .onSocketDisconnected timestamp nsp id reason =>
    onSocketDisconnected state timestamp nsp id reason
  | .onRoomJoined timestamp nsp room id => onRoomJoined state timestamp nsp room id
  | .onRoomLeft timestamp nsp room id => onRoomLeft state timestamp nsp room id
  | .onServerStats aggregatedEvents now => onServerStats state aggregatedEvents now
  | .onEventReceived timestamp nsp id args =>
    pushEvents state nsp timestamp id (shift .eventReceived args)
  | .onEventSent timestamp nsp id args =>
    pushEvents state nsp timestamp id (shift .eventSent args)

/-! ## Getters -/

/-- The getter for a socket of a namespace. -/
def findSocketById (state : State) (nsp id : Text) : Option Socket :=
  (Keyed.find Namespace.name nsp state.namespaces).bind (fun entry =>
    (findSocket state.objects id entry.sockets).bind (fun ref => state.objects[ref]?))

/-- The getter for a client. -/
def findClientById (state : State) (id : Text) : Option Client :=
  Keyed.find Client.id id state.clients

/-- The getter for a room of a namespace. -/
def findRoomByName (state : State) (nsp name : Text) : Option Room :=
  (Keyed.find Namespace.name nsp state.namespaces).bind (fun entry =>
    Keyed.find Room.name name entry.rooms)

end WebPubSub.AdminUi
