import WebPubSub.AdminUi.Invariants

/-!
# The record of the admin messages and the lists of the view

The messages of the admin namespace tell of sockets that connect and disconnect and of rooms that
they join and leave. The view is compared with a plain record of what the messages told: which
sockets are connected, with their clients, and who is a member of which room. Room messages may
come after the disconnection they belong to, and joins of a socket that was not announced are
not shown.

The comparison needs what a server observes: a socket is announced with an id that no connected
socket has and that is in no room of its namespace, and it joins a room that it is not in.
-/

namespace WebPubSub.AdminUi

/-- A connected socket and its client. -/
structure Presence where
  nsp : Text
  id : Text
  clientId : Text
deriving DecidableEq

/-- A socket in a room of a namespace. -/
structure Membership where
  nsp : Text
  room : Text
  id : Text
deriving DecidableEq

/-- What the messages told so far. -/
structure Server where
  sockets : List Presence
  members : List Membership

/-- A server without sockets. -/
def Server.empty : Server := ⟨[], []⟩

/-- How the server knows a socket. -/
def Socket.presence (socket : Socket) : Presence := ⟨socket.nsp, socket.id, socket.clientId⟩

/-- The rooms that a socket is announced with. -/
def Socket.memberships (socket : Socket) : List Membership :=
  socket.rooms.map (fun room => ⟨socket.nsp, room, socket.id⟩)

/-- A socket with an id is connected to a namespace. -/
def Server.Lists (server : Server) (nsp id : Text) : Prop :=
  ∃ presence ∈ server.sockets, presence.nsp = nsp ∧ presence.id = id

instance (server : Server) (nsp id : Text) : Decidable (server.Lists nsp id) :=
  inferInstanceAs (Decidable (∃ presence ∈ server.sockets, presence.nsp = nsp ∧ presence.id = id))

/-- A socket connects with its rooms. -/
def Server.connect (server : Server) (socket : Socket) : Server :=
  ⟨server.sockets ++ [socket.presence], server.members ++ socket.memberships⟩

/-- The record after a message. -/
def Server.tell (server : Server) : Mutation → Server
  | .onAllSockets sockets => sockets.foldl Server.connect Server.empty
  | .onSocketConnected _ socket => server.connect socket
  | .onSocketDisconnected _ nsp id _ =>
    { server with
      sockets := server.sockets.filter (fun presence => ¬(presence.nsp = nsp ∧ presence.id = id)) }
  | .onRoomJoined _ nsp room id =>
    if server.Lists nsp id then { server with members := server.members ++ [⟨nsp, room, id⟩] }
    else server
  | .onRoomLeft _ nsp room id =>
    { server with members := server.members.filter (fun member => member ≠ ⟨nsp, room, id⟩) }
  | _ => server

/-- A socket with a new id, which is in no room, and a list of distinct rooms. -/
def Server.Announces (server : Server) (socket : Socket) : Prop :=
  (∀ presence ∈ server.sockets, presence.id ≠ socket.id) ∧
    (∀ member ∈ server.members, ¬(member.nsp = socket.nsp ∧ member.id = socket.id)) ∧
    socket.rooms.Nodup

/-- A message that a server sends in the state of the record. -/
def Server.Allows (server : Server) : Mutation → Prop
  | .onAllSockets sockets =>
    (sockets.map Socket.id).Nodup ∧ ∀ socket ∈ sockets, socket.rooms.Nodup
  | .onSocketConnected _ socket => server.Announces socket
  | .onSocketUpdated update =>
    update.clientId = none ∧ update.rooms = none ∧ update.connected = none
  | .onRoomJoined _ nsp room id => server.Lists nsp id → ⟨nsp, room, id⟩ ∉ server.members
  | _ => True

/-- Every message of a sequence is one that a server sends. -/
def Server.AllowsAll : Server → List Mutation → Prop
  | _, [] => True
  | server, mutation :: mutations =>
    server.Allows mutation ∧ (server.tell mutation).AllowsAll mutations

instance (server : Server) (socket : Socket) : Decidable (server.Announces socket) :=
  inferInstanceAs (Decidable (_ ∧ _))

instance (server : Server) : (mutation : Mutation) → Decidable (server.Allows mutation)
  | .onAllSockets sockets => inferInstanceAs (Decidable ((sockets.map Socket.id).Nodup ∧
      ∀ socket ∈ sockets, socket.rooms.Nodup))
  | .onSocketConnected _ socket => inferInstanceAs (Decidable (server.Announces socket))
  | .onSocketUpdated update => inferInstanceAs (Decidable (update.clientId = none ∧
      update.rooms = none ∧ update.connected = none))
  | .onRoomJoined _ nsp room id => inferInstanceAs (Decidable (server.Lists nsp id →
      (⟨nsp, room, id⟩ : Membership) ∉ server.members))
  | .selectNamespace _ | .onSocketDisconnected _ _ _ _ | .onRoomLeft _ _ _ _
  | .onServerStats _ _ | .onEventReceived _ _ _ _ | .onEventSent _ _ _ _ => isTrue trivial

instance decidableAllowsAll (server : Server) :
    (mutations : List Mutation) → Decidable (server.AllowsAll mutations)
  | [] => isTrue trivial
  | mutation :: mutations =>
    have : Decidable ((server.tell mutation).AllowsAll mutations) := decidableAllowsAll _ mutations
    inferInstanceAs (Decidable (server.Allows mutation ∧ _))

/-! ## The lists that the view shows -/

/-- The sockets of a namespace, of a room and of a client; none where there is no entry. -/
@[ext]
structure View where
  objects : List Socket
  sockets : Text → List Ref
  room : Text → Text → List Ref
  client : Text → List Ref

def roomSockets (rooms : List Room) (name : Text) : List Ref :=
  ((Keyed.find Room.name name rooms).map Room.sockets).getD []

def clientSockets (clients : List Client) (id : Text) : List Ref :=
  ((Keyed.find Client.id id clients).map Client.sockets).getD []

/-- The lists of the store. -/
def State.view (state : State) : View where
  objects := state.objects
  sockets nsp := (state.namespaceOf nsp).sockets
  room nsp name := roomSockets (state.namespaceOf nsp).rooms name
  client id := clientSockets state.clients id

/-! ## The view after an update -/

section Lookups

variable {objects : List Socket} {rooms : List Room} {clients : List Client}

/-- An update concerns the namespace of its name only. -/
theorem namespaceOf_update (state : State) {update : Namespace → Namespace}
    (kept : ∀ nsp, (update nsp).name = nsp.name) (name other : Text) :
    { state with namespaces := updateNamespace update name state.namespaces }.namespaceOf other =
      if other = name then update (state.namespaceOf name) else state.namespaceOf other := by
  rw [State.namespaceOf, State.namespaceOf, State.namespaceOf]
  by_cases same : other = name
  · subst same
    rw [if_pos rfl, updateNamespace, Keyed.find_alter Namespace.name_create kept, Option.getD_some]
  · rw [if_neg same, updateNamespace, Keyed.find_alter_of_ne (fun _ => rfl) kept same]

theorem find_clear (name : Text) (namespaces : List Namespace) :
    Keyed.find Namespace.name name (namespaces.map Namespace.clear) =
      (Keyed.find Namespace.name name namespaces).map Namespace.clear := by
  rw [Keyed.find, Keyed.find, List.find?_map]
  rfl

/-- A room that is not listed is shown like a new one. -/
theorem roomSockets_eq (rooms : List Room) (name : Text) :
    roomSockets rooms name =
      ((Keyed.find Room.name name rooms).getD (Room.create name)).sockets := by
  rw [roomSockets]
  cases Keyed.find Room.name name rooms <;> rfl

/-- A client that is not listed is shown like a new one. -/
theorem clientSockets_eq (clients : List Client) (id : Text) :
    clientSockets clients id =
      ((Keyed.find Client.id id clients).getD (Client.create id)).sockets := by
  rw [clientSockets]
  cases Keyed.find Client.id id clients <;> rfl

/-- An update concerns the room of its name only. -/
theorem roomSockets_update {update : Room → Room} {change : List Ref → List Ref}
    (kept : ∀ room, (update room).name = room.name)
    (changed : ∀ room, (update room).sockets = change room.sockets) (name other : Text) :
    roomSockets (updateRoom update name rooms) other =
      if other = name then change (roomSockets rooms name) else roomSockets rooms other := by
  by_cases same : other = name
  · subst same
    rw [if_pos rfl, roomSockets, updateRoom, Keyed.find_alter (fun _ => rfl) kept, Option.map_some,
      Option.getD_some, changed, roomSockets_eq]
  · rw [if_neg same, roomSockets, updateRoom, Keyed.find_alter_of_ne (fun _ => rfl) kept same,
      roomSockets]

/-- An update concerns the client of its id only. -/
theorem clientSockets_update {update : Client → Client} {change : List Ref → List Ref}
    (kept : ∀ client, (update client).id = client.id)
    (changed : ∀ client, (update client).sockets = change client.sockets) (id other : Text) :
    clientSockets (updateClient update id clients) other =
      if other = id then change (clientSockets clients id) else clientSockets clients other := by
  by_cases same : other = id
  · subst same
    rw [if_pos rfl, clientSockets, updateClient, Keyed.find_alter (fun _ => rfl) kept,
      Option.map_some, Option.getD_some, changed, clientSockets_eq]
  · rw [if_neg same, clientSockets, updateClient, Keyed.find_alter_of_ne (fun _ => rfl) kept same,
      clientSockets]

theorem Room.sockets_enter (objects : List Socket) (id : Text) (ref : Ref) (room : Room) :
    (room.enter objects id ref).sockets = pushSocket objects id ref room.sockets := rfl

theorem Client.sockets_enter (objects : List Socket) (id : Text) (ref : Ref) (client : Client) :
    (client.enter objects id ref).sockets = pushSocket objects id ref client.sockets := rfl

theorem Room.sockets_join (ref : Ref) (room : Room) :
    (room.join ref).sockets = room.sockets ++ [ref] := rfl

/-- A socket is added to the rooms that are named, once to each. -/
theorem roomSockets_addToRooms {id : Text} {ref : Ref} {names : List Text}
    (distinct : names.Nodup) (name : Text) :
    roomSockets (addToRooms objects id ref names rooms) name =
      if name ∈ names then pushSocket objects id ref (roomSockets rooms name)
      else roomSockets rooms name := by
  induction names generalizing rooms with
  | nil => simp [addToRooms]
  | cons first names inductionHypothesis =>
    obtain ⟨fresh, others⟩ := List.nodup_cons.mp distinct
    rw [addToRooms, List.foldl_cons]
    refine (inductionHypothesis others).trans ?_
    rw [roomSockets_update (Room.name_enter objects id ref) (Room.sockets_enter objects id ref)]
    by_cases same : name = first
    · subst same
      rw [if_neg fresh, if_pos rfl, if_pos List.mem_cons_self]
    · simp only [List.mem_cons, same, false_or, if_false]

/-- A room that is left empty is removed, and lists nobody either way. -/
theorem roomSockets_leave {id room : Text} {nsp : Namespace}
    (distinct : (nsp.rooms.map Room.name).Nodup) (other : Text) :
    roomSockets (nsp.leave objects id room).rooms other =
      if other = room then removeSocket objects id (roomSockets nsp.rooms room)
      else roomSockets nsp.rooms other := by
  have kept := Room.name_dismiss objects id
  by_cases same : other = room
  · subst same
    rw [if_pos rfl, roomSockets_eq nsp.rooms, roomSockets, Namespace.leave,
      Keyed.find_alterRemoving Room.name_create kept _ distinct]
    split
    · rename_i vacant
      exact (of_decide_eq_true vacant).symm
    · rfl
  · rw [if_neg same, roomSockets, Namespace.leave,
      Keyed.find_alterRemoving_of_ne Room.name_create kept same, roomSockets]

/-- A socket is removed from its client only. -/
theorem clientSockets_removeFromClient {id clientId : Text}
    (distinct : (clients.map Client.id).Nodup) (other : Text) :
    clientSockets (removeFromClient objects id clientId clients) other =
      if other = clientId then removeSocket objects id (clientSockets clients clientId)
      else clientSockets clients other := by
  have kept := Client.id_dismiss objects id
  by_cases same : other = clientId
  · subst same
    rw [if_pos rfl, clientSockets_eq clients, clientSockets, removeFromClient,
      Keyed.find_alterRemoving Client.id_create kept _ distinct]
    split
    · rename_i vacant
      exact (of_decide_eq_true vacant).symm
    · rfl
  · rw [if_neg same, clientSockets, removeFromClient,
      Keyed.find_alterRemoving_of_ne Client.id_create kept same, clientSockets]

end Lookups

/-- A function that is updated by itself stays. -/
theorem ite_apply_self {Value : Type} (value : Text → Value) (name other : Text) :
    (if other = name then value name else value other) = value other := by
  split
  · rename_i same
    rw [same]
  · rfl

/-- The view after an update of one namespace. -/
theorem view_updateNamespace (state : State) {update : Namespace → Namespace}
    (kept : ∀ nsp, (update nsp).name = nsp.name) (name : Text) (objects : List Socket)
    (clients : List Client) :
    { state with
      objects := objects
      namespaces := updateNamespace update name state.namespaces
      clients := clients }.view =
      { objects := objects
        sockets := fun nsp => if nsp = name then (update (state.namespaceOf name)).sockets
          else state.view.sockets nsp
        room := fun nsp room =>
          if nsp = name then roomSockets (update (state.namespaceOf name)).rooms room
          else state.view.room nsp room
        client := clientSockets clients } := by
  have looked (nsp : Text) : State.namespaceOf { state with
      objects := objects
      namespaces := updateNamespace update name state.namespaces
      clients := clients } nsp =
        if nsp = name then update (state.namespaceOf name) else state.namespaceOf nsp :=
    namespaceOf_update state kept name nsp
  ext1
  · rfl
  · funext nsp
    refine (congrArg Namespace.sockets (looked nsp)).trans ?_
    dsimp only
    split <;> rfl
  · funext nsp room
    refine (congrArg (fun entry => roomSockets entry.rooms room) (looked nsp)).trans ?_
    dsimp only
    split <;> rfl
  · rfl

/-- Events are listed beside the sockets. -/
@[simp]
theorem view_pushEvents (state : State) (name : Text) (timestamp : Int) (id : Text)
    (detail : EventDetail) : (pushEvents state name timestamp id detail).view = state.view := by
  refine (view_updateNamespace state (Namespace.name_log _) name state.objects
    state.clients).trans ?_
  ext1
  · rfl
  · exact funext (ite_apply_self state.view.sockets name)
  · funext nsp room
    exact ite_apply_self (fun nsp => state.view.room nsp room) name nsp
  · rfl

end WebPubSub.AdminUi
