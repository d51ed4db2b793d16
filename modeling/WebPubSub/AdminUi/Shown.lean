import WebPubSub.AdminUi.Agreement

/-!
# What the admin view shows

Every message that a server sends keeps the agreement of the view with the record, so that the
getters of the store return after any run what the record has.
-/

namespace WebPubSub.AdminUi

/-! ## Updates and snapshots -/

/-- A change that changes nothing of the object it is for. -/
theorem changeSocket_of_same {objects : List Socket} {id : Text} {sockets : List Ref}
    {change : Socket → Socket} (same : ∀ ref ∈ sockets, ∀ socket, objects[ref]? = some socket →
      socket.id = id → change socket = socket) :
    changeSocket change id sockets objects = objects := by
  cases found : findSocket objects id sockets with
  | none => exact changeSocket_of_absent found change
  | some ref =>
    obtain ⟨listed, own⟩ := findSocket_some found
    rw [changeSocket_of_found found]
    apply List.ext_getElem?
    intro other
    rw [List.getElem?_modify]
    cases known : objects[other]? with
    | none => rfl
    | some socket =>
      refine congrArg some ?_
      dsimp only
      split
      · rename_i equal
        subst equal
        rw [idOf_of_getElem known] at own
        exact same ref listed socket known (Option.some.inj own)
      · rfl

/-- An update that names none of the lists leaves the view. -/
theorem view_onSocketUpdated {state : State} {server : Server} (agrees : state.view.Agrees server)
    {update : SocketUpdate} (neutral : server.Allows (.onSocketUpdated update)) :
    (onSocketUpdated state update).view = state.view := by
  obtain ⟨noClient, noRooms, noConnected⟩ := neutral
  have objects : changeSocket (Socket.merge · update) update.id
      (state.namespaceOf update.nsp).sockets state.objects = state.objects := by
    apply changeSocket_of_same
    intro ref listed socket found own
    have placed : socket.nsp = update.nsp := (agrees.present_of_getElem listed found).1
    simp only [Socket.merge, noClient, noRooms, noConnected, ← own, ← placed, Option.map_none,
      Option.getD_none]
  rw [onSocketUpdated, objects]
  refine (view_updateNamespace state (fun _ => rfl) update.nsp _ _).trans ?_
  ext1
  · rfl
  · exact funext (ite_apply_self state.view.sockets update.nsp)
  · funext other name
    exact ite_apply_self (fun nsp => state.view.room nsp name) update.nsp other
  · rfl

/-- A store without sockets, rooms and clients. -/
theorem view_clear (state : State) :
    { state with namespaces := state.namespaces.map Namespace.clear, clients := [] }.view =
      ⟨state.objects, fun _ => [], fun _ _ => [], fun _ => []⟩ := by
  have looked (name : Text) : State.namespaceOf { state with
      namespaces := state.namespaces.map Namespace.clear, clients := [] } name =
        (state.namespaceOf name).clear := by
    rw [State.namespaceOf, State.namespaceOf, find_clear]
    cases Keyed.find Namespace.name name state.namespaces <;> rfl
  ext1
  · rfl
  · funext nsp
    exact congrArg Namespace.sockets (looked nsp)
  · funext nsp room
    exact congrArg (fun entry => roomSockets entry.rooms room) (looked nsp)
  · rfl

/-- Sockets that are announced one after the other. -/
theorem agrees_foldl {sockets : List Socket} (ids : (sockets.map Socket.id).Nodup)
    (distinct : ∀ socket ∈ sockets, socket.rooms.Nodup) {state : State} {server : Server}
    (agrees : state.view.Agrees server)
    (fresh : ∀ socket ∈ sockets, server.Announces socket) :
    (sockets.foldl addSocket state).view.Agrees (sockets.foldl Server.connect server) := by
  induction sockets generalizing state server with
  | nil => exact agrees
  | cons socket sockets inductionHypothesis =>
    obtain ⟨apart, others⟩ := List.nodup_cons.mp ids
    have announced := fresh socket List.mem_cons_self
    apply inductionHypothesis others
      (fun other listed => distinct other (List.mem_cons_of_mem _ listed))
    · rw [view_addSocket agrees announced]
      exact agrees.add announced
    · intro other listed
      have different : socket.id ≠ other.id := by
        intro same
        exact apart (List.mem_map.mpr ⟨other, listed, same.symm⟩)
      obtain ⟨unlisted, outside, rooms⟩ := fresh other (List.mem_cons_of_mem _ listed)
      refine ⟨?_, ?_, rooms⟩
      · intro presence told
        rcases List.mem_append.mp told with before | last
        · exact unlisted presence before
        · rw [List.mem_singleton.mp last]
          exact different
      · intro member told
        rcases List.mem_append.mp told with before | last
        · exact outside member before
        · rintro ⟨-, same⟩
          exact different (((mem_memberships socket _ _ _).mp last).2.2.symm.trans same)

/-- A snapshot of all sockets shows exactly these. -/
theorem agrees_onAllSockets {state : State} {sockets : List Socket}
    (ids : (sockets.map Socket.id).Nodup) (distinct : ∀ socket ∈ sockets, socket.rooms.Nodup) :
    (onAllSockets state sockets).view.Agrees (sockets.foldl Server.connect Server.empty) := by
  have cleared : State.view { state with
      namespaces := state.namespaces.map Namespace.clear, clients := [] } |>.Agrees
        Server.empty := by
    rw [view_clear]
    exact agrees_empty state.objects
  have fresh : ∀ socket ∈ sockets, Server.empty.Announces socket := by
    intro socket listed
    exact ⟨by simp [Server.empty], by simp [Server.empty], distinct socket listed⟩
  exact agrees_foldl ids distinct cleared fresh

/-! ## Runs -/

/-- The record is silent about a socket that it does not list. -/
theorem Server.tell_absent {server : Server} (timestamp : Int) {nsp id : Text} (reason : Text)
    (absent : ¬server.Lists nsp id) :
    server.tell (.onSocketDisconnected timestamp nsp id reason) = server := by
  have kept : server.sockets.filter
      (fun presence => ¬(presence.nsp = nsp ∧ presence.id = id)) = server.sockets := by
    rw [List.filter_eq_self]
    intro presence listed
    refine decide_eq_true ?_
    rintro ⟨placed, same⟩
    exact absent ⟨presence, listed, placed, same⟩
  rw [Server.tell, kept]

/-- One message keeps the agreement. -/
theorem agrees_commit {state : State} {server : Server} (sound : Sound state)
    (agrees : state.view.Agrees server) {mutation : Mutation} (allowed : server.Allows mutation) :
    (commit state mutation).view.Agrees (server.tell mutation) := by
  cases mutation with
  | selectNamespace selected => exact agrees
  | onAllSockets sockets => exact agrees_onAllSockets allowed.1 allowed.2
  | onSocketConnected timestamp socket =>
    rw [commit, onSocketConnected, view_pushEvents, view_addSocket agrees allowed]
    exact agrees.add allowed
  | onSocketUpdated update =>
    rw [commit, view_onSocketUpdated agrees allowed]
    exact agrees
  | onSocketDisconnected timestamp nsp id reason =>
    cases search : findSocket state.objects id (state.view.sockets nsp) with
    | none =>
      rw [commit, view_onSocketDisconnected_absent timestamp nsp id reason search,
        Server.tell_absent timestamp reason (agrees.unlisted_of_findSocket search)]
      exact agrees
    | some ref =>
      obtain ⟨listed, socket, found, rfl⟩ := agrees.found_of_findSocket search
      rw [commit, view_onSocketDisconnected sound timestamp nsp _ reason search found]
      exact agrees.disconnect listed found timestamp reason
  | onRoomJoined timestamp nsp room id =>
    cases search : findSocket state.objects id (state.view.sockets nsp) with
    | none =>
      rw [commit, view_onRoomJoined_absent timestamp nsp room id search, Server.tell,
        if_neg (agrees.unlisted_of_findSocket search)]
      exact agrees
    | some ref =>
      obtain ⟨listed, socket, found, rfl⟩ := agrees.found_of_findSocket search
      have shown : server.Lists nsp socket.id :=
        (agrees.lists_iff nsp socket.id).mpr ⟨ref, listed, idOf_of_getElem found⟩
      rw [commit, view_onRoomJoined timestamp nsp room _ search, Server.tell, if_pos shown]
      exact agrees.join listed found (allowed shown)
  | onRoomLeft timestamp nsp room id =>
    rw [commit, view_onRoomLeft sound]
    exact agrees.leave timestamp nsp room id
  | onServerStats aggregatedEvents now =>
    cases aggregatedEvents with
    | none => exact agrees
    | some aggregated => exact agrees
  | onEventReceived timestamp nsp id args =>
    rw [commit, view_pushEvents]
    exact agrees
  | onEventSent timestamp nsp id args =>
    rw [commit, view_pushEvents]
    exact agrees

/-- The view follows the server over any messages that are allowed. -/
theorem agrees_run (mutations : List Mutation) {state : State} {server : Server}
    (sound : Sound state) (agrees : state.view.Agrees server)
    (allowed : server.AllowsAll mutations) :
    (mutations.foldl commit state).view.Agrees (mutations.foldl Server.tell server) := by
  induction mutations generalizing state server with
  | nil => exact agrees
  | cons mutation mutations inductionHypothesis =>
    obtain ⟨here, later⟩ := allowed
    exact inductionHypothesis (sound.commit mutation) (agrees_commit sound agrees here) later

/-! ## What is shown -/

/-- What the getters return, by the record. -/
structure Shows (state : State) (server : Server) : Prop where
  socket : ∀ nsp id clientId, (⟨nsp, id, clientId⟩ : Presence) ∈ server.sockets ↔
    ∃ socket, findSocketById state nsp id = some socket ∧ socket.clientId = clientId
  details : ∀ nsp id socket, findSocketById state nsp id = some socket →
    socket.connected = true ∧ socket.rooms.Nodup ∧
    ∀ room, room ∈ socket.rooms ↔ (⟨nsp, room, id⟩ : Membership) ∈ server.members
  room : ∀ nsp name, (∃ id, (⟨nsp, name, id⟩ : Membership) ∈ server.members) ↔
    findRoomByName state nsp name ≠ none
  members : ∀ nsp name room, findRoomByName state nsp name = some room →
    (room.sockets.map (idOf state.objects)).Nodup ∧
    ∀ id, some id ∈ room.sockets.map (idOf state.objects) ↔
      (⟨nsp, name, id⟩ : Membership) ∈ server.members
  shared : ∀ nsp name room id, findRoomByName state nsp name = some room → server.Lists nsp id →
    ∀ ref ∈ room.sockets, idOf state.objects ref = some id →
      findSocket state.objects id (state.namespaceOf nsp).sockets = some ref
  client : ∀ id, (∃ presence ∈ server.sockets, presence.clientId = id) ↔
    findClientById state id ≠ none
  clientSockets : ∀ clientId client, findClientById state clientId = some client →
    (client.sockets.map (idOf state.objects)).Nodup ∧
    ∀ id, some id ∈ client.sockets.map (idOf state.objects) ↔
      ∃ nsp, (⟨nsp, id, clientId⟩ : Presence) ∈ server.sockets

/-- The getter finds the object of the view. -/
theorem findSocketById_eq (state : State) (nsp id : Text) :
    findSocketById state nsp id =
      (findSocket state.objects id (state.view.sockets nsp)).bind (state.objects[·]?) := by
  have entry : state.view.sockets nsp = (state.namespaceOf nsp).sockets := rfl
  rw [findSocketById, entry, State.namespaceOf]
  cases Keyed.find Namespace.name nsp state.namespaces with
  | none => rfl
  | some entry => rfl

theorem room_of_findRoomByName {state : State} {nsp name : Text} {room : Room}
    (found : findRoomByName state nsp name = some room) :
    state.view.room nsp name = room.sockets := by
  have entry : state.view.room nsp name = roomSockets (state.namespaceOf nsp).rooms name := rfl
  rw [findRoomByName] at found
  rw [entry, State.namespaceOf]
  cases search : Keyed.find Namespace.name nsp state.namespaces with
  | none =>
    rw [search] at found
    cases found
  | some known =>
    rw [search, Option.bind_some] at found
    rw [Option.getD_some, roomSockets, found]
    rfl

/-- A room that is not found has no member. -/
theorem room_of_absent {state : State} {nsp name : Text}
    (absent : findRoomByName state nsp name = none) : state.view.room nsp name = [] := by
  have entry : state.view.room nsp name = roomSockets (state.namespaceOf nsp).rooms name := rfl
  rw [findRoomByName] at absent
  rw [entry, State.namespaceOf]
  cases search : Keyed.find Namespace.name nsp state.namespaces with
  | none => rfl
  | some known =>
    rw [search, Option.bind_some] at absent
    rw [Option.getD_some, roomSockets, absent]
    rfl

theorem client_of_findClientById {state : State} {id : Text} {client : Client}
    (found : findClientById state id = some client) : state.view.client id = client.sockets := by
  have entry : state.view.client id = AdminUi.clientSockets state.clients id := rfl
  rw [findClientById] at found
  rw [entry, AdminUi.clientSockets, found]
  rfl

/-- A client that is not found has no socket. -/
theorem client_of_absent {state : State} {id : Text} (absent : findClientById state id = none) :
    state.view.client id = [] := by
  have entry : state.view.client id = AdminUi.clientSockets state.clients id := rfl
  rw [findClientById] at absent
  rw [entry, AdminUi.clientSockets, absent]
  rfl

theorem occupied_room {state : State} (sound : Sound state) {nsp name : Text} {room : Room}
    (found : findRoomByName state nsp name = some room) :
    SoundRoom (idOf state.objects) room := by
  rw [findRoomByName] at found
  obtain ⟨entry, search, inside⟩ := Option.bind_eq_some_iff.mp found
  exact (sound.namespaces entry (Keyed.find_some search).1).rooms room (Keyed.find_some inside).1

theorem findSocketById_some {state : State} {nsp id : Text} {socket : Socket}
    (found : findSocketById state nsp id = some socket) :
    ∃ ref ∈ state.view.sockets nsp, state.objects[ref]? = some socket ∧ socket.id = id := by
  rw [findSocketById_eq] at found
  obtain ⟨ref, listed, known⟩ := Option.bind_eq_some_iff.mp found
  obtain ⟨inside, own⟩ := findSocket_some listed
  exact ⟨ref, inside, known, Option.some.inj ((idOf_of_getElem known).symm.trans own)⟩

section Getters

variable {state : State} {server : Server} (agrees : state.view.Agrees server)

include agrees

/-- The reference that the namespace has is the one that is found. -/
theorem findSocket_of_listed {nsp id : Text} {ref : Ref} (listed : ref ∈ state.view.sockets nsp)
    (own : idOf state.objects ref = some id) :
    findSocket state.objects id (state.view.sockets nsp) = some ref := by
  have found := Keyed.find_of_mem (agrees.sockets nsp).distinct listed
  have same : idOf state.view.objects ref = some id := own
  rw [same] at found
  exact found

/-- A socket is found exactly if it is connected. -/
theorem shown_socket (nsp id clientId : Text) :
    (⟨nsp, id, clientId⟩ : Presence) ∈ server.sockets ↔
      ∃ socket, findSocketById state nsp id = some socket ∧ socket.clientId = clientId := by
  constructor
  · intro told
    obtain ⟨ref, listed, socket, found, same⟩ := agrees.shown _ told
    have own : idOf state.objects ref = some id :=
      (idOf_of_getElem found).trans (congrArg (fun presence => some presence.id) same)
    refine ⟨socket, ?_, congrArg Presence.clientId same⟩
    rw [findSocketById_eq, findSocket_of_listed agrees listed own, Option.bind_some]
    exact found
  · rintro ⟨socket, found, rfl⟩
    obtain ⟨ref, listed, known, rfl⟩ := findSocketById_some found
    obtain ⟨rfl, told, -⟩ := agrees.present_of_getElem listed known
    exact told

/-- A socket that is found has the rooms that the server has of it. -/
theorem shown_details {nsp id : Text} {socket : Socket}
    (found : findSocketById state nsp id = some socket) :
    socket.connected = true ∧ socket.rooms.Nodup ∧
      ∀ room, room ∈ socket.rooms ↔ (⟨nsp, room, id⟩ : Membership) ∈ server.members := by
  obtain ⟨ref, listed, known, rfl⟩ := findSocketById_some found
  exact (agrees.present_of_getElem listed known).2.2

/-- A room is found exactly if it has a member. -/
theorem shown_room (sound : Sound state) (nsp name : Text) :
    (∃ id, (⟨nsp, name, id⟩ : Membership) ∈ server.members) ↔
      findRoomByName state nsp name ≠ none := by
  constructor
  · rintro ⟨id, told⟩ absent
    have listed := (agrees.members nsp name id).mpr told
    rw [room_of_absent absent] at listed
    cases listed
  · intro shown
    obtain ⟨room, found⟩ := Option.ne_none_iff_exists'.mp shown
    have occupied := occupied_room sound found
    obtain ⟨ref, others, sockets⟩ := List.exists_cons_of_ne_nil occupied.occupied
    have listed : ref ∈ room.sockets := sockets ▸ List.mem_cons_self
    obtain ⟨id, own⟩ := Option.ne_none_iff_exists'.mp (occupied.known ref listed)
    refine ⟨id, (agrees.members nsp name id).mp ?_⟩
    rw [room_of_findRoomByName found]
    exact List.mem_map.mpr ⟨ref, listed, own⟩

/-- The references of a client are those of its connected sockets. -/
theorem client_of_presence {presence : Presence} (told : presence ∈ server.sockets) :
    ∃ ref ∈ state.view.client presence.clientId, idOf state.objects ref = some presence.id := by
  obtain ⟨ref, listed, socket, found, rfl⟩ := agrees.shown presence told
  exact ⟨ref, (agrees.clients socket.clientId ref).mpr ⟨socket.nsp, socket, listed, found, rfl⟩,
    idOf_of_getElem found⟩

theorem presence_of_client {clientId : Text} {ref : Ref}
    (listed : ref ∈ state.view.client clientId) :
    ∃ presence ∈ server.sockets, presence.clientId = clientId ∧
      idOf state.objects ref = some presence.id := by
  obtain ⟨nsp, socket, inside, found, rfl⟩ := (agrees.clients clientId ref).mp listed
  exact ⟨socket.presence, (agrees.present_of_getElem inside found).2.1, rfl, idOf_of_getElem found⟩

/-- A client is found exactly if it has a connected socket. -/
theorem shown_client (sound : Sound state) (id : Text) :
    (∃ presence ∈ server.sockets, presence.clientId = id) ↔ findClientById state id ≠ none := by
  constructor
  · rintro ⟨presence, told, rfl⟩ absent
    obtain ⟨ref, listed, -⟩ := client_of_presence agrees told
    rw [client_of_absent absent] at listed
    cases listed
  · intro shown
    obtain ⟨client, found⟩ := Option.ne_none_iff_exists'.mp shown
    have used := (sound.clients client (Keyed.find_some found).1).used
    obtain ⟨ref, others, sockets⟩ := List.exists_cons_of_ne_nil used
    have listed : ref ∈ state.view.client id := by
      rw [client_of_findClientById found, sockets]
      exact List.mem_cons_self
    obtain ⟨presence, told, same, -⟩ := presence_of_client agrees listed
    exact ⟨presence, told, same⟩

/-- A client lists exactly its sockets. -/
theorem shown_clientSockets (clientId id : Text) :
    some id ∈ (state.view.client clientId).map (idOf state.objects) ↔
      ∃ nsp, (⟨nsp, id, clientId⟩ : Presence) ∈ server.sockets := by
  rw [List.mem_map]
  constructor
  · rintro ⟨ref, listed, own⟩
    obtain ⟨presence, told, rfl, known⟩ := presence_of_client agrees listed
    obtain rfl : presence.id = id := Option.some.inj (known.symm.trans own)
    exact ⟨presence.nsp, told⟩
  · rintro ⟨nsp, told⟩
    exact client_of_presence agrees told

/-- A view that agrees shows through the getters what the server has. -/
theorem shows_of_agrees (sound : Sound state) : Shows state server where
  socket := shown_socket agrees
  details _ _ _ found := shown_details agrees found
  room := shown_room agrees sound
  members nsp name room found := by
    rw [← room_of_findRoomByName found]
    exact ⟨(agrees.rooms nsp name).distinct, agrees.members nsp name⟩
  shared nsp name room id found told ref listed own := by
    rw [← room_of_findRoomByName found] at listed
    exact findSocket_of_listed agrees (agrees.same nsp name ref listed id own told) own
  client := shown_client agrees sound
  clientSockets clientId client found := by
    rw [← client_of_findClientById found]
    exact ⟨(agrees.clientRefs clientId).distinct, shown_clientSockets agrees clientId⟩

end Getters

/-- After any messages that a server sends, the view shows the connected sockets with their
rooms, the rooms with their members and the clients with their sockets as the messages told,
and each socket as one object. -/
theorem view_shows (mutations : List Mutation) (allowed : Server.empty.AllowsAll mutations) :
    Shows (mutations.foldl commit initial) (mutations.foldl Server.tell Server.empty) :=
  shows_of_agrees (agrees_run mutations sound_initial (agrees_empty []) allowed)
    (sound_foldl mutations sound_initial)

/-- A socket of a snapshot, a second one of the same client that joins before it is announced, and
the first one leaving a room after its disconnection. -/
def sampleMutations : List Mutation :=
  [.onAllSockets [⟨['a'], ['/'], ['x'], [['a'], ['r']], false⟩],
    .onRoomJoined 0 ['/'] ['b'] ['b'],
    .onSocketConnected 1 ⟨['b'], ['/'], ['x'], [['b']], false⟩,
    .onRoomJoined 2 ['/'] ['r'] ['b'],
    .onSocketDisconnected 3 ['/'] ['a'] [],
    .onRoomLeft 4 ['/'] ['r'] ['a']]

theorem view_shows_sample :
    Shows (sampleMutations.foldl commit initial)
        (sampleMutations.foldl Server.tell Server.empty) ∧
      findRoomByName (sampleMutations.foldl commit initial) ['/'] ['r'] =
        some ⟨['r'], true, some false, [1]⟩ ∧
      findRoomByName (sampleMutations.foldl commit initial) ['/'] ['a'] =
        some ⟨['a'], true, some true, [0]⟩ :=
  ⟨view_shows sampleMutations (by decide), rfl, rfl⟩

end WebPubSub.AdminUi
