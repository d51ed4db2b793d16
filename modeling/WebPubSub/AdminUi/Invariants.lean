import WebPubSub.AdminUi.Store

/-!
# Invariants of the admin store

The messages of the admin namespace are taken as they come: in any order and with any contents,
also with ids that were not announced or are announced again. What the store keeps by itself
under all of them are the names by which its entries are looked up, the entries that must not be
empty, and the bounded, numbered lists of events.
-/

namespace WebPubSub.AdminUi

/-- Every id that one table of objects knows is the id in another. -/
def Extends (ids wider : Ref → Option Text) : Prop :=
  ∀ ref id, ids ref = some id → wider ref = some id

/-- References to known objects with distinct ids. -/
structure SoundRefs (ids : Ref → Option Text) (sockets : List Ref) : Prop where
  known : ∀ ref ∈ sockets, ids ref ≠ none
  distinct : (sockets.map ids).Nodup

/-- A room that is listed is active and has members, whose objects are known. -/
structure SoundRoom (ids : Ref → Option Text) (room : Room) : Prop where
  known : ∀ ref ∈ room.sockets, ids ref ≠ none
  occupied : room.sockets ≠ []
  active : room.active = true

/-- A client that is listed is connected and has a socket. -/
structure SoundClient (ids : Ref → Option Text) (client : Client) : Prop where
  sockets : SoundRefs ids client.sockets
  used : client.sockets ≠ []
  connected : client.connected = true

/-- The sockets and the rooms of a namespace are listed once each, and its events are bounded and
numbered. -/
structure SoundNamespace (ids : Ref → Option Text) (counter : Nat) (nsp : Namespace) : Prop where
  sockets : SoundRefs ids nsp.sockets
  roomNames : (nsp.rooms.map Room.name).Nodup
  rooms : ∀ room ∈ nsp.rooms, SoundRoom ids room
  bounded : nsp.events.length ≤ MAX_ARRAY_LENGTH
  numbered : nsp.events.Pairwise (fun earlier later => earlier.eventId < later.eventId)
  counted : ∀ event ∈ nsp.events, event.eventId ≤ counter

/-- Entries are found by distinct keys, no room and no client is empty, and the events of each
namespace are bounded and numbered. -/
structure Sound (state : State) : Prop where
  names : (state.namespaces.map Namespace.name).Nodup
  namespaces : ∀ nsp ∈ state.namespaces,
    SoundNamespace (idOf state.objects) state.eventCounter nsp
  clientIds : (state.clients.map Client.id).Nodup
  clients : ∀ client ∈ state.clients, SoundClient (idOf state.objects) client
  buckets : (state.aggregatedEvents.map AggregatedEvent.bucket).Nodup

/-- The empty store is sound. -/
theorem sound_initial : Sound initial where
  names := List.nodup_nil
  namespaces := by simp [initial]
  clientIds := List.nodup_nil
  clients := by simp [initial]
  buckets := List.nodup_nil

/-! ## Objects -/

theorem Extends.refl (ids : Ref → Option Text) : Extends ids ids := fun _ _ known => known

theorem idOf_of_getElem {objects : List Socket} {ref : Ref} {socket : Socket}
    (found : objects[ref]? = some socket) : idOf objects ref = some socket.id := by
  rw [idOf, found, Option.map_some]

/-- A new object leaves the ids of the others. -/
theorem extends_append (objects : List Socket) (socket : Socket) :
    Extends (idOf objects) (idOf (objects ++ [socket])) := by
  intro ref id known
  rw [idOf] at known ⊢
  have inside : ref < objects.length := by
    by_contra outside
    rw [List.getElem?_eq_none (Nat.le_of_not_lt outside)] at known
    cases known
  rwa [List.getElem?_append_left inside]

/-- A new object has the next reference. -/
theorem idOf_append_new (objects : List Socket) (socket : Socket) :
    idOf (objects ++ [socket]) objects.length = some socket.id := by
  simp [idOf]

/-- A change of an object that keeps its id keeps the table of ids. -/
theorem idOf_modify {objects : List Socket} {ref : Ref} {change : Socket → Socket}
    (kept : ∀ socket, objects[ref]? = some socket → (change socket).id = socket.id) :
    idOf (objects.modify ref change) = idOf objects := by
  funext other
  rw [idOf, idOf, List.getElem?_modify]
  by_cases same : ref = other
  · subst same
    cases found : objects[ref]? with
    | none => rfl
    | some socket => simp [kept socket found]
  · simp [same]

/-- A socket that is found is listed and has the id. -/
theorem findSocket_some {objects : List Socket} {id : Text} {sockets : List Ref} {ref : Ref}
    (found : findSocket objects id sockets = some ref) :
    ref ∈ sockets ∧ idOf objects ref = some id := Keyed.find_some found

/-- The change is made to the first object of the list that has the id. -/
theorem changeSocket_of_found {objects : List Socket} {id : Text} {sockets : List Ref} {ref : Ref}
    (found : findSocket objects id sockets = some ref) (change : Socket → Socket) :
    changeSocket change id sockets objects = objects.modify ref change := by
  rw [changeSocket, found]

theorem changeSocket_of_absent {objects : List Socket} {id : Text} {sockets : List Ref}
    (absent : findSocket objects id sockets = none) (change : Socket → Socket) :
    changeSocket change id sockets objects = objects := by
  rw [changeSocket, absent]

/-- A change that keeps the id changes no id of an object. -/
theorem idOf_changeSocket {objects : List Socket} {change : Socket → Socket} {id : Text}
    (kept : ∀ socket : Socket, socket.id = id → (change socket).id = id) (sockets : List Ref) :
    idOf (changeSocket change id sockets objects) = idOf objects := by
  rw [changeSocket]
  split
  · rfl
  · rename_i ref found
    apply idOf_modify
    intro socket same
    have known := (findSocket_some found).2
    rw [idOf_of_getElem same] at known
    have own : socket.id = id := Option.some.inj known
    rw [kept socket own, own]

theorem Socket.pushRoom_id (room : Text) (socket : Socket) :
    (socket.pushRoom room).id = socket.id := by
  rw [Socket.pushRoom]
  split <;> rfl

/-! ## Lists of references -/

section Refs

variable {ids wider : Ref → Option Text} {sockets : List Ref}

/-- What is known stays known. -/
theorem known_mono (extended : Extends ids wider) (known : ∀ ref ∈ sockets, ids ref ≠ none) :
    ∀ ref ∈ sockets, wider ref ≠ none := by
  intro ref listed
  obtain ⟨id, same⟩ := Option.ne_none_iff_exists'.mp (known ref listed)
  rw [extended ref id same]
  exact Option.some_ne_none id

/-- On known references a wider table gives the same ids. -/
theorem map_extends (extended : Extends ids wider) (known : ∀ ref ∈ sockets, ids ref ≠ none) :
    sockets.map wider = sockets.map ids := by
  apply List.map_congr_left
  intro ref listed
  obtain ⟨id, same⟩ := Option.ne_none_iff_exists'.mp (known ref listed)
  rw [extended ref id same, same]

/-- More objects leave a list sound. -/
theorem SoundRefs.mono (sound : SoundRefs ids sockets) (extended : Extends ids wider) :
    SoundRefs wider sockets where
  known := known_mono extended sound.known
  distinct := by
    rw [map_extends extended sound.known]
    exact sound.distinct

theorem SoundRefs.nil : SoundRefs ids [] := ⟨by simp, List.nodup_nil⟩

/-- A reference to an object with a new id. -/
theorem SoundRefs.concat {id : Text} {ref : Ref} (sound : SoundRefs ids sockets)
    (own : ids ref = some id) (fresh : ∀ other ∈ sockets, ids other ≠ some id) :
    SoundRefs ids (sockets ++ [ref]) := by
  constructor
  · intro other listed
    rcases List.mem_append.mp listed with before | last
    · exact sound.known other before
    · rw [List.mem_singleton.mp last, own]
      exact Option.some_ne_none id
  · rw [List.map_append, List.map_singleton, own]
    apply sound.distinct.append (List.nodup_singleton _)
    rw [List.disjoint_singleton]
    intro listed
    obtain ⟨other, member, same⟩ := List.mem_map.mp listed
    exact fresh other member same

/-- A new id goes to the end of the list. -/
theorem pushSocket_of_fresh {objects : List Socket} {id : Text} (ref : Ref)
    (fresh : ∀ other ∈ sockets, idOf objects other ≠ some id) :
    pushSocket objects id ref sockets = sockets ++ [ref] := by
  have absent : findSocket objects id sockets = none := Keyed.find_eq_none_iff.mpr fresh
  rw [pushSocket, absent]
  rfl

/-- A socket is pushed once for its id. -/
theorem SoundRefs.push {objects : List Socket} {id : Text} {ref : Ref}
    (sound : SoundRefs (idOf objects) sockets) (own : idOf objects ref = some id) :
    SoundRefs (idOf objects) (pushSocket objects id ref sockets) := by
  by_cases absent : findSocket objects id sockets = none
  · have fresh := Keyed.find_eq_none_iff.mp absent
    rw [pushSocket_of_fresh ref fresh]
    exact sound.concat own fresh
  · rw [pushSocket, if_neg (by simpa using absent)]
    exact sound

/-- A list stays sound when an id is removed. -/
theorem SoundRefs.remove {objects : List Socket} (sound : SoundRefs (idOf objects) sockets)
    (id : Text) : SoundRefs (idOf objects) (removeSocket objects id sockets) where
  known ref listed := sound.known ref ((Keyed.sublist_remove _ sockets).subset listed)
  distinct := Keyed.nodup_remove (some id) sound.distinct

theorem pushSocket_ne_nil {objects : List Socket} {id : Text} {ref : Ref} :
    pushSocket objects id ref sockets ≠ [] := by
  rw [pushSocket]
  split
  · simp
  · rename_i found
    rintro rfl
    exact found rfl

/-- Nothing is listed but what was listed and what is pushed. -/
theorem mem_pushSocket {objects : List Socket} {id : Text} {ref other : Ref}
    (listed : other ∈ pushSocket objects id ref sockets) : other ∈ sockets ∨ other = ref := by
  rw [pushSocket] at listed
  split at listed
  · simpa using listed
  · exact Or.inl listed

end Refs

/-! ## Entries -/

section Entries

variable {ids wider : Ref → Option Text} {counter later : Nat}

theorem SoundRoom.mono {room : Room} (sound : SoundRoom ids room) (extended : Extends ids wider) :
    SoundRoom wider room :=
  ⟨known_mono extended sound.known, sound.occupied, sound.active⟩

theorem SoundClient.mono {client : Client} (sound : SoundClient ids client)
    (extended : Extends ids wider) : SoundClient wider client :=
  ⟨sound.sockets.mono extended, sound.used, sound.connected⟩

/-- More objects and a greater counter leave a namespace sound. -/
theorem SoundNamespace.mono {nsp : Namespace} (sound : SoundNamespace ids counter nsp)
    (extended : Extends ids wider) (counts : counter ≤ later) :
    SoundNamespace wider later nsp where
  sockets := sound.sockets.mono extended
  roomNames := sound.roomNames
  rooms room listed := (sound.rooms room listed).mono extended
  bounded := sound.bounded
  numbered := sound.numbered
  counted event listed := (sound.counted event listed).trans counts

/-- A new namespace is sound. -/
theorem SoundNamespace.create (name : Text) :
    SoundNamespace ids counter (Namespace.create name) where
  sockets := SoundRefs.nil
  roomNames := List.nodup_nil
  rooms := by simp [Namespace.create]
  bounded := Nat.zero_le _
  numbered := List.Pairwise.nil
  counted := by simp [Namespace.create]

/-- An update of one namespace, while the others stay. -/
theorem sound_updateNamespace {namespaces : List Namespace} {update : Namespace → Namespace}
    (sound : ∀ nsp ∈ namespaces, SoundNamespace ids counter nsp)
    (extended : Extends ids wider) (counts : counter ≤ later)
    (updated : ∀ nsp, SoundNamespace ids counter nsp → SoundNamespace wider later (update nsp))
    (name : Text) :
    ∀ nsp ∈ updateNamespace update name namespaces, SoundNamespace wider later nsp := by
  apply Keyed.forall_alter
  · intro nsp listed
    exact (sound nsp listed).mono extended counts
  · apply updated
    cases found : Keyed.find Namespace.name name namespaces with
    | none => exact SoundNamespace.create name
    | some nsp => exact sound nsp (Keyed.find_some found).1

/-- An update keeps the names of the namespaces distinct. -/
theorem names_updateNamespace {namespaces : List Namespace} {update : Namespace → Namespace}
    (distinct : (namespaces.map Namespace.name).Nodup) (kept : ∀ nsp, (update nsp).name = nsp.name)
    (name : Text) : ((updateNamespace update name namespaces).map Namespace.name).Nodup :=
  Keyed.nodup_alter Namespace.name_create kept name distinct

end Entries

/-! ## Rooms and clients -/

section Lists

variable {objects : List Socket} {rooms : List Room} {clients : List Client}

/-- The room that a search returns or creates. -/
theorem sound_getD (name : Text) (sound : ∀ room ∈ rooms, SoundRoom (idOf objects) room) :
    (∀ ref ∈ ((Keyed.find Room.name name rooms).getD (Room.create name)).sockets,
      idOf objects ref ≠ none) ∧
    ((Keyed.find Room.name name rooms).getD (Room.create name)).active = true := by
  cases found : Keyed.find Room.name name rooms with
  | none => simp [Room.create]
  | some room =>
    have earlier := sound room (Keyed.find_some found).1
    exact ⟨earlier.known, earlier.active⟩

/-- A socket enters rooms that are new or sound. -/
theorem sound_addToRooms {id : Text} {ref : Ref} (own : idOf objects ref = some id)
    (names : List Text) (distinct : (rooms.map Room.name).Nodup)
    (sound : ∀ room ∈ rooms, SoundRoom (idOf objects) room) :
    ((addToRooms objects id ref names rooms).map Room.name).Nodup ∧
      ∀ room ∈ addToRooms objects id ref names rooms, SoundRoom (idOf objects) room := by
  induction names generalizing rooms with
  | nil => exact ⟨distinct, sound⟩
  | cons name names inductionHypothesis =>
    rw [addToRooms, List.foldl_cons]
    apply inductionHypothesis
    · exact Keyed.nodup_alter Room.name_create (Room.name_enter objects id ref) name distinct
    · apply Keyed.forall_alter sound
      obtain ⟨known, active⟩ := sound_getD name sound
      refine ⟨?_, pushSocket_ne_nil, active⟩
      intro other listed
      rcases mem_pushSocket listed with earlier | rfl
      · exact known other earlier
      · rw [own]
        exact Option.some_ne_none id

/-- A socket enters a client that is new or sound. -/
theorem sound_pushToClient {id : Text} {ref : Ref} (own : idOf objects ref = some id)
    (clientId : Text) (sound : ∀ client ∈ clients, SoundClient (idOf objects) client) :
    ∀ client ∈ updateClient (Client.enter objects id ref) clientId clients,
      SoundClient (idOf objects) client := by
  apply Keyed.forall_alter sound
  cases found : Keyed.find Client.id clientId clients with
  | none =>
    have pushed : pushSocket objects id ref [] ≠ [] := pushSocket_ne_nil
    exact ⟨SoundRefs.nil.push own, pushed, rfl⟩
  | some client =>
    have earlier := sound client (Keyed.find_some found).1
    exact ⟨earlier.sockets.push own, pushSocket_ne_nil, earlier.connected⟩

/-- The one client that a removal may leave empty is removed. -/
theorem sound_removeFromClient (id clientId : Text) (distinct : (clients.map Client.id).Nodup)
    (sound : ∀ client ∈ clients, SoundClient (idOf objects) client) :
    ((removeFromClient objects id clientId clients).map Client.id).Nodup ∧
      ∀ client ∈ removeFromClient objects id clientId clients,
        SoundClient (idOf objects) client := by
  have kept := Client.id_dismiss objects id
  refine ⟨Keyed.nodup_alterRemoving Client.id_create kept clientId distinct,
    Keyed.forall_alterRemoving Client.id_create kept distinct sound ?_⟩
  intro remaining
  have left := of_decide_eq_false remaining
  cases found : Keyed.find Client.id clientId clients with
  | none =>
    rw [found] at left
    exact absurd rfl left
  | some client =>
    rw [found] at left
    have earlier := sound client (Keyed.find_some found).1
    exact ⟨earlier.sockets.remove id, left, (if_neg left).trans earlier.connected⟩

end Lists

/-! ## Namespaces -/

section Namespaces

variable {objects : List Socket} {counter : Nat} {nsp : Namespace}
  (before : SoundNamespace (idOf objects) counter nsp)

include before

/-- A socket with its rooms enters a namespace. -/
theorem SoundNamespace.enter {socket : Socket} {ref : Ref}
    (own : idOf objects ref = some socket.id) :
    SoundNamespace (idOf objects) counter (nsp.enter objects socket ref) := by
  obtain ⟨names, rooms⟩ := sound_addToRooms own socket.rooms before.roomNames before.rooms
  exact ⟨before.sockets.push own, names, rooms, before.bounded, before.numbered, before.counted⟩

/-- A socket is removed from the sockets of a namespace. -/
theorem SoundNamespace.dismiss (id : Text) :
    SoundNamespace (idOf objects) counter (nsp.dismiss objects id) :=
  ⟨before.sockets.remove id, before.roomNames, before.rooms, before.bounded, before.numbered,
    before.counted⟩

theorem SoundNamespace.clear : SoundNamespace (idOf objects) counter nsp.clear :=
  ⟨SoundRefs.nil, List.nodup_nil, by simp [Namespace.clear], before.bounded, before.numbered,
    before.counted⟩

theorem SoundNamespace.join (id room : Text) :
    SoundNamespace (idOf objects) counter (nsp.join objects id room) := by
  rw [Namespace.join]
  split
  · exact before
  · rename_i ref found
    have joined : ∀ entry ∈ updateRoom (Room.join ref) room nsp.rooms,
        SoundRoom (idOf objects) entry := by
      apply Keyed.forall_alter before.rooms
      obtain ⟨known, active⟩ := sound_getD room before.rooms
      refine ⟨?_, by simp [Room.join], active⟩
      intro other listed
      rcases List.mem_append.mp listed with earlier | last
      · exact known other earlier
      · rw [List.mem_singleton.mp last, (findSocket_some found).2]
        exact Option.some_ne_none id
    exact ⟨before.sockets,
      Keyed.nodup_alter Room.name_create (Room.name_join ref) room before.roomNames, joined,
      before.bounded, before.numbered, before.counted⟩

/-- The one room that a removal may leave empty is removed. -/
theorem SoundNamespace.leave (id room : Text) :
    SoundNamespace (idOf objects) counter (nsp.leave objects id room) := by
  have kept := Room.name_dismiss objects id
  refine ⟨before.sockets, Keyed.nodup_alterRemoving Room.name_create kept room before.roomNames,
    Keyed.forall_alterRemoving Room.name_create kept before.roomNames before.rooms ?_,
    before.bounded, before.numbered, before.counted⟩
  intro remaining
  obtain ⟨known, active⟩ := sound_getD room before.rooms
  have left := of_decide_eq_false remaining
  refine ⟨?_, left, (if_neg left).trans active⟩
  intro ref listed
  exact known ref ((Keyed.sublist_remove _ _).subset listed)

end Namespaces

/-! ## Events -/

/-- The events of a namespace stay within the limit. -/
theorem length_pushBounded {events : List Event} (event : Event)
    (bounded : events.length ≤ MAX_ARRAY_LENGTH) :
    (pushBounded events event).length ≤ MAX_ARRAY_LENGTH := by
  simp only [pushBounded]
  split
  · simpa using bounded
  · omega

/-- Only events at the front are dropped. -/
theorem sublist_pushBounded (events : List Event) (event : Event) :
    (pushBounded events event).Sublist (events ++ [event]) := by
  simp only [pushBounded]
  split
  · exact List.tail_sublist _
  · exact List.Sublist.refl _

/-- An event with the next number keeps the numbers increasing. -/
theorem SoundNamespace.log {ids : Ref → Option Text} {counter : Nat} {nsp : Namespace}
    (before : SoundNamespace ids counter nsp) {event : Event}
    (numbered : event.eventId = counter + 1) :
    SoundNamespace ids (counter + 1) (nsp.log event) := by
  have extended := sublist_pushBounded nsp.events event
  refine ⟨before.sockets, before.roomNames, before.rooms, length_pushBounded _ before.bounded,
    List.Pairwise.sublist extended ?_, ?_⟩
  · rw [List.pairwise_append]
    refine ⟨before.numbered, List.pairwise_singleton _ _, ?_⟩
    intro earlier listed last member
    rw [List.mem_singleton.mp member, numbered]
    exact Nat.lt_succ_of_le (before.counted earlier listed)
  · intro earlier listed
    rcases List.mem_append.mp (extended.subset listed) with inside | last
    · exact (before.counted earlier inside).trans (Nat.le_succ _)
    · rw [List.mem_singleton.mp last, numbered]

/-! ## Mutations -/

/-- An event is numbered by the counter of the store. -/
theorem Sound.pushEvents {state : State} (sound : Sound state) (name : Text) (timestamp : Int)
    (id : Text) (detail : EventDetail) : Sound (pushEvents state name timestamp id detail) where
  names := names_updateNamespace sound.names (Namespace.name_log _) name
  namespaces := sound_updateNamespace sound.namespaces (Extends.refl _) (Nat.le_succ _)
    (fun _ before => before.log rfl) name
  clientIds := sound.clientIds
  clients := sound.clients
  buckets := sound.buckets

/-- An update of one namespace that keeps its name and what it must be. -/
theorem Sound.changeNamespace {state : State} (sound : Sound state)
    {update : Namespace → Namespace} (kept : ∀ nsp, (update nsp).name = nsp.name)
    (updated : ∀ nsp, SoundNamespace (idOf state.objects) state.eventCounter nsp →
      SoundNamespace (idOf state.objects) state.eventCounter (update nsp)) (name : Text) :
    Sound { state with namespaces := updateNamespace update name state.namespaces } where
  names := names_updateNamespace sound.names kept name
  namespaces := sound_updateNamespace sound.namespaces (Extends.refl _) (Nat.le_refl _) updated name
  clientIds := sound.clientIds
  clients := sound.clients
  buckets := sound.buckets

/-- A change of objects that keeps their ids. -/
theorem Sound.changeObjects {state : State} (sound : Sound state) {objects : List Socket}
    (same : idOf objects = idOf state.objects) : Sound { state with objects := objects } := by
  constructor
  · exact sound.names
  · rw [same]
    exact sound.namespaces
  · exact sound.clientIds
  · rw [same]
    exact sound.clients
  · exact sound.buckets

/-- A socket that is announced. -/
theorem Sound.addSocket {state : State} (sound : Sound state) (socket : Socket) :
    Sound (addSocket state socket) := by
  have extended := extends_append state.objects { socket with connected := true }
  have own := idOf_append_new state.objects { socket with connected := true }
  constructor
  · exact names_updateNamespace sound.names (Namespace.name_enter _ socket _) socket.nsp
  · apply sound_updateNamespace sound.namespaces extended (Nat.le_refl _)
    intro nsp before
    exact (before.mono extended (Nat.le_refl _)).enter own
  · exact Keyed.nodup_alter Client.id_create (Client.id_enter _ socket.id _) socket.clientId
      sound.clientIds
  · apply sound_pushToClient own
    intro client listed
    exact (sound.clients client listed).mono extended
  · exact sound.buckets

theorem Sound.clear {state : State} (sound : Sound state) :
    Sound { state with namespaces := state.namespaces.map Namespace.clear, clients := [] } := by
  constructor
  · rw [List.map_map]
    exact sound.names
  · intro nsp listed
    obtain ⟨before, member, rfl⟩ := List.mem_map.mp listed
    exact (sound.namespaces before member).clear
  · exact List.nodup_nil
  · simp
  · exact sound.buckets

theorem Sound.onAllSockets {state : State} (sound : Sound state) (sockets : List Socket) :
    Sound (onAllSockets state sockets) := by
  have added : ∀ start, Sound start → Sound (sockets.foldl AdminUi.addSocket start) := by
    induction sockets with
    | nil => exact fun start started => started
    | cons socket sockets inductionHypothesis =>
      intro start started
      exact inductionHypothesis _ (started.addSocket socket)
  have filled := added _ sound.clear
  exact ⟨filled.names, filled.namespaces, filled.clientIds, filled.clients, filled.buckets⟩

theorem Sound.onSocketUpdated {state : State} (sound : Sound state) (update : SocketUpdate) :
    Sound (onSocketUpdated state update) := by
  have created := sound.changeNamespace (fun _ => rfl) (fun _ before => before) update.nsp
  apply created.changeObjects
  apply idOf_changeSocket
  intro socket own
  rfl

/-- A socket that is gone is marked and removed from its namespace and its client. -/
theorem Sound.onSocketDisconnected {state : State} (sound : Sound state) (timestamp : Int)
    (name id reason : Text) : Sound (onSocketDisconnected state timestamp name id reason) := by
  apply Sound.pushEvents
  have removed := sound.changeNamespace (Namespace.name_dismiss state.objects id)
    (fun _ before => before.dismiss id) name
  have table : idOf (changeSocket Socket.disconnect id (state.namespaceOf name).sockets
      state.objects) = idOf state.objects := by
    apply idOf_changeSocket
    intro socket own
    exact own
  have changed := removed.changeObjects table
  refine ⟨changed.names, changed.namespaces, ?_, ?_, changed.buckets⟩
  · split
    · exact sound.clientIds
    · exact (sound_removeFromClient id _ sound.clientIds sound.clients).1
  · rw [table]
    split
    · exact sound.clients
    · exact (sound_removeFromClient id _ sound.clientIds sound.clients).2

theorem Sound.onRoomJoined {state : State} (sound : Sound state) (timestamp : Int)
    (name room id : Text) : Sound (onRoomJoined state timestamp name room id) := by
  apply Sound.pushEvents
  have joined := sound.changeNamespace (Namespace.name_join state.objects id room)
    (fun _ before => before.join id room) name
  apply joined.changeObjects
  apply idOf_changeSocket
  intro socket own
  rw [Socket.pushRoom_id, own]

theorem Sound.onRoomLeft {state : State} (sound : Sound state) (timestamp : Int)
    (name room id : Text) : Sound (onRoomLeft state timestamp name room id) := by
  apply Sound.pushEvents
  have left := sound.changeNamespace (Namespace.name_leave state.objects id room)
    (fun _ before => before.leave id room) name
  apply left.changeObjects
  apply idOf_changeSocket
  intro socket own
  exact own

/-- The counts of a server keep one entry for each bucket. -/
theorem Sound.onServerStats {state : State} (sound : Sound state)
    (aggregatedEvents : Option (List AggregatedEvent)) (now : Int) :
    Sound (onServerStats state aggregatedEvents now) := by
  cases aggregatedEvents with
  | none => exact sound
  | some aggregated =>
    have added : ∀ events : List AggregatedEvent, (events.map AggregatedEvent.bucket).Nodup →
        ((aggregated.foldl addAggregated events).map AggregatedEvent.bucket).Nodup := by
      induction aggregated with
      | nil => exact fun events distinct => distinct
      | cons event aggregated inductionHypothesis =>
        intro events distinct
        apply inductionHypothesis
        exact Keyed.nodup_alter AggregatedEvent.bucket_create
          (AggregatedEvent.bucket_add event.count) _ distinct
    exact ⟨sound.names, sound.namespaces, sound.clientIds, sound.clients,
      (added _ sound.buckets).sublist (List.filter_sublist.map _)⟩

/-- Every message keeps the store sound. -/
theorem Sound.commit {state : State} (sound : Sound state) (mutation : Mutation) :
    Sound (commit state mutation) := by
  cases mutation with
  | selectNamespace selected =>
    exact ⟨sound.names, sound.namespaces, sound.clientIds, sound.clients, sound.buckets⟩
  | onAllSockets sockets => exact sound.onAllSockets sockets
  | onSocketConnected timestamp socket => exact (sound.addSocket socket).pushEvents _ _ _ _
  | onSocketUpdated update => exact sound.onSocketUpdated update
  | onSocketDisconnected timestamp nsp id reason =>
    exact sound.onSocketDisconnected timestamp nsp id reason
  | onRoomJoined timestamp nsp room id => exact sound.onRoomJoined timestamp nsp room id
  | onRoomLeft timestamp nsp room id => exact sound.onRoomLeft timestamp nsp room id
  | onServerStats aggregatedEvents now => exact sound.onServerStats aggregatedEvents now
  | onEventReceived timestamp nsp id args => exact sound.pushEvents _ _ _ _
  | onEventSent timestamp nsp id args => exact sound.pushEvents _ _ _ _

theorem sound_foldl (mutations : List Mutation) {state : State} (sound : Sound state) :
    Sound (mutations.foldl commit state) := by
  induction mutations generalizing state with
  | nil => exact sound
  | cons mutation mutations inductionHypothesis => exact inductionHypothesis (sound.commit mutation)

/-- Under any messages the lookups of the store stay by distinct keys, its rooms and clients
stay occupied and its lists of events stay bounded and numbered. -/
theorem store_sound (mutations : List Mutation) : Sound (mutations.foldl commit initial) :=
  sound_foldl mutations sound_initial

end WebPubSub.AdminUi
