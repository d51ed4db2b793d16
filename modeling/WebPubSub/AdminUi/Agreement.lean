import WebPubSub.AdminUi.View

/-!
# Agreement of the view with the record

The lists of namespaces, rooms and clients agree with the record when they hold the right ids,
and when a room and a client hold the very reference that the namespace holds. Announced sockets,
disconnections, joins and leaves keep the agreement.
-/

namespace WebPubSub.AdminUi

/-- The view shows what the record has. A room's reference to a socket that is connected is the
one of the namespace, and a client has the references of its connected sockets. -/
structure View.Agrees (view : View) (server : Server) : Prop where
  distinct : (server.sockets.map Presence.id).Nodup
  sockets : ∀ nsp, SoundRefs (idOf view.objects) (view.sockets nsp)
  present : ∀ nsp, ∀ ref ∈ view.sockets nsp, ∃ socket, view.objects[ref]? = some socket ∧
    socket.nsp = nsp ∧ socket.presence ∈ server.sockets ∧ socket.connected = true ∧
    socket.rooms.Nodup ∧
    ∀ room, room ∈ socket.rooms ↔ (⟨nsp, room, socket.id⟩ : Membership) ∈ server.members
  shown : ∀ presence ∈ server.sockets, ∃ ref ∈ view.sockets presence.nsp, ∃ socket,
    view.objects[ref]? = some socket ∧ socket.presence = presence
  rooms : ∀ nsp room, SoundRefs (idOf view.objects) (view.room nsp room)
  members : ∀ nsp room id, some id ∈ (view.room nsp room).map (idOf view.objects) ↔
    ⟨nsp, room, id⟩ ∈ server.members
  same : ∀ nsp room, ∀ ref ∈ view.room nsp room, ∀ id, idOf view.objects ref = some id →
    server.Lists nsp id → ref ∈ view.sockets nsp
  clientRefs : ∀ id, SoundRefs (idOf view.objects) (view.client id)
  clients : ∀ id ref, ref ∈ view.client id ↔ ∃ nsp socket, ref ∈ view.sockets nsp ∧
    view.objects[ref]? = some socket ∧ socket.clientId = id

/-- A view without entries agrees with a server without sockets. -/
theorem agrees_empty (objects : List Socket) :
    (⟨objects, fun _ => [], fun _ _ => [], fun _ => []⟩ : View).Agrees Server.empty where
  distinct := List.nodup_nil
  sockets _ := SoundRefs.nil
  present := by simp
  shown := by simp [Server.empty]
  rooms _ _ := SoundRefs.nil
  members := by simp [Server.empty]
  same := by simp
  clientRefs _ := SoundRefs.nil
  clients := by simp

namespace View.Agrees

variable {view : View} {server : Server} (agrees : view.Agrees server)

include agrees

/-- What is said of a shown reference holds of its object. -/
theorem present_of_getElem {nsp : Text} {ref : Ref} (listed : ref ∈ view.sockets nsp)
    {socket : Socket} (found : view.objects[ref]? = some socket) :
    socket.nsp = nsp ∧ socket.presence ∈ server.sockets ∧ socket.connected = true ∧
      socket.rooms.Nodup ∧
      ∀ room, room ∈ socket.rooms ↔ (⟨nsp, room, socket.id⟩ : Membership) ∈ server.members := by
  obtain ⟨known, seen, rest⟩ := agrees.present nsp ref listed
  obtain rfl : known = socket := Option.some.inj (seen.symm.trans found)
  exact rest

/-- A listed id is the id of a shown socket. -/
theorem lists_iff (nsp id : Text) :
    server.Lists nsp id ↔ ∃ ref ∈ view.sockets nsp, idOf view.objects ref = some id := by
  constructor
  · rintro ⟨presence, listed, rfl, rfl⟩
    obtain ⟨ref, inside, socket, found, same⟩ := agrees.shown presence listed
    refine ⟨ref, inside, ?_⟩
    rw [idOf_of_getElem found, ← same]
    rfl
  · rintro ⟨ref, inside, own⟩
    obtain ⟨socket, found, placed, listed, -⟩ := agrees.present nsp ref inside
    rw [idOf_of_getElem found] at own
    exact ⟨socket.presence, listed, placed, Option.some.inj own⟩

/-- A reference that is found in a namespace is listed and has the id. -/
theorem found_of_findSocket {nsp id : Text} {ref : Ref}
    (search : findSocket view.objects id (view.sockets nsp) = some ref) :
    ref ∈ view.sockets nsp ∧ ∃ socket, view.objects[ref]? = some socket ∧ socket.id = id := by
  obtain ⟨listed, own⟩ := findSocket_some search
  obtain ⟨socket, found, -⟩ := agrees.present nsp ref listed
  exact ⟨listed, socket, found, Option.some.inj ((idOf_of_getElem found).symm.trans own)⟩

/-- An id that is not found is not connected. -/
theorem unlisted_of_findSocket {nsp id : Text}
    (absent : findSocket view.objects id (view.sockets nsp) = none) : ¬server.Lists nsp id := by
  rw [agrees.lists_iff]
  rintro ⟨ref, listed, own⟩
  exact Keyed.find_eq_none_iff.mp absent ref listed own

end View.Agrees

/-! ## Announced sockets -/

/-- The memberships that a socket announces. -/
theorem mem_memberships (socket : Socket) (nsp room id : Text) :
    (⟨nsp, room, id⟩ : Membership) ∈ socket.memberships ↔
      nsp = socket.nsp ∧ room ∈ socket.rooms ∧ id = socket.id := by
  simp only [Socket.memberships, List.mem_map, Membership.mk.injEq]
  constructor
  · rintro ⟨room, listed, rfl, rfl, rfl⟩
    exact ⟨rfl, listed, rfl⟩
  · rintro ⟨rfl, listed, rfl⟩
    exact ⟨room, listed, rfl, rfl, rfl⟩

theorem inside_of_known {objects : List Socket} {ref : Ref} (known : idOf objects ref ≠ none) :
    ref < objects.length := by
  by_contra outside
  apply known
  rw [idOf, List.getElem?_eq_none (Nat.le_of_not_lt outside), Option.map_none]

theorem idOf_append {objects : List Socket} {ref : Ref} (known : idOf objects ref ≠ none)
    (socket : Socket) : idOf (objects ++ [socket]) ref = idOf objects ref := by
  rw [idOf, idOf, List.getElem?_append_left (inside_of_known known)]

/-- A new object at the end of the lists of its namespace, its rooms and its client. -/
def View.add (view : View) (socket : Socket) : View where
  objects := view.objects ++ [{ socket with connected := true }]
  sockets nsp :=
    if nsp = socket.nsp then view.sockets nsp ++ [view.objects.length] else view.sockets nsp
  room nsp name :=
    if nsp = socket.nsp ∧ name ∈ socket.rooms then view.room nsp name ++ [view.objects.length]
    else view.room nsp name
  client id :=
    if id = socket.clientId then view.client id ++ [view.objects.length] else view.client id

section Announced

variable {view : View} {server : Server} {socket : Socket} (agrees : view.Agrees server)
  (announced : server.Announces socket)

include agrees

include announced

/-- A new id is in no list of sockets. -/
theorem View.Agrees.fresh_sockets (nsp : Text) :
    ∀ ref ∈ view.sockets nsp, idOf view.objects ref ≠ some socket.id := by
  intro ref listed own
  obtain ⟨other, found, -, told, -⟩ := agrees.present nsp ref listed
  rw [idOf_of_getElem found] at own
  exact announced.1 other.presence told (Option.some.inj own)

/-- A new id is in no room. -/
theorem View.Agrees.fresh_room (name : Text) :
    ∀ ref ∈ view.room socket.nsp name, idOf view.objects ref ≠ some socket.id := by
  intro ref listed own
  have told := (agrees.members socket.nsp name socket.id).mp (List.mem_map.mpr ⟨ref, listed, own⟩)
  exact announced.2.1 _ told ⟨rfl, rfl⟩

/-- A new id is in no client. -/
theorem View.Agrees.fresh_client (id : Text) :
    ∀ ref ∈ view.client id, idOf view.objects ref ≠ some socket.id := by
  intro ref listed
  obtain ⟨nsp, other, inside, -⟩ := (agrees.clients id ref).mp listed
  exact agrees.fresh_sockets announced nsp ref inside

end Announced

/-- The object of an announced socket comes at the end of its lists. -/
theorem view_addSocket {state : State} {server : Server} {socket : Socket}
    (agrees : state.view.Agrees server) (announced : server.Announces socket) :
    (addSocket state socket).view = state.view.add socket := by
  set added : Socket := { socket with connected := true } with addedDef
  have wider {refs : List Ref} (known : ∀ ref ∈ refs, idOf state.objects ref ≠ none)
      (fresh : ∀ ref ∈ refs, idOf state.objects ref ≠ some socket.id) :
      pushSocket (state.objects ++ [added]) socket.id state.objects.length refs =
        refs ++ [state.objects.length] := by
    apply pushSocket_of_fresh
    intro ref listed
    rw [idOf_append (known ref listed)]
    exact fresh ref listed
  refine (view_updateNamespace state (Namespace.name_enter _ socket _) socket.nsp
    (state.objects ++ [added]) _).trans ?_
  ext1
  · rfl
  · funext nsp
    rw [View.add]
    dsimp only
    split
    · rename_i same
      subst same
      exact wider (agrees.sockets socket.nsp).known (agrees.fresh_sockets announced socket.nsp)
    · rfl
  · funext nsp name
    rw [View.add]
    dsimp only
    by_cases own : nsp = socket.nsp
    · subst own
      simp only [if_true, true_and, Namespace.enter]
      rw [roomSockets_addToRooms announced.2.2]
      split
      · exact wider (agrees.rooms socket.nsp name).known (agrees.fresh_room announced name)
      · rfl
    · simp only [own, false_and, if_false]
  · funext id
    refine (clientSockets_update (Client.id_enter _ socket.id _)
      (Client.sockets_enter _ socket.id _) socket.clientId id).trans ?_
    rw [View.add]
    dsimp only
    split
    · rename_i same
      subst same
      exact wider (agrees.clientRefs socket.clientId).known
        (agrees.fresh_client announced socket.clientId)
    · rfl

/-- The server lists the new socket besides the others. -/
theorem Server.lists_connect {server : Server} {socket : Socket} {nsp id : Text} :
    (server.connect socket).Lists nsp id ↔
      server.Lists nsp id ∨ (nsp = socket.nsp ∧ id = socket.id) := by
  simp only [Server.Lists, Server.connect, List.mem_append, List.mem_singleton]
  constructor
  · rintro ⟨presence, before | rfl, rfl, rfl⟩
    · exact Or.inl ⟨presence, before, rfl, rfl⟩
    · exact Or.inr ⟨rfl, rfl⟩
  · rintro (⟨presence, before, rfl, rfl⟩ | ⟨rfl, rfl⟩)
    · exact ⟨presence, Or.inl before, rfl, rfl⟩
    · exact ⟨socket.presence, Or.inr rfl, rfl, rfl⟩

section Added

variable (view : View) (socket : Socket)

/-- The new object is listed in its namespace. -/
theorem View.mem_sockets_add (nsp : Text) (ref : Ref) :
    ref ∈ (view.add socket).sockets nsp ↔
      ref ∈ view.sockets nsp ∨ (nsp = socket.nsp ∧ ref = view.objects.length) := by
  rw [View.add]
  dsimp only
  split
  · rename_i same
    simp [same]
  · rename_i apart
    simp [apart]

/-- The new object is a member of its rooms. -/
theorem View.mem_room_add (nsp name : Text) (ref : Ref) :
    ref ∈ (view.add socket).room nsp name ↔ ref ∈ view.room nsp name ∨
      (nsp = socket.nsp ∧ name ∈ socket.rooms ∧ ref = view.objects.length) := by
  rw [View.add]
  dsimp only
  split
  · rename_i same
    simp [same]
  · rename_i apart
    constructor
    · exact Or.inl
    · rintro (before | ⟨same, listed, -⟩)
      · exact before
      · exact absurd ⟨same, listed⟩ apart

/-- The new object belongs to its client. -/
theorem View.mem_client_add (id : Text) (ref : Ref) :
    ref ∈ (view.add socket).client id ↔
      ref ∈ view.client id ∨ (id = socket.clientId ∧ ref = view.objects.length) := by
  rw [View.add]
  dsimp only
  split
  · rename_i same
    simp [same]
  · rename_i apart
    simp [apart]

theorem View.extends_add : Extends (idOf view.objects) (idOf (view.add socket).objects) :=
  extends_append view.objects _

theorem View.idOf_add_new :
    idOf (view.add socket).objects view.objects.length = some socket.id :=
  idOf_append_new view.objects { socket with connected := true }

theorem View.getElem_add_new :
    (view.add socket).objects[view.objects.length]? = some { socket with connected := true } := by
  simp [View.add]

theorem View.getElem_add {ref : Ref} {known : Socket}
    (found : view.objects[ref]? = some known) :
    (view.add socket).objects[ref]? = some known := by
  rw [View.add, List.getElem?_append_left (List.getElem?_eq_some_iff.mp found).1, found]

variable {view socket}

/-- A list of references with or without the new one at its end. -/
theorem soundRefs_add {refs : List Ref} (sound : SoundRefs (idOf view.objects) refs)
    {grows : Prop} [Decidable grows]
    (fresh : grows → ∀ ref ∈ refs, idOf view.objects ref ≠ some socket.id) :
    SoundRefs (idOf (view.add socket).objects)
      (if grows then refs ++ [view.objects.length] else refs) := by
  have wider := sound.mono (view.extends_add socket)
  split
  · rename_i grown
    refine wider.concat (view.idOf_add_new socket) ?_
    intro ref listed
    rw [View.add, idOf_append (sound.known ref listed)]
    exact fresh grown ref listed
  · exact wider

end Added

section Announced

variable {view : View} {server : Server} {socket : Socket} (agrees : view.Agrees server)

include agrees

/-- Every socket of the server is shown, the new one by the new object. -/
theorem View.Agrees.shown_add {presence : Presence}
    (told : presence ∈ (server.connect socket).sockets) :
    ∃ ref ∈ (view.add socket).sockets presence.nsp, ∃ known,
      (view.add socket).objects[ref]? = some known ∧ known.presence = presence := by
  rcases List.mem_append.mp told with before | last
  · obtain ⟨ref, listed, known, found, same⟩ := agrees.shown presence before
    exact ⟨ref, (view.mem_sockets_add socket _ _).mpr (Or.inl listed), known,
      view.getElem_add socket found, same⟩
  · rw [List.mem_singleton.mp last]
    exact ⟨_, (view.mem_sockets_add socket _ _).mpr (Or.inr ⟨rfl, rfl⟩), _,
      view.getElem_add_new socket, rfl⟩

/-- The members that are shown are those of the server and the new one. -/
theorem View.Agrees.members_add (nsp room id : Text) :
    some id ∈ ((view.add socket).room nsp room).map (idOf (view.add socket).objects) ↔
      ⟨nsp, room, id⟩ ∈ (server.connect socket).members := by
  have same := map_extends (view.extends_add socket) (agrees.rooms nsp room).known
  rw [Server.connect, List.mem_append, mem_memberships, ← agrees.members nsp room id, ← same,
    List.mem_map, List.mem_map]
  constructor
  · rintro ⟨ref, listed, known⟩
    rcases (view.mem_room_add socket nsp room ref).mp listed with earlier | ⟨rfl, inside, rfl⟩
    · exact Or.inl ⟨ref, earlier, known⟩
    · refine Or.inr ⟨rfl, inside, ?_⟩
      exact (Option.some.inj ((view.idOf_add_new socket).symm.trans known)).symm
  · rintro (⟨ref, listed, known⟩ | ⟨rfl, inside, rfl⟩)
    · exact ⟨ref, (view.mem_room_add socket nsp room ref).mpr (Or.inl listed), known⟩
    · exact ⟨_, (view.mem_room_add socket _ room _).mpr (Or.inr ⟨rfl, inside, rfl⟩),
        view.idOf_add_new socket⟩

/-- A client lists exactly its sockets, the new one among them. -/
theorem View.Agrees.clients_add (id : Text) (ref : Ref) :
    ref ∈ (view.add socket).client id ↔ ∃ nsp known, ref ∈ (view.add socket).sockets nsp ∧
      (view.add socket).objects[ref]? = some known ∧ known.clientId = id := by
  rw [view.mem_client_add, agrees.clients]
  constructor
  · rintro (⟨nsp, known, listed, found, same⟩ | ⟨rfl, rfl⟩)
    · exact ⟨nsp, known, (view.mem_sockets_add socket nsp ref).mpr (Or.inl listed),
        view.getElem_add socket found, same⟩
    · exact ⟨socket.nsp, _, (view.mem_sockets_add socket _ _).mpr (Or.inr ⟨rfl, rfl⟩),
        view.getElem_add_new socket, rfl⟩
  · rintro ⟨nsp, known, listed, found, same⟩
    rcases (view.mem_sockets_add socket nsp ref).mp listed with before | ⟨rfl, rfl⟩
    · obtain ⟨older, earlier, -⟩ := agrees.present nsp ref before
      obtain rfl : older = known :=
        Option.some.inj ((view.getElem_add socket earlier).symm.trans found)
      exact Or.inl ⟨nsp, older, before, earlier, same⟩
    · have equal := Option.some.inj ((view.getElem_add_new socket).symm.trans found)
      exact Or.inr ⟨by rw [← same, ← equal], rfl⟩

variable (announced : server.Announces socket)

include announced

theorem View.Agrees.distinct_add : ((server.connect socket).sockets.map Presence.id).Nodup := by
  rw [Server.connect, List.map_append]
  refine agrees.distinct.append (List.nodup_singleton _) (List.disjoint_singleton.mpr ?_)
  intro listed
  obtain ⟨presence, told, same⟩ := List.mem_map.mp listed
  exact announced.1 presence told same

/-- Every object that is listed stands for a socket of the server. -/
theorem View.Agrees.present_add (nsp : Text) {ref : Ref}
    (listed : ref ∈ (view.add socket).sockets nsp) :
    ∃ known, (view.add socket).objects[ref]? = some known ∧ known.nsp = nsp ∧
      known.presence ∈ (server.connect socket).sockets ∧ known.connected = true ∧
      known.rooms.Nodup ∧ ∀ room, room ∈ known.rooms ↔
        (⟨nsp, room, known.id⟩ : Membership) ∈ (server.connect socket).members := by
  rcases (view.mem_sockets_add socket nsp ref).mp listed with before | ⟨rfl, rfl⟩
  · obtain ⟨known, found, placed, told, connected, distinct, rooms⟩ :=
      agrees.present nsp ref before
    refine ⟨known, view.getElem_add socket found, placed, List.mem_append_left _ told, connected,
      distinct, ?_⟩
    intro room
    have outside : (⟨nsp, room, known.id⟩ : Membership) ∉ socket.memberships := by
      rw [mem_memberships]
      rintro ⟨-, -, same⟩
      exact announced.1 known.presence told same
    rw [rooms room, Server.connect, List.mem_append]
    exact ⟨Or.inl, fun either => either.resolve_right outside⟩
  · refine ⟨_, view.getElem_add_new socket, rfl,
      List.mem_append_right _ (List.mem_singleton.mpr rfl), rfl, announced.2.2, ?_⟩
    intro room
    rw [Server.connect, List.mem_append, mem_memberships]
    constructor
    · intro listed
      exact Or.inr ⟨rfl, listed, rfl⟩
    · rintro (before | ⟨-, listed, -⟩)
      · exact absurd ⟨rfl, rfl⟩ (announced.2.1 _ before)
      · exact listed

/-- A room lists a connected socket by the object of its namespace. -/
theorem View.Agrees.same_add (nsp room : Text) {ref : Ref}
    (listed : ref ∈ (view.add socket).room nsp room) {id : Text}
    (known : idOf (view.add socket).objects ref = some id)
    (told : (server.connect socket).Lists nsp id) :
    ref ∈ (view.add socket).sockets nsp := by
  rw [view.mem_sockets_add]
  rcases (view.mem_room_add socket nsp room ref).mp listed with earlier | ⟨rfl, -, rfl⟩
  · rw [View.add, idOf_append ((agrees.rooms nsp room).known ref earlier)] at known
    rcases Server.lists_connect.mp told with listed | ⟨rfl, rfl⟩
    · exact Or.inl (agrees.same nsp room ref earlier id known listed)
    · exact absurd known (agrees.fresh_room announced room ref earlier)
  · exact Or.inr ⟨rfl, rfl⟩

/-- The record of an announced socket agrees with the view that lists it. -/
theorem View.Agrees.add : (view.add socket).Agrees (server.connect socket) where
  distinct := agrees.distinct_add announced
  sockets nsp := soundRefs_add (agrees.sockets nsp) (fun _ => agrees.fresh_sockets announced nsp)
  present nsp _ listed := agrees.present_add announced nsp listed
  shown _ told := agrees.shown_add told
  rooms nsp room := by
    refine soundRefs_add (agrees.rooms nsp room) ?_
    rintro ⟨rfl, -⟩
    exact agrees.fresh_room announced room
  members := agrees.members_add
  same nsp room _ listed _ known told := agrees.same_add announced nsp room listed known told
  clientRefs id := soundRefs_add (agrees.clientRefs id) (fun _ => agrees.fresh_client announced id)
  clients := agrees.clients_add

end Announced

/-! ## Changes of one object -/

/-- Removing an id leaves the references of others. -/
theorem mem_removeSocket {objects : List Socket} {refs : List Ref}
    (sound : SoundRefs (idOf objects) refs) (id : Text) (ref : Ref) :
    ref ∈ removeSocket objects id refs ↔ ref ∈ refs ∧ idOf objects ref ≠ some id :=
  Keyed.mem_remove_iff sound.distinct ref

theorem getElem_modify {objects : List Socket} {other : Ref} {socket : Socket}
    (found : objects[other]? = some socket) (ref : Ref) (change : Socket → Socket) :
    (objects.modify ref change)[other]? = some (if ref = other then change socket else socket) := by
  rw [List.getElem?_modify, found]
  rfl

theorem getElem_of_modify {objects : List Socket} {ref other : Ref} {change : Socket → Socket}
    {socket : Socket} (found : (objects.modify ref change)[other]? = some socket) :
    ∃ before, objects[other]? = some before ∧
      socket = if ref = other then change before else before := by
  cases same : objects[other]? with
  | none =>
    rw [List.getElem?_modify, same] at found
    cases found
  | some before =>
    rw [getElem_modify same] at found
    exact ⟨before, rfl, (Option.some.inj found).symm⟩

/-- Whose client an object is does not depend on what else changes. -/
theorem exists_modify {objects : List Socket} {ref : Ref} {change : Socket → Socket}
    (kept : ∀ socket, (change socket).clientId = socket.clientId) (sockets : Text → List Ref)
    (id : Text) (other : Ref) :
    (∃ nsp socket, other ∈ sockets nsp ∧ objects[other]? = some socket ∧ socket.clientId = id) ↔
      ∃ nsp socket, other ∈ sockets nsp ∧ (objects.modify ref change)[other]? = some socket ∧
        socket.clientId = id := by
  constructor
  · rintro ⟨nsp, socket, listed, found, same⟩
    refine ⟨nsp, if ref = other then change socket else socket, listed,
      getElem_modify found ref change, ?_⟩
    split
    · rw [kept, same]
    · exact same
  · rintro ⟨nsp, socket, listed, found, same⟩
    obtain ⟨before, earlier, equal⟩ := getElem_of_modify found
    refine ⟨nsp, before, listed, earlier, ?_⟩
    split at equal
    · rw [← same, equal, kept]
    · rw [← same, equal]

section Changes

variable {view : View} {server : Server} (agrees : view.Agrees server)

include agrees

/-- A connected socket is one reference in one namespace. -/
theorem View.Agrees.unique {nsp other : Text} {ref second : Ref} {id : Text}
    (listed : ref ∈ view.sockets nsp) (own : idOf view.objects ref = some id)
    (again : second ∈ view.sockets other) (same : idOf view.objects second = some id) :
    nsp = other ∧ ref = second := by
  obtain ⟨socket, found, rfl, told, -⟩ := agrees.present nsp ref listed
  obtain ⟨twin, seen, rfl, heard, -⟩ := agrees.present other second again
  rw [idOf_of_getElem found] at own
  rw [idOf_of_getElem seen] at same
  have ids : socket.presence.id = twin.presence.id := Option.some.inj (own.trans same.symm)
  have equal := List.inj_on_of_nodup_map agrees.distinct told heard ids
  have placed : socket.nsp = twin.nsp := congrArg Presence.nsp equal
  refine ⟨placed, List.inj_on_of_nodup_map (agrees.sockets socket.nsp).distinct listed ?_ ?_⟩
  · rw [placed]
    exact again
  · rw [idOf_of_getElem found, idOf_of_getElem seen, own, same]

end Changes

/-! ## Disconnections -/

/-- A socket leaves the lists of its namespace and of its client. -/
def View.disconnect (view : View) (nsp id clientId : Text) (ref : Ref) : View where
  objects := view.objects.modify ref Socket.disconnect
  sockets other :=
    if other = nsp then removeSocket view.objects id (view.sockets other) else view.sockets other
  room := view.room
  client other :=
    if other = clientId then removeSocket view.objects id (view.client other)
    else view.client other

/-- The view after the message, given the object that is found. -/
theorem view_onSocketDisconnected {state : State} (sound : Sound state) (timestamp : Int)
    (nsp id reason : Text) {ref : Ref} {socket : Socket}
    (listed : findSocket state.objects id (state.view.sockets nsp) = some ref)
    (found : state.objects[ref]? = some socket) :
    (onSocketDisconnected state timestamp nsp id reason).view =
      state.view.disconnect nsp id socket.clientId ref := by
  have objects : changeSocket Socket.disconnect id (state.namespaceOf nsp).sockets state.objects =
      state.objects.modify ref Socket.disconnect := changeSocket_of_found listed _
  have clients : (findSocket state.objects id (state.namespaceOf nsp).sockets).bind
      (fun ref => state.objects[ref]?) = some socket :=
    (congrArg (fun ref => Option.bind ref (fun ref => state.objects[ref]?)) listed).trans found
  rw [onSocketDisconnected, view_pushEvents, objects, clients]
  refine (view_updateNamespace state (Namespace.name_dismiss _ id) nsp _ _).trans ?_
  ext1
  · rfl
  · funext other
    rw [View.disconnect]
    dsimp only
    split
    · rename_i same
      rw [same]
      rfl
    · rfl
  · funext other room
    exact ite_apply_self (fun nsp => state.view.room nsp room) nsp other
  · funext other
    refine (clientSockets_removeFromClient sound.clientIds other).trans ?_
    rw [View.disconnect]
    dsimp only
    split
    · rename_i same
      rw [same]
      rfl
    · rfl

/-- A disconnection of a socket that is not shown. -/
theorem view_onSocketDisconnected_absent {state : State} (timestamp : Int) (nsp id reason : Text)
    (absent : findSocket state.objects id (state.view.sockets nsp) = none) :
    (onSocketDisconnected state timestamp nsp id reason).view = state.view := by
  have objects : changeSocket Socket.disconnect id (state.namespaceOf nsp).sockets state.objects =
      state.objects := changeSocket_of_absent absent _
  have clients : (findSocket state.objects id (state.namespaceOf nsp).sockets).bind
      (fun ref => state.objects[ref]?) = none :=
    (congrArg (fun ref => Option.bind ref (fun ref => state.objects[ref]?)) absent).trans rfl
  rw [onSocketDisconnected, view_pushEvents, objects, clients]
  refine (view_updateNamespace state (Namespace.name_dismiss _ id) nsp _ _).trans ?_
  ext1
  · rfl
  · funext other
    refine Eq.trans ?_ (ite_apply_self state.view.sockets nsp other)
    have kept : removeSocket state.objects id (state.view.sockets nsp) = state.view.sockets nsp :=
      Keyed.remove_of_find_none absent
    exact congrArg (fun refs => if other = nsp then refs else state.view.sockets other) kept
  · funext other room
    exact ite_apply_self (fun nsp => state.view.room nsp room) nsp other
  · rfl

section Disconnected

variable {view : View} {nsp : Text} {ref : Ref} {socket : Socket}

theorem View.idOf_disconnect (view : View) (nsp id clientId : Text) (ref : Ref) :
    idOf (view.disconnect nsp id clientId ref).objects = idOf view.objects :=
  idOf_modify (fun _ _ => rfl)

theorem View.getElem_disconnect (view : View) (nsp id clientId : Text) {second : Ref}
    (apart : ref ≠ second) :
    (view.disconnect nsp id clientId ref).objects[second]? = view.objects[second]? :=
  List.getElem?_modify_ne Socket.disconnect view.objects apart

variable {server : Server} (agrees : view.Agrees server) (listed : ref ∈ view.sockets nsp)
  (found : view.objects[ref]? = some socket)

include agrees listed found

/-- The lists of sockets lose the reference. -/
theorem View.Agrees.mem_sockets_disconnect (other : Text) (second : Ref) :
    second ∈ (view.disconnect nsp socket.id socket.clientId ref).sockets other ↔
      second ∈ view.sockets other ∧ ref ≠ second := by
  have own : idOf view.objects ref = some socket.id := idOf_of_getElem found
  rw [View.disconnect]
  dsimp only
  split
  · rw [mem_removeSocket (agrees.sockets other)]
    refine and_congr_right (fun inside => not_congr ?_)
    exact ⟨fun same => (agrees.unique listed own inside same).2, fun same => same ▸ own⟩
  · rename_i apart
    refine ⟨fun inside => ⟨inside, ?_⟩, And.left⟩
    rintro rfl
    exact apart (agrees.unique inside own listed own).1

/-- The clients lose the reference. -/
theorem View.Agrees.mem_client_disconnect (id : Text) (second : Ref) :
    second ∈ (view.disconnect nsp socket.id socket.clientId ref).client id ↔
      second ∈ view.client id ∧ ref ≠ second := by
  have own : idOf view.objects ref = some socket.id := idOf_of_getElem found
  rw [View.disconnect]
  dsimp only
  split
  · rw [mem_removeSocket (agrees.clientRefs id)]
    refine and_congr_right (fun inside => not_congr ?_)
    obtain ⟨other, known, shown, -⟩ := (agrees.clients id second).mp inside
    exact ⟨fun same => (agrees.unique listed own shown same).2, fun same => same ▸ own⟩
  · rename_i apart
    refine ⟨fun inside => ⟨inside, ?_⟩, And.left⟩
    rintro rfl
    obtain ⟨other, known, -, seen, same⟩ := (agrees.clients id ref).mp inside
    obtain rfl : socket = known := Option.some.inj (found.symm.trans seen)
    exact apart same.symm

/-- A socket is in the record as long as it is another one. -/
theorem View.Agrees.mem_tell_disconnect (timestamp : Int) (reason : Text) {other : Text}
    {second : Ref} (inside : second ∈ view.sockets other) {known : Socket}
    (seen : view.objects[second]? = some known) (told : known.presence ∈ server.sockets) :
    known.presence ∈
        (server.tell (.onSocketDisconnected timestamp nsp socket.id reason)).sockets ↔
      ref ≠ second := by
  have own : idOf view.objects ref = some socket.id := idOf_of_getElem found
  have placed : socket.nsp = nsp := (agrees.present_of_getElem listed found).1
  refine List.mem_filter.trans ((and_iff_right told).trans (decide_eq_true_iff.trans ?_))
  refine not_congr ⟨?_, ?_⟩
  · rintro ⟨-, same⟩
    have equal : idOf view.objects second = some socket.id := by
      rw [idOf_of_getElem seen]
      exact congrArg some same
    exact (agrees.unique listed own inside equal).2
  · rintro rfl
    obtain rfl : socket = known := Option.some.inj (found.symm.trans seen)
    exact ⟨placed, rfl⟩

/-- The view agrees with the server that forgot the socket. -/
theorem View.Agrees.disconnect (timestamp : Int) (reason : Text) :
    (view.disconnect nsp socket.id socket.clientId ref).Agrees
      (server.tell (.onSocketDisconnected timestamp nsp socket.id reason)) where
  distinct := agrees.distinct.sublist (List.filter_sublist.map _)
  sockets other := by
    rw [View.idOf_disconnect, View.disconnect]
    dsimp only
    split
    · exact (agrees.sockets other).remove socket.id
    · exact agrees.sockets other
  present other second shown := by
    obtain ⟨inside, apart⟩ := (agrees.mem_sockets_disconnect listed found other second).mp shown
    obtain ⟨known, seen, placed, told, rest⟩ := agrees.present other second inside
    exact ⟨known, (view.getElem_disconnect nsp _ _ apart).trans seen, placed,
      (agrees.mem_tell_disconnect listed found timestamp reason inside seen told).mpr apart, rest⟩
  shown presence told := by
    have before : presence ∈ server.sockets := (List.mem_filter.mp told).1
    obtain ⟨second, inside, known, seen, rfl⟩ := agrees.shown presence before
    have apart : ref ≠ second :=
      (agrees.mem_tell_disconnect listed found timestamp reason inside seen before).mp told
    exact ⟨second, (agrees.mem_sockets_disconnect listed found _ second).mpr ⟨inside, apart⟩,
      known, (view.getElem_disconnect nsp _ _ apart).trans seen, rfl⟩
  rooms other room := by
    rw [View.idOf_disconnect]
    exact agrees.rooms other room
  members other room id := by
    rw [View.idOf_disconnect]
    exact agrees.members other room id
  same other room second inside id known told := by
    rw [View.idOf_disconnect] at known
    obtain ⟨presence, remains, rfl, rfl⟩ := told
    obtain ⟨before, apart⟩ := List.mem_filter.mp remains
    have shown : second ∈ view.sockets presence.nsp :=
      agrees.same presence.nsp room second inside presence.id known ⟨presence, before, rfl, rfl⟩
    refine (agrees.mem_sockets_disconnect listed found _ second).mpr ⟨shown, ?_⟩
    rintro rfl
    have own : idOf view.objects ref = some socket.id := idOf_of_getElem found
    have placed : presence.nsp = nsp := (agrees.unique shown own listed own).1
    exact of_decide_eq_true apart ⟨placed, Option.some.inj (known.symm.trans own)⟩
  clientRefs id := by
    rw [View.idOf_disconnect, View.disconnect]
    dsimp only
    split
    · exact (agrees.clientRefs id).remove socket.id
    · exact agrees.clientRefs id
  clients id second := by
    rw [agrees.mem_client_disconnect listed found, agrees.clients]
    constructor
    · rintro ⟨⟨other, known, inside, seen, same⟩, apart⟩
      exact ⟨other, known,
        (agrees.mem_sockets_disconnect listed found other second).mpr ⟨inside, apart⟩,
        (view.getElem_disconnect nsp _ _ apart).trans seen, same⟩
    · rintro ⟨other, known, shown, seen, same⟩
      obtain ⟨inside, apart⟩ := (agrees.mem_sockets_disconnect listed found other second).mp shown
      rw [view.getElem_disconnect nsp _ _ apart] at seen
      exact ⟨⟨other, known, inside, seen, same⟩, apart⟩

end Disconnected

/-! ## Joins -/

/-- The object joins the room and lists it. -/
def View.join (view : View) (nsp room : Text) (ref : Ref) : View where
  objects := view.objects.modify ref (Socket.pushRoom room)
  sockets := view.sockets
  room other name :=
    if other = nsp ∧ name = room then view.room other name ++ [ref] else view.room other name
  client := view.client

/-- The view after the message, given the object that is found. -/
theorem view_onRoomJoined {state : State} (timestamp : Int) (nsp room id : Text) {ref : Ref}
    (listed : findSocket state.objects id (state.view.sockets nsp) = some ref) :
    (onRoomJoined state timestamp nsp room id).view = state.view.join nsp room ref := by
  have objects : changeSocket (Socket.pushRoom room) id (state.namespaceOf nsp).sockets
      state.objects = state.objects.modify ref (Socket.pushRoom room) :=
    changeSocket_of_found listed _
  have joined : (state.namespaceOf nsp).join state.objects id room =
      { state.namespaceOf nsp with
        rooms := updateRoom (Room.join ref) room (state.namespaceOf nsp).rooms } := by
    have entry : findSocket state.objects id (state.namespaceOf nsp).sockets = some ref := listed
    rw [Namespace.join, entry]
  rw [onRoomJoined, view_pushEvents, objects]
  refine (view_updateNamespace state (Namespace.name_join _ id room) nsp _ _).trans ?_
  rw [joined]
  ext1
  · rfl
  · exact funext (ite_apply_self state.view.sockets nsp)
  · funext other name
    rw [View.join]
    dsimp only
    rw [@roomSockets_update _ (Room.join ref) (fun refs => refs ++ [ref]) (Room.name_join ref)
      (Room.sockets_join ref)]
    by_cases own : other = nsp
    · subst own
      by_cases same : name = room
      · subst same
        simp only [if_true, and_self]
        rfl
      · simp only [if_true, same, and_false, if_false]
        rfl
    · simp only [own, false_and, if_false]
  · rfl

/-- A join of a socket that is not shown. -/
theorem view_onRoomJoined_absent {state : State} (timestamp : Int) (nsp room id : Text)
    (absent : findSocket state.objects id (state.view.sockets nsp) = none) :
    (onRoomJoined state timestamp nsp room id).view = state.view := by
  have objects : changeSocket (Socket.pushRoom room) id (state.namespaceOf nsp).sockets
      state.objects = state.objects := changeSocket_of_absent absent _
  have joined : (state.namespaceOf nsp).join state.objects id room = state.namespaceOf nsp := by
    have entry : findSocket state.objects id (state.namespaceOf nsp).sockets = none := absent
    rw [Namespace.join, entry]
  rw [onRoomJoined, view_pushEvents, objects]
  refine (view_updateNamespace state (Namespace.name_join _ id room) nsp _ _).trans ?_
  rw [joined]
  ext1
  · rfl
  · exact funext (ite_apply_self state.view.sockets nsp)
  · funext other name
    exact ite_apply_self (fun nsp => state.view.room nsp name) nsp other
  · rfl

theorem Socket.presence_pushRoom (room : Text) (socket : Socket) :
    (socket.pushRoom room).presence = socket.presence := by
  rw [Socket.pushRoom]
  split <;> rfl

theorem Socket.clientId_pushRoom (room : Text) (socket : Socket) :
    (socket.pushRoom room).clientId = socket.clientId := by
  rw [Socket.pushRoom]
  split <;> rfl

/-- A room that is new goes to the end of the rooms. -/
theorem Socket.pushRoom_of_fresh {room : Text} {socket : Socket} (outside : room ∉ socket.rooms) :
    socket.pushRoom room = { socket with rooms := socket.rooms ++ [room] } := by
  rw [Socket.pushRoom, if_neg outside]

section Joined

variable {view : View} {server : Server} {nsp room : Text} {ref : Ref} {socket : Socket}

theorem View.idOf_join (view : View) (nsp room : Text) (ref : Ref) :
    idOf (view.join nsp room ref).objects = idOf view.objects :=
  idOf_modify (fun known _ => Socket.pushRoom_id room known)

theorem View.getElem_join (view : View) (nsp room : Text) (ref : Ref) {second : Ref}
    {known : Socket} (seen : view.objects[second]? = some known) :
    (view.join nsp room ref).objects[second]? =
      some (if ref = second then known.pushRoom room else known) :=
  getElem_modify seen ref _

variable (agrees : view.Agrees server)

include agrees

/-- The sockets that are shown stay, with one room more. -/
theorem View.Agrees.shown_join {presence : Presence} (told : presence ∈ server.sockets) :
    ∃ second ∈ (view.join nsp room ref).sockets presence.nsp, ∃ known,
      (view.join nsp room ref).objects[second]? = some known ∧ known.presence = presence := by
  obtain ⟨second, inside, known, seen, rfl⟩ := agrees.shown presence told
  refine ⟨second, inside, _, view.getElem_join nsp room ref seen, ?_⟩
  split
  · exact Socket.presence_pushRoom room known
  · rfl

variable (listed : ref ∈ view.sockets nsp) (found : view.objects[ref]? = some socket)
  (fresh : (⟨nsp, room, socket.id⟩ : Membership) ∉ server.members)

include listed found fresh

/-- The rooms of a shown socket after the join, its own or that of another. -/
theorem View.Agrees.present_join (other : Text) {second : Ref}
    (inside : second ∈ view.sockets other) :
    ∃ known, (view.join nsp room ref).objects[second]? = some known ∧ known.nsp = other ∧
      known.presence ∈ server.sockets ∧ known.connected = true ∧ known.rooms.Nodup ∧
      ∀ name, name ∈ known.rooms ↔
        (⟨other, name, known.id⟩ : Membership) ∈ server.members ++ [⟨nsp, room, socket.id⟩] := by
  have own : idOf view.objects ref = some socket.id := idOf_of_getElem found
  obtain ⟨known, seen, placed, told, connected, distinct, rooms⟩ :=
    agrees.present other second inside
  refine ⟨_, view.getElem_join nsp room ref seen, ?_⟩
  by_cases same : ref = second
  · subst same
    obtain rfl : socket = known := Option.some.inj (found.symm.trans seen)
    obtain rfl : nsp = other := (agrees.unique listed own inside own).1
    have outside : room ∉ socket.rooms := fun inside => fresh ((rooms room).mp inside)
    rw [if_pos rfl, Socket.pushRoom_of_fresh outside]
    refine ⟨placed, told, connected, ?_, ?_⟩
    · exact distinct.append (List.nodup_singleton room) (List.disjoint_singleton.mpr outside)
    · intro name
      simp only [List.mem_append, List.mem_singleton, rooms name, Membership.mk.injEq, true_and,
        and_true]
  · rw [if_neg same]
    refine ⟨placed, told, connected, distinct, ?_⟩
    intro name
    rw [rooms name, List.mem_append, List.mem_singleton]
    refine ⟨Or.inl, fun either => either.resolve_right ?_⟩
    intro equal
    obtain ⟨rfl, -, ids⟩ := Membership.mk.injEq _ _ _ _ _ _ ▸ equal
    have twin : idOf view.objects second = some socket.id := by
      rw [idOf_of_getElem seen, ids]
    exact same (agrees.unique listed own inside twin).2

/-- A room that a socket joined is shown with it. -/
theorem View.Agrees.join : (view.join nsp room ref).Agrees
    { server with members := server.members ++ [⟨nsp, room, socket.id⟩] } where
  distinct := agrees.distinct
  sockets other := by
    rw [View.idOf_join]
    exact agrees.sockets other
  present other _ inside := agrees.present_join listed found fresh other inside
  shown _ told := agrees.shown_join told
  rooms other name := by
    rw [View.idOf_join, View.join]
    dsimp only
    split
    · rename_i both
      obtain ⟨rfl, rfl⟩ := both
      refine (agrees.rooms other name).concat (idOf_of_getElem found) ?_
      intro second inside same
      exact fresh ((agrees.members other name socket.id).mp
        (List.mem_map.mpr ⟨second, inside, same⟩))
    · exact agrees.rooms other name
  members other name id := by
    rw [View.idOf_join, List.mem_append, List.mem_singleton, ← agrees.members other name id,
      View.join]
    dsimp only
    split
    · rename_i both
      obtain ⟨rfl, rfl⟩ := both
      rw [List.map_append, List.mem_append, List.map_singleton, List.mem_singleton,
        idOf_of_getElem found]
      simp only [Option.some.injEq, Membership.mk.injEq, true_and]
    · rename_i apart
      refine ⟨Or.inl, fun either => either.resolve_right ?_⟩
      intro equal
      obtain ⟨rfl, rfl, -⟩ := Membership.mk.injEq _ _ _ _ _ _ ▸ equal
      exact apart ⟨rfl, rfl⟩
  same other name second inside id known told := by
    rw [View.idOf_join] at known
    rw [View.join] at inside
    dsimp only at inside
    split at inside
    · rename_i both
      obtain ⟨rfl, rfl⟩ := both
      rcases List.mem_append.mp inside with before | last
      · exact agrees.same other name second before id known told
      · rw [List.mem_singleton.mp last]
        exact listed
    · exact agrees.same other name second inside id known told
  clientRefs id := by
    rw [View.idOf_join]
    exact agrees.clientRefs id
  clients id second :=
    (agrees.clients id second).trans
      (exists_modify (Socket.clientId_pushRoom room) view.sockets id second)

end Joined

/-! ## Leaves -/

/-- The room loses the id, and the object the room. -/
def View.leave (view : View) (nsp room id : Text) : View where
  objects := changeSocket (Socket.removeRoom room) id (view.sockets nsp) view.objects
  sockets := view.sockets
  room other name :=
    if other = nsp ∧ name = room then removeSocket view.objects id (view.room other name)
    else view.room other name
  client := view.client

/-- The view after the message. -/
theorem view_onRoomLeft {state : State} (sound : Sound state) (timestamp : Int)
    (nsp room id : Text) :
    (onRoomLeft state timestamp nsp room id).view = state.view.leave nsp room id := by
  have distinct : ((state.namespaceOf nsp).rooms.map Room.name).Nodup := by
    rw [State.namespaceOf]
    cases found : Keyed.find Namespace.name nsp state.namespaces with
    | none => exact List.nodup_nil
    | some entry => exact (sound.namespaces entry (Keyed.find_some found).1).roomNames
  rw [onRoomLeft, view_pushEvents]
  refine (view_updateNamespace state (Namespace.name_leave _ id room) nsp _ _).trans ?_
  ext1
  · rfl
  · exact funext (ite_apply_self state.view.sockets nsp)
  · funext other name
    rw [View.leave]
    dsimp only
    rw [roomSockets_leave distinct]
    by_cases own : other = nsp
    · subst own
      by_cases same : name = room
      · subst same
        simp only [if_true, and_self]
        rfl
      · simp only [if_true, same, and_false, if_false]
        rfl
    · simp only [own, false_and, if_false]
  · rfl

/-- What becomes of the object of a shown socket when somebody leaves a room. -/
theorem getElem_leave {view : View} {server : Server} (agrees : view.Agrees server)
    {nsp room id other : Text} {ref : Ref} {socket : Socket} (inside : ref ∈ view.sockets other)
    (found : view.objects[ref]? = some socket) :
    (view.leave nsp room id).objects[ref]? =
      some (if other = nsp ∧ socket.id = id then socket.removeRoom room else socket) := by
  have own : idOf view.objects ref = some socket.id := idOf_of_getElem found
  rw [View.leave]
  dsimp only
  cases search : findSocket view.objects id (view.sockets nsp) with
  | none =>
    rw [changeSocket_of_absent search, found, if_neg]
    rintro ⟨rfl, rfl⟩
    exact Keyed.find_eq_none_iff.mp search ref inside own
  | some known =>
    obtain ⟨listed, same⟩ := findSocket_some search
    rw [changeSocket_of_found search, getElem_modify found]
    apply congrArg some
    by_cases equal : known = ref
    · subst equal
      have placed := (agrees.unique inside own listed own).1
      have ids : socket.id = id := Option.some.inj (own.symm.trans same)
      rw [if_pos rfl, if_pos ⟨placed, ids⟩]
    · rw [if_neg equal, if_neg]
      rintro ⟨rfl, rfl⟩
      exact equal (agrees.unique listed same inside own).2

section Left

variable {view : View} {server : Server} {nsp room id : Text}

theorem View.idOf_leave (view : View) (nsp room id : Text) :
    idOf (view.leave nsp room id).objects = idOf view.objects := by
  apply idOf_changeSocket
  intro socket own
  exact own

/-- The server forgets one membership. -/
theorem Server.mem_tell_leave (server : Server) (timestamp : Int) (nsp room id : Text)
    (other name second : Text) : (⟨other, name, second⟩ : Membership) ∈
      (server.tell (.onRoomLeft timestamp nsp room id)).members ↔
        (⟨other, name, second⟩ : Membership) ∈ server.members ∧
          ¬(other = nsp ∧ name = room ∧ second = id) := by
  simp only [Server.tell, List.mem_filter, ne_eq, decide_eq_true_eq, Membership.mk.injEq]

variable (agrees : view.Agrees server)

include agrees

/-- The room loses the reference with the id. -/
theorem View.Agrees.mem_room_leave (other name : Text) (ref : Ref) :
    ref ∈ (view.leave nsp room id).room other name ↔ ref ∈ view.room other name ∧
      ¬(other = nsp ∧ name = room ∧ idOf view.objects ref = some id) := by
  rw [View.leave]
  dsimp only
  split
  · rename_i own
    rw [mem_removeSocket (agrees.rooms other name)]
    exact and_congr_right (fun _ => not_congr
      ⟨fun same => ⟨own.1, own.2, same⟩, fun both => both.2.2⟩)
  · rename_i apart
    exact ⟨fun inside => ⟨inside, fun both => apart ⟨both.1, both.2.1⟩⟩, And.left⟩

/-- The rooms of a shown socket after somebody has left one. -/
theorem View.Agrees.present_leave (timestamp : Int) (other : Text) {ref : Ref}
    (inside : ref ∈ view.sockets other) :
    ∃ socket, (view.leave nsp room id).objects[ref]? = some socket ∧ socket.nsp = other ∧
      socket.presence ∈ (server.tell (.onRoomLeft timestamp nsp room id)).sockets ∧
      socket.connected = true ∧ socket.rooms.Nodup ∧ ∀ name, name ∈ socket.rooms ↔
        (⟨other, name, socket.id⟩ : Membership) ∈
          (server.tell (.onRoomLeft timestamp nsp room id)).members := by
  obtain ⟨socket, found, placed, told, connected, distinct, rooms⟩ :=
    agrees.present other ref inside
  refine ⟨_, getElem_leave agrees inside found, ?_⟩
  by_cases own : other = nsp ∧ socket.id = id
  · rw [if_pos own]
    refine ⟨placed, told, connected, distinct.erase room, ?_⟩
    intro name
    have erased : name ∈ (socket.removeRoom room).rooms ↔ name ≠ room ∧ name ∈ socket.rooms :=
      distinct.mem_erase_iff
    have member := server.mem_tell_leave timestamp nsp room id other name socket.id
    rw [← rooms name] at member
    refine erased.trans (Iff.trans ?_ member.symm)
    constructor
    · rintro ⟨apart, listed⟩
      exact ⟨listed, fun both => apart both.2.1⟩
    · rintro ⟨listed, apart⟩
      exact ⟨fun same => apart ⟨own.1, same, own.2⟩, listed⟩
  · rw [if_neg own]
    refine ⟨placed, told, connected, distinct, ?_⟩
    intro name
    rw [Server.mem_tell_leave, ← rooms name]
    exact ⟨fun listed => ⟨listed, fun both => own ⟨both.1, both.2.2⟩⟩, And.left⟩

theorem View.Agrees.clients_leave (client : Text) (ref : Ref) :
    ref ∈ view.client client ↔ ∃ other socket, ref ∈ view.sockets other ∧
      (view.leave nsp room id).objects[ref]? = some socket ∧ socket.clientId = client := by
  refine (agrees.clients client ref).trans ?_
  constructor
  · rintro ⟨other, socket, inside, found, same⟩
    refine ⟨other, _, inside, getElem_leave agrees inside found, ?_⟩
    split
    · exact same
    · exact same
  · rintro ⟨other, changed, inside, found, rfl⟩
    obtain ⟨socket, before, -⟩ := agrees.present other ref inside
    have equal := Option.some.inj ((getElem_leave agrees inside before).symm.trans found)
    refine ⟨other, socket, inside, before, ?_⟩
    rw [← equal]
    split
    · rfl
    · rfl

/-- A room that a socket left is shown without it. -/
theorem View.Agrees.leave (timestamp : Int) (nsp room id : Text) :
    (view.leave nsp room id).Agrees (server.tell (.onRoomLeft timestamp nsp room id)) where
  distinct := agrees.distinct
  sockets other := by
    rw [View.idOf_leave]
    exact agrees.sockets other
  present other _ inside := agrees.present_leave timestamp other inside
  shown presence told := by
    obtain ⟨ref, inside, socket, found, same⟩ := agrees.shown presence told
    refine ⟨ref, inside, _, getElem_leave agrees inside found, ?_⟩
    split
    · exact same
    · exact same
  rooms other name := by
    rw [View.idOf_leave, View.leave]
    dsimp only
    split
    · exact (agrees.rooms other name).remove id
    · exact agrees.rooms other name
  members other name second := by
    rw [Server.mem_tell_leave, ← agrees.members, View.idOf_leave, List.mem_map, List.mem_map]
    constructor
    · rintro ⟨ref, listed, same⟩
      obtain ⟨inside, apart⟩ := (agrees.mem_room_leave other name ref).mp listed
      refine ⟨⟨ref, inside, same⟩, ?_⟩
      rintro ⟨own, room, rfl⟩
      exact apart ⟨own, room, same⟩
    · rintro ⟨⟨ref, inside, same⟩, apart⟩
      refine ⟨ref, (agrees.mem_room_leave other name ref).mpr ⟨inside, ?_⟩, same⟩
      rintro ⟨own, room, equal⟩
      exact apart ⟨own, room, Option.some.inj (same.symm.trans equal)⟩
  same other name ref inside second known told := by
    rw [View.idOf_leave] at known
    have earlier := ((agrees.mem_room_leave other name ref).mp inside).1
    exact agrees.same other name ref earlier second known told
  clientRefs other := by
    rw [View.idOf_leave]
    exact agrees.clientRefs other
  clients := agrees.clients_leave

end Left

end WebPubSub.AdminUi
