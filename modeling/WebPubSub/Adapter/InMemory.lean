import Mathlib.Data.List.AList
import WebPubSub.Library.JsSet
import WebPubSub.Adapter.Filter

/-!
# The in-memory adapter

The adapter of `socket.io-adapter` that this one extends keeps two maps, from a
socket to its rooms and from a room to its sockets. Its bulk operations select
sockets by the Socket.IO rule: in one of the given rooms, or anywhere when none is
given, and in no excepted room. It notifies listeners of rooms that appear and
disappear; nothing here listens.

A map is an association list, whose keys are not in insertion order; the order in
which sockets are visited only orders operations of different sockets.

That package is outside the repository. What is relied on in its methods stands in
`InMemoryAdapter`; the methods written out here are one that has it.
-/

namespace WebPubSub.Adapter

/-- `sids` and `rooms` of `Adapter`. -/
structure InMemory where
  sids : AList (fun _ : Text => JsSet Text)
  rooms : AList (fun _ : Text => JsSet Text)
deriving DecidableEq

namespace InMemory

def empty : InMemory := ⟨∅, ∅⟩

/-- The rooms recorded for a socket. -/
def recorded (memory : InMemory) (id : Text) : JsSet Text :=
  (memory.sids.lookup id).getD .empty

/-- The sockets recorded for a room. -/
def members (memory : InMemory) (room : Text) : JsSet Text :=
  (memory.rooms.lookup room).getD .empty

/-- One turn of the loop of `addAll`. -/
def addRoom (id : Text) (memory : InMemory) (room : Text) : InMemory where
  sids := memory.sids.insert id ((memory.recorded id).add room)
  rooms := memory.rooms.insert room ((memory.members room).add id)

/-- `addAll`. -/
def addAll (memory : InMemory) (id : Text) (rooms : JsSet Text) : InMemory :=
  let memory := if id ∈ memory.sids then memory
    else { memory with sids := memory.sids.insert id .empty }
  rooms.elements.foldl (addRoom id) memory

/-- `_del`. A room without sockets is removed. -/
def leave (memory : InMemory) (room id : Text) : InMemory :=
  match memory.rooms.lookup room with
  | none => memory
  | some sockets =>
      let sockets := sockets.delete id
      { memory with
        rooms := if sockets.elements = [] then memory.rooms.erase room
          else memory.rooms.insert room sockets }

/-- `del`. -/
def del (memory : InMemory) (id room : Text) : InMemory :=
  let memory := match memory.sids.lookup id with
    | some rooms => { memory with sids := memory.sids.insert id (rooms.delete room) }
    | none => memory
  memory.leave room id

/-- `delAll`. -/
def delAll (memory : InMemory) (id : Text) : InMemory :=
  match memory.sids.lookup id with
  | none => memory
  | some rooms =>
      let memory := rooms.elements.foldl (fun memory room => memory.leave room id) memory
      { memory with sids := memory.sids.erase id }

/-- `computeExceptSids`. -/
def computeExceptSids (memory : InMemory) (except : Option RoomSet) : List Text :=
  (excepted except).flatMap (fun room => (memory.members room).elements)

/-- The inner loop of `apply`: visit a socket that was not visited, is not excepted
and is still in the namespace. -/
def visit (except connected ids : List Text) (id : Text) : List Text :=
  if id ∈ ids ∨ id ∈ except ∨ id ∉ connected then ids else ids ++ [id]

/-- `apply`: the sockets on which the callback is called, in order. -/
def apply (memory : InMemory) (connected : List Text) (opts : BroadcastOptions) : List Text :=
  let except := memory.computeExceptSids opts.except
  if opts.rooms.size ≠ 0 then
    opts.rooms.rooms.foldl (fun ids room =>
      (memory.members room).elements.foldl (visit except connected) ids) []
  else memory.sids.keys.filter (fun id => decide (id ∉ except ∧ id ∈ connected))

/-! ## The two maps agree -/

/-- Both maps tell of the same memberships. -/
def Consistent (memory : InMemory) : Prop :=
  ∀ id room, id ∈ memory.members room ↔ room ∈ memory.recorded id

theorem consistent_empty : empty.Consistent := by
  intro id room
  simp [empty, members, recorded]

theorem recorded_addRoom (memory : InMemory) (id other room : Text) :
    (memory.addRoom id room).recorded other =
      if other = id then (memory.recorded id).add room else memory.recorded other := by
  by_cases same : other = id
  · subst same
    simp [recorded, addRoom]
  · simp [recorded, addRoom, same, AList.lookup_insert_ne same]

theorem members_addRoom (memory : InMemory) (id room other : Text) :
    (memory.addRoom id room).members other =
      if other = room then (memory.members room).add id else memory.members other := by
  by_cases same : other = room
  · subst same
    simp [members, addRoom]
  · simp [members, addRoom, same, AList.lookup_insert_ne same]

theorem consistent_addRoom {memory : InMemory} (consistent : memory.Consistent) (id room : Text) :
    (memory.addRoom id room).Consistent := by
  intro other place
  rw [recorded_addRoom, members_addRoom]
  by_cases sameSocket : other = id
  · by_cases sameRoom : place = room
    · simp [sameSocket, sameRoom]
    · simp [sameSocket, sameRoom, consistent id place]
  · by_cases sameRoom : place = room
    · simp [sameSocket, sameRoom, consistent other room]
    · simp [sameSocket, sameRoom, consistent other place]

/-- `addAll` adds its rooms to the recorded ones, in order. -/
theorem recorded_addAll (memory : InMemory) (id : Text) (rooms : JsSet Text) (other : Text) :
    (memory.addAll id rooms).recorded other =
      if other = id then (memory.recorded id).addAll rooms.elements
      else memory.recorded other := by
  have loop (places : List Text) (memory : InMemory) :
      (places.foldl (addRoom id) memory).recorded other =
        if other = id then (memory.recorded id).addAll places else memory.recorded other := by
    induction places generalizing memory with
    | nil => by_cases same : other = id <;> simp [same, JsSet.addAll]
    | cons room rest inductionHypothesis =>
      rw [List.foldl_cons, inductionHypothesis, recorded_addRoom, recorded_addRoom, if_pos rfl]
      by_cases same : other = id
      · rw [if_pos same, if_pos same]
        rfl
      · simp [same]
  rw [addAll, loop]
  by_cases known : id ∈ memory.sids
  · simp [known]
  · have absent : memory.sids.lookup id = none := AList.lookup_eq_none.mpr known
    by_cases same : other = id
    · simp [known, same, recorded, absent]
    · simp [known, same, recorded, AList.lookup_insert_ne same]

theorem consistent_addAll {memory : InMemory} (consistent : memory.Consistent) (id : Text)
    (rooms : JsSet Text) : (memory.addAll id rooms).Consistent := by
  have loop (places : List Text) (memory : InMemory) (consistent : memory.Consistent) :
      (places.foldl (addRoom id) memory).Consistent := by
    induction places generalizing memory with
    | nil => exact consistent
    | cons room rest inductionHypothesis =>
      exact inductionHypothesis _ (consistent_addRoom consistent id room)
  apply loop
  split
  case isTrue known => exact consistent
  case isFalse unknown =>
    have absent : memory.sids.lookup id = none := AList.lookup_eq_none.mpr unknown
    intro other room
    rw [show members { memory with sids := memory.sids.insert id .empty } room =
      memory.members room from rfl, consistent other room]
    by_cases same : other = id
    · subst same
      simp [recorded, absent]
    · simp [recorded, AList.lookup_insert_ne same]

theorem members_leave (memory : InMemory) (room id other socket : Text) :
    socket ∈ (memory.leave room id).members other ↔
      socket ∈ memory.members other ∧ ¬ (other = room ∧ socket = id) := by
  cases found : memory.rooms.lookup room with
  | none =>
    have vacant : memory.members room = .empty := by simp [members, found]
    simp only [leave, found]
    constructor
    · intro inside
      refine ⟨inside, fun both => ?_⟩
      rw [both.1, vacant] at inside
      exact JsSet.notMem_empty _ inside
    · exact And.left
  | some sockets =>
    have here : memory.members room = sockets := by simp [members, found]
    simp only [leave, found]
    by_cases same : other = room
    · subst same
      have left : (InMemory.mk memory.sids
          (if (sockets.delete id).elements = [] then memory.rooms.erase other
            else memory.rooms.insert other (sockets.delete id))).members other =
            sockets.delete id := by
        by_cases vacant : (sockets.delete id).elements = []
        · rw [if_pos vacant, JsSet.eq_empty_of_elements vacant]
          simp [members]
        · simp [members, vacant]
      rw [left, here, JsSet.mem_delete]
      simp
    · have kept : (InMemory.mk memory.sids
          (if (sockets.delete id).elements = [] then memory.rooms.erase room
            else memory.rooms.insert room (sockets.delete id))).members other =
            memory.members other := by
        by_cases vacant : (sockets.delete id).elements = []
        · simp [members, vacant, AList.lookup_erase_ne same]
        · simp [members, vacant, AList.lookup_insert_ne same]
      rw [kept]
      simp [same]

@[simp]
theorem sids_leave (memory : InMemory) (room id : Text) :
    (memory.leave room id).sids = memory.sids := by
  rw [leave]
  split <;> rfl

/-- `del` removes its room from the recorded ones. -/
theorem recorded_del (memory : InMemory) (id room other : Text) :
    (memory.del id room).recorded other =
      if other = id then (memory.recorded id).delete room else memory.recorded other := by
  simp only [del, recorded, sids_leave]
  by_cases same : other = id
  · subst same
    cases found : memory.sids.lookup other with
    | none =>
      simp only [found, if_true]
      rfl
    | some rooms => simp
  · cases memory.sids.lookup id with
    | none => simp [same]
    | some rooms => simp [same, AList.lookup_insert_ne same]

theorem consistent_del {memory : InMemory} (consistent : memory.Consistent) (id room : Text) :
    (memory.del id room).Consistent := by
  intro other place
  have here : (memory.del id room).members place =
      (memory.leave room id).members place := by
    simp only [del]
    cases memory.sids.lookup id with
    | none => rfl
    | some rooms =>
      simp only [leave, members]
      cases memory.rooms.lookup room <;> rfl
  rw [here, members_leave, recorded_del, consistent other place]
  by_cases same : other = id
  · simp [same]
  · simp [same]

/-- `delAll` forgets the socket. -/
theorem sids_delAll (memory : InMemory) (id : Text) :
    (memory.delAll id).sids = memory.sids.erase id := by
  have loop (places : List Text) (memory : InMemory) :
      (places.foldl (fun memory room => memory.leave room id) memory).sids = memory.sids := by
    induction places generalizing memory with
    | nil => rfl
    | cons room rest inductionHypothesis =>
      rw [List.foldl_cons, inductionHypothesis, sids_leave]
  rw [delAll]
  cases found : memory.sids.lookup id with
  | none =>
    apply AList.ext
    exact (List.kerase_of_notMem_keys (AList.lookup_eq_none.mp found)).symm
  | some rooms => simp [loop]

/-- Nothing is recorded for a socket that was taken out, and all else stays. -/
theorem recorded_of_erased {memory after : InMemory} {id : Text}
    (erased : after.sids = memory.sids.erase id) (other : Text) :
    after.recorded other = if other = id then .empty else memory.recorded other := by
  rw [recorded, erased]
  by_cases same : other = id
  · subst same
    simp
  · simp [same, recorded, AList.lookup_erase_ne same]

theorem consistent_delAll {memory : InMemory} (consistent : memory.Consistent) (id : Text) :
    (memory.delAll id).Consistent := by
  have loop (places : List Text) (memory : InMemory) (socket room : Text) :
      socket ∈ (places.foldl (fun memory room => memory.leave room id) memory).members room ↔
        socket ∈ memory.members room ∧ ¬ (room ∈ places ∧ socket = id) := by
    induction places generalizing memory with
    | nil => simp
    | cons place rest inductionHypothesis =>
      rw [List.foldl_cons, inductionHypothesis, members_leave, List.mem_cons, and_assoc,
        or_and_right, not_or]
  intro other room
  rw [recorded_of_erased (sids_delAll memory id)]
  cases found : memory.sids.lookup id with
  | none =>
    have vacant : memory.recorded id = .empty := by simp [recorded, found]
    rw [show memory.delAll id = memory by simp [delAll, found], consistent other room]
    by_cases same : other = id
    · simp [same, vacant]
    · simp [same]
  | some rooms =>
    have here : memory.recorded id = rooms := by simp [recorded, found]
    have left : other ∈ (memory.delAll id).members room ↔
        other ∈ memory.members room ∧ ¬ (room ∈ rooms.elements ∧ other = id) := by
      rw [← loop rooms.elements memory other room]
      simp [delAll, found, members]
    rw [left, consistent other room]
    by_cases same : other = id
    · subst same
      rw [if_pos rfl, here]
      simp [JsSet.mem_def rooms]
    · simp [same]

/-! ## Who is recorded -/

/-- Only `addAll` records a socket. -/
theorem mem_sids_addAll (memory : InMemory) (id : Text) (rooms : JsSet Text) (other : Text) :
    other ∈ (memory.addAll id rooms).sids ↔ other = id ∨ other ∈ memory.sids := by
  have loop (places : List Text) (memory : InMemory) (known : id ∈ memory.sids) :
      other ∈ (places.foldl (addRoom id) memory).sids ↔ other ∈ memory.sids := by
    induction places generalizing memory with
    | nil => rfl
    | cons room rest inductionHypothesis =>
      have grown : id ∈ (memory.addRoom id room).sids := by simp [addRoom]
      rw [List.foldl_cons, inductionHypothesis _ grown, addRoom, AList.mem_insert]
      constructor
      · rintro (rfl | inside)
        · exact known
        · exact inside
      · exact Or.inr
  rw [addAll]
  by_cases known : id ∈ memory.sids
  · rw [if_pos known, loop _ _ known]
    constructor
    · exact Or.inr
    · rintro (rfl | inside)
      · exact known
      · exact inside
  · rw [if_neg known, loop _ _ (by simp), AList.mem_insert]

theorem mem_sids_del (memory : InMemory) (id room other : Text) :
    other ∈ (memory.del id room).sids ↔ other ∈ memory.sids := by
  simp only [del, sids_leave]
  cases found : memory.sids.lookup id with
  | none => rfl
  | some rooms =>
    have known : id ∈ memory.sids := AList.lookup_isSome.mp (by rw [found]; rfl)
    rw [AList.mem_insert]
    constructor
    · rintro (rfl | inside)
      · exact known
      · exact inside
    · exact Or.inr

/-- A socket that is not recorded is in no set of `rooms`. -/
theorem unmentioned {memory : InMemory} (consistent : memory.Consistent) {id : Text}
    (unknown : id ∉ memory.sids) {room : Text} {sockets : JsSet Text}
    (found : memory.rooms.lookup room = some sockets) : id ∉ sockets := by
  have nowhere : memory.recorded id = .empty := by
    rw [recorded, AList.lookup_eq_none.mpr unknown]
    rfl
  have here : memory.members room = sockets := by simp [members, found]
  rw [← here, consistent id room, nowhere]
  exact JsSet.notMem_empty room

/-- `apply` visits a socket of the namespace that no exception names and that is in one
of the rooms, or anywhere if there are none. -/
theorem mem_apply {memory : InMemory} (consistent : memory.Consistent) (connected : List Text)
    (opts : BroadcastOptions) (id : Text) :
    id ∈ memory.apply connected opts ↔ id ∈ connected ∧
      (∀ room ∈ excepted opts.except, room ∉ memory.recorded id) ∧
      (if opts.rooms.size = 0 then id ∈ memory.sids
        else ∃ room ∈ opts.rooms.rooms, room ∈ memory.recorded id) := by
  have exempt : id ∈ memory.computeExceptSids opts.except ↔
      ∃ room ∈ excepted opts.except, room ∈ memory.recorded id := by
    simp only [computeExceptSids, List.mem_flatMap, ← JsSet.mem_def, consistent id]
  have members (except : List Text) (sockets ids : List Text) :
      id ∈ sockets.foldl (visit except connected) ids ↔
        id ∈ ids ∨ id ∈ sockets ∧ id ∉ except ∧ id ∈ connected := by
    induction sockets generalizing ids with
    | nil => simp
    | cons socket rest inductionHypothesis =>
      rw [List.foldl_cons, inductionHypothesis, visit]
      by_cases passed : socket ∈ ids ∨ socket ∈ except ∨ socket ∉ connected
      · rw [if_pos passed]
        grind
      · rw [if_neg passed]
        grind
  have rooms (except places ids : List Text) :
      id ∈ places.foldl (fun ids room =>
          (memory.members room).elements.foldl (visit except connected) ids) ids ↔
        id ∈ ids ∨ (∃ room ∈ places, room ∈ memory.recorded id) ∧
          id ∉ except ∧ id ∈ connected := by
    induction places generalizing ids with
    | nil => simp
    | cons room rest inductionHypothesis =>
      rw [List.foldl_cons, inductionHypothesis, members, ← JsSet.mem_def, consistent id room]
      grind
  simp only [apply]
  by_cases anywhere : opts.rooms.size = 0
  · rw [if_neg (by simp [anywhere]), if_pos anywhere, List.mem_filter, AList.mem_keys,
      decide_eq_true_eq, exempt]
    grind
  · rw [if_pos anywhere, if_neg anywhere, rooms, exempt]
    grind

end InMemory

/-! ## What is relied on -/

/-- The methods of the extended adapter that this one calls, with what they do. `apply`
gives the sockets that the Socket.IO rule selects. -/
structure InMemoryAdapter where
  addAll : InMemory → Text → JsSet Text → InMemory
  del : InMemory → Text → Text → InMemory
  delAll : InMemory → Text → InMemory
  apply : InMemory → List Text → BroadcastOptions → List Text
  recorded_addAll : ∀ memory id rooms other, (addAll memory id rooms).recorded other =
    if other = id then (memory.recorded id).addAll rooms.elements else memory.recorded other
  recorded_del : ∀ memory id room other, (del memory id room).recorded other =
    if other = id then (memory.recorded id).delete room else memory.recorded other
  sids_delAll : ∀ memory id, (delAll memory id).sids = memory.sids.erase id
  mem_sids_addAll : ∀ memory id rooms other,
    other ∈ (addAll memory id rooms).sids ↔ other = id ∨ other ∈ memory.sids
  mem_sids_del : ∀ memory id room other, other ∈ (del memory id room).sids ↔ other ∈ memory.sids
  consistent_addAll : ∀ memory, memory.Consistent → ∀ id rooms, (addAll memory id rooms).Consistent
  consistent_del : ∀ memory, memory.Consistent → ∀ id room, (del memory id room).Consistent
  consistent_delAll : ∀ memory, memory.Consistent → ∀ id, (delAll memory id).Consistent
  mem_apply : ∀ memory, memory.Consistent → ∀ connected opts id,
    id ∈ apply memory connected opts ↔ id ∈ connected ∧
      (∀ room ∈ excepted opts.except, room ∉ memory.recorded id) ∧
      (if opts.rooms.size = 0 then id ∈ memory.sids
        else ∃ room ∈ opts.rooms.rooms, room ∈ memory.recorded id)

/-- The adapter of `socket.io-adapter`. -/
def inMemoryAdapter : InMemoryAdapter where
  addAll := InMemory.addAll
  del := InMemory.del
  delAll := InMemory.delAll
  apply := InMemory.apply
  recorded_addAll := InMemory.recorded_addAll
  recorded_del := InMemory.recorded_del
  sids_delAll := InMemory.sids_delAll
  mem_sids_addAll := InMemory.mem_sids_addAll
  mem_sids_del := InMemory.mem_sids_del
  consistent_addAll _ := InMemory.consistent_addAll
  consistent_del _ := InMemory.consistent_del
  consistent_delAll _ := InMemory.consistent_delAll
  mem_apply _ := InMemory.mem_apply

end WebPubSub.Adapter
