import WebPubSub.Adapter.MembershipTurns

/-!
# Who a service call is about

A socket keeps the connection it came with, no two sockets of the namespace share one,
and an operation that awaits the service has asked for the connection of its own socket.
So the call of `addAll` or `del` moves that one connection into or out of the groups of
the rooms named, and leaves every other connection as it was.

Group names are told apart by their rooms once the encoder gives the empty text for
the empty text, as the empty room has the bare name of its namespace.
-/

namespace WebPubSub.Adapter

namespace Membership

/-- A connection that gets a socket keeps its groups. -/
theorem lookup_establish_self (service : Service) (connection : Text) :
    (establish service connection).lookup connection = some ((service.lookup connection).getD []) :=
  AList.lookup_insert service

/-- All that the service knows keep theirs. -/
theorem lookup_establish_known {service : Service} {known : Text} {groups : List Text}
    (found : service.lookup known = some groups) (connection : Text) :
    (establish service connection).lookup known = some groups := by
  by_cases same : known = connection
  · subst same
    rw [lookup_establish_self, found]
    rfl
  · rw [establish, AList.lookup_insert_ne same]
    exact found

section Effect

variable (kept : List Text)

/-- The service knows the same connections after a call. -/
theorem mem_apply_iff (request : Request) (service : Service) (connection : Text) :
    connection ∈ request.apply kept service ↔ connection ∈ service := by
  rw [← AList.lookup_isSome, ← AList.lookup_isSome, lookup_apply, Option.isSome_map]

/-- The filter of `addAll` concerns the connection it names. -/
theorem reached_connectionFilter (names : List Text) (eioSid connection : Text)
    (groups : List Text) :
    Reached kept (.addConnectionsToGroups names (connectionFilter eioSid)) connection groups ↔
      connection = eioSid := by
  have starts : connectionTest.isPrefixOf (connectionFilter eioSid) = true := by
    rw [List.isPrefixOf_iff_prefix, connectionFilter, List.append_assoc]
    exact List.prefix_append _ _
  rw [Reached, if_pos (by simpa [ServiceCall.filter] using starts)]
  simp only [ServiceCall.filter, connectionFilter, List.append_left_inj, List.append_right_inj]
  exact eq_comm

end Effect

/-- The connection that a call names by its id. -/
def Request.names (connection : Text) : Request → Bool
  | .addressed (.addConnectionsToGroups _ filter) => decide (filter = connectionFilter connection)
  | .addressed _ => false
  | .removeConnection _ eioSid => decide (eioSid = connection)

section Requests

variable {super : InMemoryAdapter} (base64url : Base64Url) (nsp : Text)
  (getSingleEioEncodedPayload : SioPacket Unit → Option Text) (kept : List Text)

/-- The broadcast of `delAll` moves no connection. -/
theorem groupsAfter_delAll {id connection : Text} {eioSid : Option Text} {request : Request}
    (asked : (Call.delAll id).request base64url nsp getSingleEioEncodedPayload eioSid = some request)
    (groups : List Text) : request.groupsAfter kept connection groups = groups := by
  simp only [Call.request, broadcast, Option.map_eq_some_iff, Option.bind_eq_bind,
    Option.bind_eq_some_iff] at asked
  obtain ⟨call, ⟨payload, -, sent⟩, rfl⟩ := asked
  rw [if_pos (by rfl)] at sent
  obtain rfl := Option.some.inj sent
  rfl

/-- A call that was made without a connection would be the same with one. -/
theorem request_of_none {call : Call} {request : Request}
    (asked : call.request base64url nsp getSingleEioEncodedPayload none = some request)
    (eioSid : Option Text) :
    call.request base64url nsp getSingleEioEncodedPayload eioSid = some request := by
  cases call with
  | addAll id rooms => simp [Call.request] at asked
  | del id room => simp [Call.request] at asked
  | delAll id => exact asked
  | addSockets opts rooms => exact asked
  | delSockets opts rooms => exact asked

/-- What an operation on one socket does to the rooms of its connection. -/
def Call.joined (call : Call) (rooms : JsSet Text) : JsSet Text :=
  match call with
  | .addAll _ added => rooms.addAll added.elements
  | .del _ room => rooms.delete room
  | _ => rooms

/-- The rooms that a call names. -/
def Call.touches (room : Text) : Call → Bool
  | .addAll _ rooms => decide (room ∈ rooms)
  | .del _ other => decide (room = other)
  | .delAll _ => false
  | .addSockets _ rooms | .delSockets _ rooms => decide (room ∈ rooms)

/-- The calls that join. -/
def Call.adds : Call → Bool
  | .addAll _ _ | .addSockets _ _ => true
  | _ => false

/-- An operation joins or leaves the rooms it names and no others. -/
theorem mem_joined {call : Call} {id : Text} (own : call.socket = some id) (rooms : JsSet Text)
    (room : Text) :
    room ∈ call.joined rooms ↔
      if call.touches room = true then call.adds = true else room ∈ rooms := by
  cases call with
  | addAll other added =>
    by_cases named : room ∈ added.elements
    · simp [Call.joined, Call.touches, Call.adds, JsSet.mem_def added, named]
    · simp [Call.joined, Call.touches, JsSet.mem_def added, named]
  | del other left =>
    by_cases named : room = left
    · simp [Call.joined, Call.touches, Call.adds, named]
    · simp [Call.joined, Call.touches, named]
  | delAll other => simp [Call.joined, Call.touches]
  | addSockets opts rooms => simp [Call.socket] at own
  | delSockets opts rooms => simp [Call.socket] at own

/-- The rooms behind a list of group names. -/
theorem mem_groupNames (emptyText : base64url.encode [] = []) (rooms : List Text) (room : Text) :
    getGroupName base64url nsp (some room) ∈
      rooms.map (fun room => getGroupName base64url nsp (some room)) ↔ room ∈ rooms := by
  rw [List.mem_map]
  constructor
  · rintro ⟨other, listed, same⟩
    exact (groupName_inj base64url nsp emptyText).mp same ▸ listed
  · exact fun listed => ⟨room, listed, rfl⟩

/-- The service call of one socket's operation moves its connection into or out of the
groups of the rooms it names. -/
theorem mem_groupsAfter_own (emptyText : base64url.encode [] = []) {call : Call} {id : Text}
    (own : call.socket = some id) {eioSid : Text} {request : Request}
    (asked : call.request base64url nsp getSingleEioEncodedPayload (some eioSid) = some request)
    (groups : List Text) (room : Text) :
    getGroupName base64url nsp (some room) ∈ request.groupsAfter kept eioSid groups ↔
      if call.touches room = true then call.adds = true
      else getGroupName base64url nsp (some room) ∈ groups := by
  cases call with
  | addAll _ added =>
    obtain rfl := Option.some.inj asked
    simp only [Request.groupsAfter]
    rw [if_pos ((reached_connectionFilter kept _ _ _ _).mpr rfl), List.mem_append,
      List.mem_filter, mem_groupNames base64url nsp emptyText, decide_eq_true_eq]
    by_cases named : room ∈ added.elements
    · simp [Call.touches, Call.adds, JsSet.mem_def, named, em]
    · simp [Call.touches, JsSet.mem_def, named]
  | del _ other =>
    obtain rfl := Option.some.inj asked
    have apart : getGroupName base64url nsp (some room) = getGroupName base64url nsp (some other) ↔
        room = other := groupName_inj base64url nsp emptyText
    by_cases named : room = other
    · simp [Request.groupsAfter, Call.touches, Call.adds, named]
    · simp [Request.groupsAfter, Call.touches, apart, named]
  | delAll other =>
    rw [groupsAfter_delAll base64url nsp getSingleEioEncodedPayload kept asked]
    simp [Call.touches]
  | addSockets opts rooms => simp [Call.socket] at own
  | delSockets opts rooms => simp [Call.socket] at own

/-- The service call of a bulk operation leaves the groups of all other rooms. -/
theorem mem_groupsAfter_bulk (emptyText : base64url.encode [] = []) {call : Call}
    (bulk : call.socket = none) {eioSid : Option Text} {request : Request}
    (asked : call.request base64url nsp getSingleEioEncodedPayload eioSid = some request)
    {room : Text} (unnamed : call.touches room = false) (connection : Text) (groups : List Text) :
    getGroupName base64url nsp (some room) ∈ request.groupsAfter kept connection groups ↔
      getGroupName base64url nsp (some room) ∈ groups := by
  cases call with
  | addSockets opts rooms =>
    obtain rfl := Option.some.inj asked
    have absent : room ∉ rooms := by simpa [Call.touches] using unnamed
    simp only [Adapter.addSockets, Request.groupsAfter]
    split
    · rw [List.mem_append, List.mem_filter, mem_groupNames base64url nsp emptyText]
      simp [absent]
    · rfl
  | delSockets opts rooms =>
    obtain rfl := Option.some.inj asked
    have absent : room ∉ rooms := by simpa [Call.touches] using unnamed
    simp only [Adapter.delSockets, Request.groupsAfter]
    split
    · rw [List.mem_filter, decide_eq_true_eq, mem_groupNames base64url nsp emptyText]
      simp [absent]
    · rfl
  | addAll id rooms => simp [Call.socket] at bulk
  | del id room => simp [Call.socket] at bulk
  | delAll id => simp [Call.socket] at bulk

/-- The request of an operation on one socket that names another connection than
`connection`, or none, leaves `connection` alone. -/
theorem groupsAfter_unnamed {call : Call} {id : Text} (own : call.socket = some id)
    {eioSid : Option Text} {connection : Text} {request : Request}
    (asked : call.request base64url nsp getSingleEioEncodedPayload eioSid = some request)
    (unnamed : request.names connection = false) (groups : List Text) :
    request.groupsAfter kept connection groups = groups := by
  cases call with
  | addAll _ added =>
    obtain ⟨named, rfl, rfl⟩ := Option.map_eq_some_iff.mp asked
    simp only [Request.groupsAfter]
    rw [if_neg]
    intro reached
    obtain rfl := (reached_connectionFilter kept _ _ _ _).mp reached
    simp [Request.names] at unnamed
  | del _ other =>
    obtain ⟨named, rfl, rfl⟩ := Option.map_eq_some_iff.mp asked
    have apart : connection ≠ named := by
      rintro rfl
      simp [Request.names] at unnamed
    simp [Request.groupsAfter, apart]
  | delAll other => exact groupsAfter_delAll base64url nsp getSingleEioEncodedPayload kept asked _
  | addSockets opts rooms => simp [Call.socket] at own
  | delSockets opts rooms => simp [Call.socket] at own

/-- It names the connection that was found for its socket. -/
theorem names_asked {call : Call} {id : Text} (own : call.socket = some id)
    {eioSid : Option Text} {connection : Text} {request : Request}
    (asked : call.request base64url nsp getSingleEioEncodedPayload eioSid = some request)
    (named : request.names connection = true) : eioSid = some connection := by
  cases call with
  | addAll _ added =>
    obtain ⟨found, rfl, rfl⟩ := Option.map_eq_some_iff.mp asked
    simp only [Request.names, connectionFilter, decide_eq_true_eq, List.append_left_inj,
      List.append_right_inj] at named
    rw [named]
  | del _ other =>
    obtain ⟨found, rfl, rfl⟩ := Option.map_eq_some_iff.mp asked
    rw [of_decide_eq_true named]
  | delAll other =>
    simp only [Call.request, broadcast, Option.map_eq_some_iff, Option.bind_eq_bind,
      Option.bind_eq_some_iff] at asked
    obtain ⟨call, ⟨payload, -, sent⟩, rfl⟩ := asked
    rw [if_pos (by rfl)] at sent
    obtain rfl := Option.some.inj sent
    simp [Request.names] at named
  | addSockets opts rooms => simp [Call.socket] at own
  | delSockets opts rooms => simp [Call.socket] at own

/-- So it leaves every other connection alone. -/
theorem groupsAfter_other {call : Call} {id : Text} (own : call.socket = some id)
    {eioSid : Option Text} {connection : Text} {request : Request}
    (asked : call.request base64url nsp getSingleEioEncodedPayload eioSid = some request)
    (different : eioSid ≠ some connection) (groups : List Text) :
    request.groupsAfter kept connection groups = groups := by
  apply groupsAfter_unnamed base64url nsp getSingleEioEncodedPayload kept own asked
  rw [← Bool.not_eq_true]
  exact fun named =>
    different (names_asked base64url nsp getSingleEioEncodedPayload own asked named)

/-! ## What an operation does to the record -/

/-- A call changes the rooms recorded for no other socket. -/
theorem recorded_update_other {call : Call} {id : Text} (other : call.socket ≠ some id)
    (ok connected : Bool) (memory : InMemory) :
    (call.update super ok connected memory).recorded id = memory.recorded id := by
  cases call with
  | addAll own rooms =>
    have different : id ≠ own := fun same => other (by rw [same]; rfl)
    simp only [Call.update]
    split
    · rw [super.recorded_addAll, if_neg different]
    · rfl
  | del own room =>
    have different : id ≠ own := fun same => other (by rw [same]; rfl)
    simp only [Call.update]
    split
    · rw [super.recorded_del, if_neg different]
    · rfl
  | delAll own =>
    have different : id ≠ own := fun same => other (by rw [same]; rfl)
    rw [Call.update, InMemory.recorded_of_erased (super.sids_delAll memory own), if_neg different]
  | addSockets opts rooms => rfl
  | delSockets opts rooms => rfl

/-- A succeeded `addAll` or `del` of a connected socket is recorded. -/
theorem recorded_update_own {call : Call} {id : Text} (own : call.socket = some id)
    (staying : call ≠ .delAll id) (memory : InMemory) :
    (call.update super true true memory).recorded id = call.joined (memory.recorded id) := by
  cases call with
  | addAll other rooms =>
    obtain rfl : other = id := Option.some.inj own
    simp [Call.update, super.recorded_addAll, Call.joined]
  | del other room =>
    obtain rfl : other = id := Option.some.inj own
    simp [Call.update, super.recorded_del, Call.joined]
  | delAll other =>
    obtain rfl : other = id := Option.some.inj own
    exact absurd rfl staying
  | addSockets opts rooms => simp [Call.socket] at own
  | delSockets opts rooms => simp [Call.socket] at own

/-- A failed one changes nothing. -/
theorem update_failed {call : Call} (staying : ∀ id, call ≠ .delAll id) (connected : Bool)
    (memory : InMemory) : call.update super false connected memory = memory := by
  cases call with
  | delAll id => exact absurd rfl (staying id)
  | _ => rfl

/-! ## Identities -/

/-- Sockets, connections and outstanding service calls belong together. -/
structure Identities (state : State) : Prop where
  named : ∀ id eioSid, state.sockets.lookup id = some eioSid → state.known.lookup id = some eioSid
  carried : ∀ eioSid, eioSid ∈ state.service ↔ ∃ id, state.known.lookup id = some eioSid
  single : ∀ id other eioSid, state.sockets.lookup id = some eioSid →
    state.sockets.lookup other = some eioSid → id = other
  asked : ∀ (number : Nat) (operation : Operation) (request : Request),
    state.operations[number]? = some operation → operation.phase = .calling request →
    operation.call.request base64url nsp getSingleEioEncodedPayload
      (operation.call.socket.bind state.known.lookup) = some request

theorem identities_initial :
    Identities base64url nsp getSingleEioEncodedPayload State.initial where
  named := by simp [State.initial]
  carried := by simp [State.initial]
  single := by simp [State.initial]
  asked := by simp [State.initial]

variable {base64url nsp getSingleEioEncodedPayload}
variable {state : State}

namespace Identities

/-- Only the tables of ids and connections and the outstanding calls matter. -/
theorem congr (identities : Identities base64url nsp getSingleEioEncodedPayload state)
    {next : State} (sockets : next.sockets = state.sockets) (known : next.known = state.known)
    (service : ∀ eioSid, eioSid ∈ next.service ↔ eioSid ∈ state.service)
    (operations : ∀ (number : Nat) (operation : Operation) (request : Request),
      next.operations[number]? = some operation → operation.phase = .calling request →
      state.operations[number]? = some operation ∨
        operation.call.request base64url nsp getSingleEioEncodedPayload
          (operation.call.socket.bind state.known.lookup) = some request) :
    Identities base64url nsp getSingleEioEncodedPayload next where
  named := by
    rw [sockets, known]
    exact identities.named
  carried eioSid := by
    rw [service, known]
    exact identities.carried eioSid
  single := by
    rw [sockets]
    exact identities.single
  asked number operation request found called := by
    rw [known]
    cases operations number operation request found called with
    | inl old => exact identities.asked number operation request old called
    | inr new => exact new

/-- The service call of an operation is the same after a step: ids that come are new,
and a call made without a connection does not depend on it. -/
theorem request_step {event : Event} {next : State} {outputs : List Output}
    (stepped : Step super base64url nsp getSingleEioEncodedPayload kept state event next outputs)
    {call : Call} {request : Request}
    (asked : call.request base64url nsp getSingleEioEncodedPayload
      (call.socket.bind state.known.lookup) = some request) :
    call.request base64url nsp getSingleEioEncodedPayload
      (call.socket.bind next.known.lookup) = some request := by
  cases stepped with
  | connect id eioSid newId single =>
    cases own : call.socket with
    | none => simpa [own] using asked
    | some other =>
      simp only [own, Option.bind_some] at asked ⊢
      by_cases same : other = id
      · subst same
        rw [AList.lookup_eq_none.mpr newId] at asked
        exact request_of_none base64url nsp getSingleEioEncodedPayload asked _
      · rwa [AList.lookup_insert_ne same]
  | _ => simpa using asked

/-- Calls of methods that begin with a wait add no outstanding service call. -/
theorem enterAll (identities : Identities base64url nsp getSingleEioEncodedPayload state)
    (calls : List Call) :
    Identities base64url nsp getSingleEioEncodedPayload (state.enterAll calls) := by
  apply identities.congr
  · exact state.sockets_enterAll calls
  · exact state.known_enterAll calls
  · simp
  · intro number operation request found called
    rw [State.operations_enterAll] at found
    rcases Ledger.getElem?_append_cases found with ⟨-, new⟩ | old
    · obtain ⟨call, -, rfl⟩ := List.mem_map.mp new
      simp at called
    · exact Or.inl old

/-- An operation that moves on without an outstanding service call. -/
theorem settle (identities : Identities base64url nsp getSingleEioEncodedPayload state)
    (number : Nat) (operation : Operation) (settled : ∀ request, operation.phase ≠ .calling request)
    {next : State} (sockets : next.sockets = state.sockets) (known : next.known = state.known)
    (service : ∀ eioSid, eioSid ∈ next.service ↔ eioSid ∈ state.service)
    (operations : next.operations = state.operations.set number operation) :
    Identities base64url nsp getSingleEioEncodedPayload next := by
  apply identities.congr sockets known service
  intro other entry request found called
  rw [operations] at found
  rcases Ledger.getElem?_set_cases found with ⟨-, rfl⟩ | ⟨-, old⟩
  · exact absurd called (settled request)
  · exact Or.inl old

/-- A socket with a new id and a connection without one. -/
theorem connect (identities : Identities base64url nsp getSingleEioEncodedPayload state)
    {id eioSid : Text} (newId : id ∉ state.known)
    (single : ∀ other, state.sockets.lookup other ≠ some eioSid) :
    Identities base64url nsp getSingleEioEncodedPayload
      { state with
        sockets := state.sockets.insert id eioSid
        known := state.known.insert id eioSid
        service := establish state.service eioSid } := by
  have fresh : state.known.lookup id = none := AList.lookup_eq_none.mpr newId
  have lookup (table : AList (fun _ : Text => Text)) (other : Text) :
      (table.insert id eioSid).lookup other =
        if other = id then some eioSid else table.lookup other := by
    by_cases same : other = id
    · subst same
      simp
    · simp [same, AList.lookup_insert_ne same]
  constructor
  case named =>
    intro other connection
    simp only [lookup]
    by_cases same : other = id
    · simp [same]
    · rw [if_neg same, if_neg same]
      exact identities.named other connection
  case carried =>
    intro connection
    simp only [lookup, establish, AList.mem_insert, identities.carried]
    constructor
    · rintro (rfl | ⟨other, carried⟩)
      · exact ⟨id, if_pos rfl⟩
      · refine ⟨other, ?_⟩
        rw [if_neg (by rintro rfl; simp [fresh] at carried)]
        exact carried
    · rintro ⟨other, carried⟩
      by_cases same : other = id
      · rw [if_pos same] at carried
        exact Or.inl (Option.some.inj carried).symm
      · rw [if_neg same] at carried
        exact Or.inr ⟨other, carried⟩
  case single =>
    intro left right connection
    simp only [lookup]
    by_cases sameLeft : left = id <;> by_cases sameRight : right = id
    · simp [sameLeft, sameRight]
    · rw [if_pos sameLeft, if_neg sameRight]
      intro equal carried
      exact absurd (carried.trans equal.symm) (single right)
    · rw [if_neg sameLeft, if_pos sameRight]
      intro carried equal
      exact absurd (carried.trans equal.symm) (single left)
    · rw [if_neg sameLeft, if_neg sameRight]
      exact identities.single left right connection
  case asked =>
    intro number operation request found called
    have connected : Step inMemoryAdapter base64url nsp getSingleEioEncodedPayload [] state _ _ _ :=
      .connect id eioSid newId single
    exact request_step [] connected (identities.asked number operation request found called)

/-- Every step keeps the identities. -/
theorem step (identities : Identities base64url nsp getSingleEioEncodedPayload state)
    {event : Event} {next : State} {outputs : List Output}
    (stepped : Step super base64url nsp getSingleEioEncodedPayload kept state event next outputs) :
    Identities base64url nsp getSingleEioEncodedPayload next := by
  cases stepped with
  | connect id eioSid newId single => exact identities.connect newId single
  | callSocket call id own => exact identities.enterAll [call]
  | callBulk call request bulk asked =>
    apply identities.congr (by simp) (by simp) (by simp)
    intro number operation other found called
    rw [State.operations_enter] at found
    rcases Ledger.getElem?_concat_cases found with ⟨-, rfl⟩ | old
    · obtain rfl : request = other := by simpa using called
      refine Or.inr ?_
      simp only [bulk]
      exact asked
    · exact Or.inl old
  | disconnect id present =>
    have entered := identities.enterAll [.delAll id]
    have before (other connection : Text)
        (found : (state.sockets.erase id).lookup other = some connection) :
        state.sockets.lookup other = some connection := by
      have different : other ≠ id := by
        rintro rfl
        simp at found
      rwa [AList.lookup_erase_ne different] at found
    constructor
    case named =>
      intro other connection found
      simpa using identities.named other connection (before other connection found)
    case carried => exact entered.carried
    case single =>
      intro left right connection foundLeft foundRight
      exact identities.single left right connection (before left connection foundLeft)
        (before right connection foundRight)
    case asked => exact entered.asked
  | lockedAsks number operation id request found own waited turn asked =>
    apply identities.congr
    case sockets => rfl
    case known => rfl
    case service => exact fun _ => Iff.rfl
    intro other entry called located phase
    rcases Ledger.getElem?_set_cases located with ⟨-, rfl⟩ | ⟨-, old⟩
    case inr => exact Or.inl old
    · obtain rfl : request = called := by simpa using phase
      refine Or.inr ?_
      simp only [own, Option.bind_some]
      cases looked : state.sockets.lookup id with
      | none =>
        rw [looked] at asked
        exact request_of_none base64url nsp getSingleEioEncodedPayload asked _
      | some eioSid =>
        rw [identities.named id eioSid looked, ← looked]
        exact asked
  | lockedSilent number operation id found leaving waited turn =>
    exact identities.settle number _ (by simp) rfl rfl (fun _ => Iff.rfl) rfl
  | lockedThrows number operation id found own waited turn staying unfound =>
    exact identities.settle number { operation with phase := .finished false } (by simp)
      (by simp) (by simp) (by simp) (by simp)
  | answered number ok operation request found called service effect =>
    apply identities.settle number
      { operation with phase := .answered ok, changed := changes state.service service } (by simp)
    case sockets => rfl
    case known => rfl
    case operations => rfl
    intro eioSid
    cases ok with
    | false => rw [effect]; rfl
    | true => rw [effect]; exact mem_apply_iff kept request state.service eioSid
  | resumed number ok operation found answer =>
    apply enterAll
    exact identities.settle number { operation with phase := .finished ok } (by simp)
      (by simp) (by simp) (by simp) (by simp)

end Identities

/-- Every step keeps the two maps of the in-memory adapter consistent. -/
theorem consistent_step {event : Event} {next : State} {outputs : List Output}
    (consistent : state.memory.Consistent)
    (stepped : Step super base64url nsp getSingleEioEncodedPayload kept state event next outputs) :
    next.memory.Consistent := by
  cases stepped with
  | connect id eioSid newId single => exact consistent
  | callSocket call id own => simpa using consistent
  | callBulk call request bulk asked => simpa using consistent
  | disconnect id present => simpa using consistent
  | lockedAsks number operation id request found own waited turn asked => exact consistent
  | lockedSilent number operation id found leaving waited turn => exact consistent
  | lockedThrows number operation id found own waited turn staying unfound => simpa using consistent
  | answered number ok operation request found called service effect => exact consistent
  | resumed number ok operation found answer =>
    rw [State.memory_enterAll, State.memory_finish]
    cases operation.call with
    | addAll id rooms =>
      simp only [Call.update]
      split
      · exact super.consistent_addAll _ consistent id rooms
      · exact consistent
    | del id room =>
      simp only [Call.update]
      split
      · exact super.consistent_del _ consistent id room
      · exact consistent
    | delAll id => exact super.consistent_delAll _ consistent id
    | addSockets opts rooms => exact consistent
    | delSockets opts rooms => exact consistent

end Requests

end Membership

end WebPubSub.Adapter
