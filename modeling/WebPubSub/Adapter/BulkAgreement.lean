import WebPubSub.Adapter.MembershipRecord

/-!
# Bulk joins and leaves

A bulk operation is applied twice: by the service, to the connections that its filter
selects when the call takes effect, and then through `join` and `leave`, to the
sockets that the in-memory adapter selects when the answer has arrived. What the
second application does it does on both sides, by calls of its own, so all that
matters is whether it covers the first: a connection that the service has moved and
whose socket is not selected any more keeps groups that are not recorded.

For one socket and one room, every operation under way plays one of three roles. It
is due while its service call is still to come, which will settle both sides. A bulk
operation is owed from the moment the service has moved the connection until it is
applied here, when a join or leave becomes due. An operation of the socket is half
done between its service call and its record. Without any of them the two sides agree.
-/

namespace WebPubSub.Adapter.Membership

/-- What an operation under way means for one socket and one room. -/
inductive Role where
  | due
  | owed
  | half (adds : Bool)
deriving DecidableEq

/-- The role of an operation, for the room and for the socket with its connection. -/
def Operation.role (id eioSid room : Text) (operation : Operation) : Option Role :=
  if operation.call.touches room = true then
    match operation.call.socket, operation.phase with
    | some own, .waiting | some own, .calling _ => if own = id then some .due else none
    | some own, .answered true => if own = id then some (.half operation.call.adds) else none
    | none, .answered true => if eioSid ∈ operation.changed then some .owed else none
    | _, _ => none
  else none

/-- The two sides agree, or an operation under way will make them. -/
def Reconciled (roles : List Role) (joined recorded : Prop) : Prop :=
  .due ∈ roles ∨ .owed ∈ roles ∨ (∃ adds, .half adds ∈ roles ∧ (joined ↔ adds = true)) ∨
    ((∀ adds, .half adds ∉ roles) ∧ (joined ↔ recorded))

/-- Joins and leaves, of single sockets and in bulk, with every call succeeding. -/
def Joining (_ : State) : Event → Prop
  | .call (.delAll _) | .disconnect _ => False
  | .answered _ ok => ok = true
  | _ => True

/-- The options of a bulk operation. -/
def Call.options : Call → Option BroadcastOptions
  | .addSockets opts _ | .delSockets opts _ => some opts
  | _ => none

section Covering

variable (super : InMemoryAdapter)

/-- Every socket whose connection a bulk operation has moved at the service is among
those that the in-memory adapter selects now. -/
def SelectsChanged (state : State) (operation : Operation) : Prop :=
  ∀ opts ∈ operation.call.options, ∀ id ∈ state.sockets.keys,
    (state.sockets.lookup id).any (fun eioSid => decide (eioSid ∈ operation.changed)) = true →
      id ∈ super.apply state.memory state.sockets.keys opts

/-- No bulk operation resumes while it leaves out a socket that the service moved. -/
def Covers (state : State) : Event → Prop
  | .resumed number => ∀ operation ∈ state.operations[number]?, SelectsChanged super state operation
  | _ => True

instance (state : State) (operation : Operation) :
    Decidable (SelectsChanged super state operation) :=
  inferInstanceAs (Decidable (∀ opts ∈ operation.call.options, ∀ id ∈ state.sockets.keys,
    (state.sockets.lookup id).any (fun eioSid => decide (eioSid ∈ operation.changed)) = true →
      id ∈ super.apply state.memory state.sockets.keys opts))

instance (state : State) (event : Event) : Decidable (Covers super state event) := by
  unfold Covers
  split <;> infer_instance

end Covering

instance (state : State) (event : Event) : Decidable (Joining state event) := by
  unfold Joining
  split <;> infer_instance

section Roles

variable {id eioSid room : Text}

/-- An operation that does not name the room has no role. -/
theorem role_untouched {operation : Operation} (untouched : operation.call.touches room = false) :
    operation.role id eioSid room = none := by
  simp [Operation.role, untouched]

/-- Neither has an operation of another socket. -/
theorem role_other {operation : Operation} {own : Text} (owned : operation.call.socket = some own)
    (different : own ≠ id) : operation.role id eioSid room = none := by
  simp only [Operation.role, owned]
  split
  · cases operation.phase with
    | waiting => simp [different]
    | calling request => simp [different]
    | answered ok => cases ok <;> simp [different]
    | finished ok => rfl
  · rfl

/-- An operation that has ended has no role. -/
theorem role_finished (call : Call) (ok : Bool) (changed : List Text) :
    (Operation.mk call (.finished ok) changed).role id eioSid room = none := by
  simp only [Operation.role]
  cases call.socket <;> simp

/-- An operation that only waits is due or has no role. -/
theorem role_waiting {call : Call} {role : Role}
    (plays : (Operation.mk call .waiting []).role id eioSid room = some role) : role = .due := by
  simp only [Operation.role] at plays
  split at plays
  · cases own : call.socket with
    | none => simp [own] at plays
    | some other =>
      simp only [own, Option.ite_none_right_eq_some, Option.some.injEq] at plays
      exact plays.2.symm
  · simp at plays

/-- A half-done operation is one of the socket, between its service call and its record. -/
theorem role_half {operation : Operation} {adds : Bool}
    (plays : operation.role id eioSid room = some (.half adds)) :
    operation.call.socket = some id ∧ operation.phase = .answered true ∧
      operation.call.touches room = true ∧ adds = operation.call.adds := by
  simp only [Operation.role] at plays
  split at plays
  case isFalse => simp at plays
  case isTrue touches =>
    split at plays
    case h_1 => simp at plays
    case h_2 => simp at plays
    case h_3 own owned answered =>
      rw [Option.ite_none_right_eq_some] at plays
      obtain ⟨rfl, same⟩ := plays
      exact ⟨owned, answered, touches, (Role.half.inj (Option.some.inj same)).symm⟩
    case h_4 => simp at plays
    case h_5 => simp at plays

/-- An owed operation is a bulk operation of the room that moved the connection. -/
theorem role_owed {operation : Operation} (plays : operation.role id eioSid room = some .owed) :
    operation.call.socket = none ∧ operation.phase = .answered true ∧
      operation.call.touches room = true ∧ eioSid ∈ operation.changed := by
  simp only [Operation.role] at plays
  split at plays
  case isFalse => simp at plays
  case isTrue touches =>
    split at plays
    case h_1 => simp at plays
    case h_2 => simp at plays
    case h_3 => simp at plays
    case h_4 bulk answered =>
      rw [Option.ite_none_right_eq_some] at plays
      exact ⟨bulk, answered, touches, plays.1⟩
    case h_5 => simp at plays

/-- Operations that only wait keep the two sides reconciled. -/
theorem Reconciled.append_waiting {operations : List Operation} {joined recorded : Prop}
    (reconciled : Reconciled (operations.filterMap (Operation.role id eioSid room)) joined recorded)
    (calls : List Call) :
    Reconciled ((operations ++ calls.map (fun call => Operation.mk call .waiting [])).filterMap
      (Operation.role id eioSid room)) joined recorded := by
  rw [List.filterMap_append]
  have dues : ∀ role ∈ (calls.map (fun call => Operation.mk call .waiting [])).filterMap
      (Operation.role id eioSid room), role = .due := by
    intro role member
    rw [List.filterMap_map, List.mem_filterMap] at member
    obtain ⟨call, -, plays⟩ := member
    exact role_waiting plays
  rcases reconciled with due | owed | ⟨adds, half, agree⟩ | ⟨none, agree⟩
  · exact Or.inl (List.mem_append_left _ due)
  · exact Or.inr (Or.inl (List.mem_append_left _ owed))
  · exact Or.inr (Or.inr (Or.inl ⟨adds, List.mem_append_left _ half, agree⟩))
  · refine Or.inr (Or.inr (Or.inr ⟨fun adds member => ?_, agree⟩))
    cases List.mem_append.mp member with
    | inl before => exact none adds before
    | inr new => exact absurd (dues _ new) (by simp)

end Roles

section Agreement

variable {super : InMemoryAdapter} {base64url : Base64Url} {nsp : Text}
  {getSingleEioEncodedPayload : SioPacket Unit → Option Text} {kept : List Text}

variable (base64url nsp) in
/-- Every connected socket is reconciled in every room. -/
def Tracked (state : State) : Prop :=
  ∀ id eioSid, state.sockets.lookup id = some eioSid →
    ∃ groups, state.service.lookup eioSid = some groups ∧ ∀ room,
      Reconciled (state.operations.filterMap (Operation.role id eioSid room))
        (getGroupName base64url nsp (some room) ∈ groups) (room ∈ state.memory.recorded id)

/-- Two half-done operations of one socket are the same one, the holder of its mutex. -/
theorem half_unique {state : State} (turns : Turns state) {id eioSid room : Text}
    {number other : Nat} {operation entry : Operation} {adds also : Bool}
    (found : state.operations[number]? = some operation)
    (half : operation.role id eioSid room = some (.half adds))
    (located : state.operations[other]? = some entry)
    (second : entry.role id eioSid room = some (.half also)) : other = number ∧ also = adds := by
  obtain ⟨own, answered, -, rfl⟩ := role_half half
  obtain ⟨ownOther, answeredOther, -, rfl⟩ := role_half second
  have first := turns.turn number operation id found own (by simp [answered])
    (by simp [answered, Phase.isFinished])
  have again := turns.turn other entry id located ownOther (by simp [answeredOther])
    (by simp [answeredOther, Phase.isFinished])
  obtain rfl : other = number := Option.some.inj (again.symm.trans first)
  obtain rfl : operation = entry := Option.some.inj (found.symm.trans located)
  exact ⟨rfl, rfl⟩

/-- A connection whose groups differ after a call is counted as changed by it. -/
theorem mem_changes {before after : Service} {connection : Text} {groups : List Text}
    (found : before.lookup connection = some groups)
    (different : after.lookup connection ≠ some groups) : connection ∈ changes before after := by
  rw [changes, List.mem_filter, decide_eq_true_eq]
  constructor
  · exact AList.mem_keys.mp (AList.lookup_isSome.mp (by rw [found]; rfl))
  · rw [found]
    exact fun same => different same.symm

/-- A per-socket operation of a connected socket finds its connection. -/
theorem request_ne_none {call : Call} {id : Text} (own : call.socket = some id)
    (staying : ∀ id, call ≠ .delAll id) (eioSid : Text) :
    call.request base64url nsp getSingleEioEncodedPayload (some eioSid) ≠ none := by
  cases call with
  | addAll other rooms => simp [Call.request]
  | del other room => simp [Call.request]
  | delAll other => exact absurd rfl (staying other)
  | addSockets opts rooms => simp [Call.socket] at own
  | delSockets opts rooms => simp [Call.socket] at own

/-- The answer to a service call. The operation of the socket itself becomes half done
when it names the room; a bulk operation becomes owed when it moved the connection; all
others leave the connection alone. -/
theorem reconciled_answered (emptyText : base64url.encode [] = []) {state : State}
    (identities : Identities base64url nsp getSingleEioEncodedPayload state)
    (staying : state.known = state.sockets)
    {id eioSid : Text} (connected : state.sockets.lookup id = some eioSid) {number : Nat}
    {operation : Operation} {request : Request}
    (found : state.operations[number]? = some operation)
    (called : operation.phase = .calling request) {groups : List Text}
    (looked : state.service.lookup eioSid = some groups) (room : Text) {recorded : Prop}
    (reconciled : Reconciled (state.operations.filterMap (Operation.role id eioSid room))
      (getGroupName base64url nsp (some room) ∈ groups) recorded) :
    Reconciled ((state.operations.set number { operation with
        phase := .answered true
        changed := changes state.service (request.apply kept state.service) }).filterMap
          (Operation.role id eioSid room))
      (getGroupName base64url nsp (some room) ∈ request.groupsAfter kept eioSid groups)
      recorded := by
  have known := identities.named id eioSid connected
  have asked := identities.asked number operation request found called
  have unmoved {entry : Operation} (same : entry.role id eioSid room = operation.role id eioSid room)
      (unchanged : getGroupName base64url nsp (some room) ∈ request.groupsAfter kept eioSid groups ↔
        getGroupName base64url nsp (some room) ∈ groups) :
      Reconciled ((state.operations.set number entry).filterMap (Operation.role id eioSid room))
        (getGroupName base64url nsp (some room) ∈ request.groupsAfter kept eioSid groups)
        recorded := by
    rw [Ledger.filterMap_set_of_same _ found same, unchanged]
    exact reconciled
  cases named : operation.call.touches room with
  | false =>
    apply unmoved
    · rw [role_untouched named]
      exact role_untouched named
    · cases owned : operation.call.socket with
      | none =>
        exact mem_groupsAfter_bulk base64url nsp getSingleEioEncodedPayload kept emptyText owned
          asked named eioSid groups
      | some owner =>
        rw [owned, Option.bind_some] at asked
        by_cases same : owner = id
        · subst same
          rw [known] at asked
          rw [mem_groupsAfter_own base64url nsp getSingleEioEncodedPayload kept emptyText owned
            asked, named]
          simp
        · rw [groupsAfter_other base64url nsp getSingleEioEncodedPayload kept owned asked
            (fun equal => same (identities.single owner id eioSid (staying ▸ equal) connected))]
  | true =>
    cases owned : operation.call.socket with
    | none =>
      by_cases moved : eioSid ∈ changes state.service (request.apply kept state.service)
      · have owed : (Operation.mk operation.call (.answered true)
            (changes state.service (request.apply kept state.service))).role id eioSid room =
            some .owed := by
          simp [Operation.role, named, owned, moved]
        exact Or.inr (Or.inl ((Ledger.mem_filterMap_set _ found _ _).mpr (Or.inl owed)))
      · have stayed : request.groupsAfter kept eioSid groups = groups := by
          by_contra different
          apply moved
          apply mem_changes looked
          rw [lookup_apply, looked]
          exact fun same => different (Option.some.inj same)
        apply unmoved
        · simp [Operation.role, owned, moved, called]
        · rw [stayed]
    | some owner =>
      rw [owned, Option.bind_some] at asked
      by_cases same : owner = id
      · subst same
        rw [known] at asked
        have half : (Operation.mk operation.call (.answered true)
            (changes state.service (request.apply kept state.service))).role owner eioSid room =
            some (.half operation.call.adds) := by
          simp [Operation.role, named, owned]
        refine Or.inr (Or.inr (Or.inl ⟨operation.call.adds, ?_, ?_⟩))
        · exact (Ledger.mem_filterMap_set _ found _ _).mpr (Or.inl half)
        · rw [mem_groupsAfter_own base64url nsp getSingleEioEncodedPayload kept emptyText owned
            asked, if_pos named]
      · apply unmoved
        · rw [role_other owned same]
          exact role_other owned same
        · rw [groupsAfter_other base64url nsp getSingleEioEncodedPayload kept owned asked
            (fun equal => same (identities.single owner id eioSid (staying ▸ equal) connected))]

/-- The end of a per-socket operation that succeeded. What it did at the service it now
does to the record, so a half-done operation leaves agreement behind. -/
theorem reconciled_resumed {state : State} (turns : Turns state) {id eioSid room : Text}
    {number : Nat} {operation : Operation} (found : state.operations[number]? = some operation)
    (own : operation.call.socket = some id) (answer : operation.phase = .answered true)
    (entry : Operation) (ended : entry.role id eioSid room = none)
    {joined : Prop}
    (reconciled : Reconciled (state.operations.filterMap (Operation.role id eioSid room))
      joined (room ∈ state.memory.recorded id)) :
    Reconciled ((state.operations.set number entry).filterMap (Operation.role id eioSid room))
      joined (room ∈ operation.call.joined (state.memory.recorded id)) := by
  rw [mem_joined own]
  cases named : operation.call.touches room with
  | false =>
    have idle : entry.role id eioSid room = operation.role id eioSid room := by
      rw [ended, role_untouched named]
    rw [Ledger.filterMap_set_of_same _ found idle]
    simpa using reconciled
  | true =>
    have half : operation.role id eioSid room = some (.half operation.call.adds) := by
      simp [Operation.role, named, own, answer]
    have member : .half operation.call.adds ∈
        state.operations.filterMap (Operation.role id eioSid room) :=
      (Ledger.mem_filterMap_iff _ _ _).mpr ⟨number, operation, found, half⟩
    rw [if_pos rfl]
    rcases reconciled with due | owed | ⟨adds, listed, agree⟩ | ⟨none, -⟩
    · exact Or.inl (Ledger.mem_filterMap_set_of_ne _ found _ (by simp [half]) due)
    · exact Or.inr (Or.inl (Ledger.mem_filterMap_set_of_ne _ found _ (by simp [half]) owed))
    · obtain ⟨other, second, located, plays⟩ := (Ledger.mem_filterMap_iff _ _ _).mp listed
      obtain ⟨-, rfl⟩ := half_unique turns found half located plays
      refine Or.inr (Or.inr (Or.inr ⟨fun also remains => ?_, agree⟩))
      rcases (Ledger.mem_filterMap_set _ found _ _).mp remains with new | ⟨k, third, apart, at_, play⟩
      · simp [ended] at new
      · exact apart (half_unique turns found half at_ play).1
    · exact absurd member (none _)

/-- The end of a bulk operation. If it is owed for the socket, the socket is selected, so
a join or leave of it becomes due. -/
theorem reconciled_triggered {state : State} {id eioSid room : Text}
    (connected : state.sockets.lookup id = some eioSid) {number : Nat} {operation : Operation}
    (found : state.operations[number]? = some operation) (bulk : operation.call.socket = none)
    {ok : Bool} (answer : operation.phase = .answered ok)
    (covers : SelectsChanged super state operation) (entry : Operation)
    (ended : entry.role id eioSid room = none) {joined recorded : Prop}
    (reconciled : Reconciled (state.operations.filterMap (Operation.role id eioSid room))
      joined recorded) :
    Reconciled ((state.operations.set number entry ++
      (operation.call.triggered super ok state.memory state.sockets.keys).map
        (fun call => Operation.mk call .waiting [])).filterMap (Operation.role id eioSid room))
      joined recorded := by
  by_cases owed : operation.role id eioSid room = some .owed
  · obtain ⟨-, answered, touches, moved⟩ := role_owed owed
    obtain rfl : ok = true := Phase.answered.inj (answer.symm.trans answered)
    have present : id ∈ state.sockets.keys :=
      AList.mem_keys.mp (AList.lookup_isSome.mp (by rw [connected]; rfl))
    have selected (opts : BroadcastOptions) (given : operation.call.options = some opts) :
        id ∈ super.apply state.memory state.sockets.keys opts := by
      apply covers opts given id present
      simp [connected, moved]
    have due : ∃ call ∈ operation.call.triggered super true state.memory state.sockets.keys,
        call.socket = some id ∧ call.touches room = true := by
      cases call : operation.call with
      | addSockets opts rooms =>
        refine ⟨.addAll id (.ofList rooms), ?_, rfl, ?_⟩
        · simp only [Call.triggered, if_true, List.mem_map]
          exact ⟨id, selected opts (by rw [call]; rfl), rfl⟩
        · simpa [call, Call.touches] using touches
      | delSockets opts rooms =>
        refine ⟨.del id room, ?_, rfl, by simp [Call.touches]⟩
        simp only [Call.triggered, if_true, List.mem_flatMap, List.mem_map]
        refine ⟨id, selected opts (by rw [call]; rfl), room, ?_, rfl⟩
        simpa [call, Call.touches] using touches
      | addAll other rooms => simp [call, Call.socket] at bulk
      | del other left => simp [call, Call.socket] at bulk
      | delAll other => simp [call, Call.socket] at bulk
    obtain ⟨call, made, own, named⟩ := due
    apply Or.inl
    rw [List.filterMap_append, List.mem_append, List.filterMap_map]
    apply Or.inr
    rw [List.mem_filterMap]
    exact ⟨call, made, by simp [Operation.role, own, named]⟩
  · have idle : operation.role id eioSid room = none := by
      cases plays : operation.role id eioSid room with
      | none => rfl
      | some role =>
        simp only [Operation.role, bulk, answer] at plays owed
        cases ok <;> simp_all
    apply Reconciled.append_waiting
    rw [Ledger.filterMap_set_of_same _ found (ended.trans idle.symm)]
    exact reconciled

/-- The end of a per-socket operation, for every socket. -/
theorem reconciled_settled {state : State} (turns : Turns state) (leavers : Leavers state)
    {id eioSid room : Text} (connected : state.sockets.lookup id = some eioSid) {number : Nat}
    {operation : Operation} (found : state.operations[number]? = some operation) {owner : Text}
    (owned : operation.call.socket = some owner) {ok : Bool}
    (answer : operation.phase = .answered ok) (entry : Operation)
    (ended : entry.role id eioSid room = none) {joined : Prop}
    (reconciled : Reconciled (state.operations.filterMap (Operation.role id eioSid room))
      joined (room ∈ state.memory.recorded id)) :
    Reconciled ((state.operations.set number entry).filterMap (Operation.role id eioSid room))
      joined (room ∈ (operation.call.update super ok (state.connected operation.call)
        state.memory).recorded id) := by
  by_cases same : owner = id
  · subst same
    have staying : ∀ other, operation.call ≠ .delAll other := by
      intro other leaving
      obtain rfl : other = owner := by simpa [leaving, Call.socket] using owned
      have left := (leavers operation (List.mem_of_getElem? found) other leaving).2
      exact left (AList.lookup_isSome.mp (by rw [connected]; rfl))
    cases ok with
    | false =>
      have idle : operation.role owner eioSid room = none := by
        simp [Operation.role, answer, owned]
      rw [update_failed staying, Ledger.filterMap_set_of_same _ found (ended.trans idle.symm)]
      exact reconciled
    | true =>
      have present : state.connected operation.call = true := by
        have inside : owner ∈ state.sockets :=
          AList.lookup_isSome.mp (by rw [connected]; rfl)
        simp [State.connected, owned, inside]
      rw [present, recorded_update_own owned (staying owner)]
      exact reconciled_resumed turns found owned answer _ ended reconciled
  · have elsewhere : operation.call.socket ≠ some id := by
      rw [owned]
      exact fun equal => same (Option.some.inj equal)
    have idle : operation.role id eioSid room = none := role_other owned same
    rw [recorded_update_other elsewhere,
      Ledger.filterMap_set_of_same _ found (ended.trans idle.symm)]
    exact reconciled

/-- An operation that moves on in the same role leaves every socket reconciled. -/
theorem Tracked.amend {state next : State} (tracked : Tracked base64url nsp state) {number : Nat}
    {operation entry : Operation} (found : state.operations[number]? = some operation)
    (sockets : next.sockets = state.sockets) (service : next.service = state.service)
    (memory : next.memory = state.memory)
    (operations : next.operations = state.operations.set number entry)
    (same : ∀ id eioSid room, state.sockets.lookup id = some eioSid →
      entry.role id eioSid room = operation.role id eioSid room) : Tracked base64url nsp next := by
  intro id eioSid connected
  rw [sockets] at connected
  obtain ⟨groups, looked, agree⟩ := tracked id eioSid connected
  rw [service, operations, memory]
  refine ⟨groups, looked, fun room => ?_⟩
  rw [Ledger.filterMap_set_of_same _ found (same id eioSid room connected)]
  exact agree room

/-- Without a disconnect, every socket that came is still in the namespace. -/
theorem staying_step {state next : State} {event : Event} {outputs : List Output}
    (staying : state.known = state.sockets) (allowed : Joining state event)
    (stepped : Step super base64url nsp getSingleEioEncodedPayload kept state event next outputs) :
    next.known = next.sockets := by
  cases stepped with
  | connect id eioSid newId single => exact congrArg (fun table => table.insert id eioSid) staying
  | disconnect id present => exact absurd allowed not_false
  | _ => simpa using staying

/-- Every step of joins and leaves that leaves no moved socket out keeps every socket
reconciled in every room. -/
theorem Tracked.step (emptyText : base64url.encode [] = []) {state next : State} {event : Event}
    {outputs : List Output} (tracked : Tracked base64url nsp state) (turns : Turns state)
    (identities : Identities base64url nsp getSingleEioEncodedPayload state)
    (staying : state.known = state.sockets) (leavers : Leavers state)
    (unanswered : Unanswered state) (records : RecordsApplied state)
    (allowed : Joining state event) (covers : Covers super state event)
    (stepped : Step super base64url nsp getSingleEioEncodedPayload kept state event next outputs) :
    Tracked base64url nsp next := by
  intro id eioSid connectedNext
  cases stepped with
  | connect other connection newId single =>
    by_cases own : id = other
    · subst own
      obtain rfl : connection = eioSid := by simpa using connectedNext
      have unused : state.service.lookup connection = none := by
        rw [AList.lookup_eq_none, identities.carried, staying]
        rintro ⟨other, carried⟩
        exact single other carried
      refine ⟨[], by simp [lookup_establish_self, unused], fun room => ?_⟩
      refine Or.inr (Or.inr (Or.inr ⟨fun adds member => ?_, ?_⟩))
      · obtain ⟨number, operation, found, plays⟩ := (Ledger.mem_filterMap_iff _ _ _).mp member
        obtain ⟨owned, answered, -, -⟩ := role_half plays
        exact newId (unanswered.known found owned (by rw [answered]; rfl))
      · simp [records.unknown unanswered newId]
    · have before : state.sockets.lookup id = some eioSid := by
        rwa [AList.lookup_insert_ne own] at connectedNext
      obtain ⟨groups, looked, agree⟩ := tracked id eioSid before
      exact ⟨groups, lookup_establish_known looked connection, agree⟩
  | callSocket call other own =>
    rw [State.sockets_enter] at connectedNext
    obtain ⟨groups, looked, agree⟩ := tracked id eioSid connectedNext
    rw [State.service_enter, State.operations_enter, State.memory_enter]
    exact ⟨groups, looked, fun room => (agree room).append_waiting [call]⟩
  | callBulk call request bulk asked =>
    rw [State.sockets_enter] at connectedNext
    obtain ⟨groups, looked, agree⟩ := tracked id eioSid connectedNext
    rw [State.service_enter, State.operations_enter, State.memory_enter]
    refine ⟨groups, looked, fun room => ?_⟩
    have idle : (Operation.mk call (.calling request) []).role id eioSid room = none := by
      simp [Operation.role, bulk]
    rw [List.filterMap_append, List.filterMap_cons, idle, List.filterMap_nil, List.append_nil]
    exact agree room
  | disconnect other present => exact absurd allowed not_false
  | lockedAsks number operation other request found own waited turn asked =>
    have moved : Tracked base64url nsp
        (state.amend number { operation with phase := .calling request }) := by
      refine tracked.amend found rfl rfl rfl rfl ?_
      intro id eioSid room _
      simp [Operation.role, own, waited]
    exact moved id eioSid connectedNext
  | lockedSilent number operation other found leaving waited turn =>
    have moved : Tracked base64url nsp
        (state.amend number { operation with phase := .answered false }) := by
      refine tracked.amend found rfl rfl rfl rfl ?_
      intro id eioSid room _
      have untouched : operation.call.touches room = false := by rw [leaving]; rfl
      rw [role_untouched untouched]
      exact role_untouched untouched
    exact moved id eioSid connectedNext
  | lockedThrows number operation other found own waited turn staying unfound =>
    refine tracked.amend found (State.sockets_finish ..) (State.service_finish ..)
      (State.memory_finish ..) (State.operations_finish ..) ?_ id eioSid connectedNext
    intro id eioSid room connected
    have different : other ≠ id := by
      rintro rfl
      rw [connected] at unfound
      exact request_ne_none own staying eioSid unfound
    rw [role_other own different]
    exact role_other own different
  | answered number ok operation request found called service effect =>
    obtain rfl : ok = true := allowed
    have applied : service = request.apply kept state.service := effect
    obtain ⟨groups, looked, agree⟩ := tracked id eioSid connectedNext
    refine ⟨request.groupsAfter kept eioSid groups, ?_, fun room => ?_⟩
    · rw [applied, lookup_apply, looked]
      rfl
    · rw [applied]
      exact reconciled_answered emptyText identities staying connectedNext found called looked room
        (agree room)
  | resumed number ok operation found answer =>
    rw [State.sockets_enterAll, State.sockets_finish] at connectedNext
    obtain ⟨groups, looked, agree⟩ := tracked id eioSid connectedNext
    rw [State.service_enterAll, State.service_finish, State.operations_enterAll,
      State.operations_finish, State.memory_enterAll, State.memory_finish]
    refine ⟨groups, looked, fun room => ?_⟩
    have ended : (Operation.mk operation.call (.finished ok) operation.changed).role id eioSid
        room = none := role_finished _ _ _
    cases owned : operation.call.socket with
    | none =>
      rw [recorded_update_other (by simp [owned])]
      exact reconciled_triggered connectedNext found owned answer (covers operation found) _ ended
        (agree room)
    | some owner =>
      apply Reconciled.append_waiting
      exact reconciled_settled turns leavers connectedNext found owned answer _ ended (agree room)

/-- What such runs keep. -/
structure Reconciling (state : State) : Prop where
  turns : Turns state
  identities : Identities base64url nsp getSingleEioEncodedPayload state
  staying : state.known = state.sockets
  leavers : Leavers state
  unanswered : Unanswered state
  records : RecordsApplied state
  tracked : Tracked base64url nsp state

theorem reconciling_of_run (emptyText : base64url.encode [] = []) {events : List Event}
    {state : State} {outputs : List Output}
    (met : (machine super base64url nsp getSingleEioEncodedPayload kept).Meets
      (fun state event => Joining state event ∧ Covers super state event) State.initial events)
    (ran : (machine super base64url nsp getSingleEioEncodedPayload kept).run State.initial events =
      some (state, outputs)) :
    @Reconciling base64url nsp getSingleEioEncodedPayload state := by
  refine Machine.invariant_meets _ (@Reconciling base64url nsp getSingleEioEncodedPayload) ?_ ?_
    met ran
  · rintro state event next outputs held ⟨allowed, covers⟩ stepped
    have made := step_inv super base64url nsp getSingleEioEncodedPayload kept stepped
    constructor
    · exact held.turns.step made
    · exact held.identities.step kept made
    · exact staying_step held.staying allowed made
    · apply held.leavers.step held.identities ?_ made
      rintro id rfl
      exact allowed
    · exact held.unanswered.step held.leavers held.identities made
    · exact held.records.step held.turns held.leavers held.unanswered made
    · exact held.tracked.step emptyText held.turns held.identities held.staying held.leavers
        held.unanswered held.records allowed covers made
  · constructor
    · exact turns_initial
    · exact identities_initial base64url nsp getSingleEioEncodedPayload
    · rfl
    · simp [Leavers, State.initial]
    · exact fun id _ => rfl
    · exact fun id _ => rfl
    · intro id eioSid found
      simp [State.initial] at found

end Agreement

/-- Bulk membership agreement. In every run of joins and leaves, of single sockets and in
bulk, with every service call succeeding and no bulk operation leaving out a socket that
the service moved for it: once every operation has ended, the rooms recorded for a socket
are the rooms whose groups have its connection. -/
theorem bulk_membership_agrees (super : InMemoryAdapter) (base64url : Base64Url) (nsp : Text)
    (getSingleEioEncodedPayload : SioPacket Unit → Option Text) (kept : List Text)
    (emptyText : base64url.encode [] = []) {events : List Event} {state : State}
    {outputs : List Output}
    (met : (machine super base64url nsp getSingleEioEncodedPayload kept).Meets
      (fun state event => Joining state event ∧ Covers super state event) State.initial events)
    (ran : (machine super base64url nsp getSingleEioEncodedPayload kept).run State.initial events =
      some (state, outputs))
    (settled : ∀ operation ∈ state.operations, operation.phase.isFinished = true) :
    ∀ id eioSid, state.sockets.lookup id = some eioSid →
      ∃ groups, state.service.lookup eioSid = some groups ∧
        ∀ room, getGroupName base64url nsp (some room) ∈ groups ↔
          room ∈ state.memory.recorded id := by
  intro id eioSid connected
  obtain ⟨groups, looked, reconciled⟩ := (reconciling_of_run emptyText met ran).tracked id eioSid
    connected
  refine ⟨groups, looked, fun room => ?_⟩
  have idle : state.operations.filterMap (Operation.role id eioSid room) = [] := by
    rw [List.filterMap_eq_nil_iff]
    rintro ⟨call, phase, changed⟩ member
    have ended := settled _ member
    cases phase with
    | finished ok => exact role_finished call ok changed
    | waiting => simp [Phase.isFinished] at ended
    | calling request => simp [Phase.isFinished] at ended
    | answered ok => simp [Phase.isFinished] at ended
  rcases reconciled room with due | owed | ⟨adds, half, -⟩ | ⟨-, agree⟩
  · simp [idle] at due
  · simp [idle] at owed
  · simp [idle] at half
  · exact agree

section Drift

/-- The options that name rooms and exceptions. -/
def among (rooms except : List Text) (distinct : rooms.Nodup) (apart : except.Nodup) :
    BroadcastOptions where
  rooms := ⟨rooms, distinct⟩
  except := some ⟨except, apart⟩

/-- A socket in rooms `a` and `c`, and then the sockets of `a` or `b` but not of `c` join
room `d`, one operation after the other. -/
def joinsExcepted : List Event :=
  [.connect ['s'] ['k'], .call (.addAll ['s'] (.ofList [['a'], ['c']])), .locked 0,
    .answered 0 true, .resumed 0,
    .call (.addSockets (among [['a'], ['b']] [['c']] (by decide) (by decide)) [['d']]),
    .answered 1 true, .resumed 1]

/-- The service puts the connection into the group of `d`, as its filter restricts room
`b` only. The socket is not selected here, and when all is done `d` is not recorded. -/
theorem excepted_socket_drifts :
    (machine inMemoryAdapter Base64Url.utf8 ['/'] (fun _ => none) []).Meets Joining
      State.initial joinsExcepted ∧
    ((machine inMemoryAdapter Base64Url.utf8 ['/'] (fun _ => none) []).run State.initial
      joinsExcepted).map (fun result => (
        result.1.operations.all (fun operation => operation.phase.isFinished),
        (result.1.service.lookup ['k']).map (fun groups =>
          decide (getGroupName Base64Url.utf8 ['/'] (some ['d']) ∈ groups)),
        decide (['d'] ∈ result.1.memory.recorded ['s']))) = some (true, some true, false) := by
  decide +kernel

/-- The same join without the exception, while another join of the socket is under way. -/
def joinsTogether : List Event :=
  [.connect ['s'] ['k'], .call (.addAll ['s'] (.ofList [['a'], ['c']])), .locked 0,
    .answered 0 true, .resumed 0,
    .call (.addSockets (among [['a'], ['b']] [] (by decide) (by decide)) [['d']]),
    .call (.addAll ['s'] (.ofList [['e']])), .answered 1 true, .locked 2, .resumed 1,
    .answered 2 true, .resumed 2, .locked 3, .answered 3 true, .resumed 3]

theorem bulk_membership_agrees_joins : ∃ (state : State) (outputs : List Output),
    (machine inMemoryAdapter Base64Url.utf8 ['/'] (fun _ => none) []).run State.initial
      joinsTogether = some (state, outputs) ∧
    ∀ id eioSid, state.sockets.lookup id = some eioSid →
      ∃ groups, state.service.lookup eioSid = some groups ∧
        ∀ room, getGroupName Base64Url.utf8 ['/'] (some room) ∈ groups ↔
          room ∈ state.memory.recorded id := by
  have completed : ((machine inMemoryAdapter Base64Url.utf8 ['/'] (fun _ => none) []).run
      State.initial joinsTogether).any (fun result => result.1.operations.all
        (fun operation => operation.phase.isFinished)) = true := by decide +kernel
  obtain ⟨⟨state, outputs⟩, ran, ended⟩ := (Option.any_eq_true _ _).mp completed
  have covered : (machine inMemoryAdapter Base64Url.utf8 ['/'] (fun _ => none) []).Meets
      (fun state event => Joining state event ∧ Covers inMemoryAdapter state event)
      State.initial joinsTogether := by decide +kernel
  exact ⟨state, outputs, ran, bulk_membership_agrees inMemoryAdapter Base64Url.utf8 ['/']
    (fun _ => none) [] (by decide +kernel) covered ran
    (fun operation member => List.all_eq_true.mp ended operation member)⟩

end Drift

end WebPubSub.Adapter.Membership
