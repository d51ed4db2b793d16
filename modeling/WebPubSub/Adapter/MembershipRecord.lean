import WebPubSub.Adapter.MembershipIdentities

/-!
# The record of a socket's rooms

Unless `delAll` is called for a socket that stays, the rooms that are recorded for it
are the result of its succeeded operations in call order, as far as they have ended.
They ended in this order, since each held the mutex until its end; and none succeeded
before the socket was in the namespace.
-/

namespace WebPubSub.Adapter.Membership

/-- The service call of the operation has succeeded. -/
def Phase.succeeded : Phase → Bool
  | .answered ok | .finished ok => ok
  | _ => false

/-- The call of an operation of a socket, once it passes a test of its phase. -/
def Operation.counted (test : Phase → Bool) (id : Text) (operation : Operation) : Option Call :=
  if operation.call.socket = some id ∧ test operation.phase = true then some operation.call else none

/-- The rooms after the given operations of a socket, in call order. -/
def replay (calls : List Call) : JsSet Text :=
  calls.foldl (fun rooms call => call.joined rooms) .empty

/-- The operations of a socket whose service call succeeded, in call order. -/
def succeededCalls (id : Text) (operations : List Operation) : List Call :=
  operations.filterMap (Operation.counted Phase.succeeded id)

/-- Those of them that have ended. -/
def appliedCalls (id : Text) (operations : List Operation) : List Call :=
  operations.filterMap (Operation.counted (fun phase => phase.succeeded && phase.isFinished) id)

theorem replay_append (calls : List Call) (call : Call) :
    replay (calls ++ [call]) = call.joined (replay calls) := by
  rw [replay, List.foldl_append]
  rfl

/-- A socket that has not left: its connection is still in the namespace, or yet to
come. -/
def Present (state : State) (id : Text) : Prop := id ∈ state.known → id ∈ state.sockets

section Counting

variable (test : Phase → Bool) (id : Text) {operations : List Operation} {number : Nat}
  {operation : Operation}

/-- Operations that only wait count for nothing. -/
theorem counted_append_waiting (waits : test .waiting = false) (calls : List Call) :
    (operations ++ calls.map (fun call => Operation.mk call .waiting [])).filterMap
      (Operation.counted test id) = operations.filterMap (Operation.counted test id) := by
  have none : (calls.map (fun call => Operation.mk call .waiting [])).filterMap
      (Operation.counted test id) = [] := by
    rw [List.filterMap_eq_nil_iff]
    intro operation member
    obtain ⟨call, -, rfl⟩ := List.mem_map.mp member
    simp [Operation.counted, waits]
  rw [List.filterMap_append, none, List.append_nil]

/-- An operation that counts as before leaves the count. -/
theorem counted_set_of_same (found : operations[number]? = some operation) {entry : Operation}
    (call : entry.call = operation.call) (same : test entry.phase = test operation.phase) :
    (operations.set number entry).filterMap (Operation.counted test id) =
      operations.filterMap (Operation.counted test id) := by
  apply Ledger.filterMap_set_of_same _ found
  simp [Operation.counted, call, same]

/-- An operation of another socket leaves the count. -/
theorem counted_set_of_other (found : operations[number]? = some operation) {entry : Operation}
    (call : entry.call = operation.call) (other : operation.call.socket ≠ some id) :
    (operations.set number entry).filterMap (Operation.counted test id) =
      operations.filterMap (Operation.counted test id) := by
  apply Ledger.filterMap_set_of_same _ found
  simp [Operation.counted, call, other]

end Counting

section Agreement

variable {super : InMemoryAdapter} {base64url : Base64Url} {nsp : Text}
  {getSingleEioEncodedPayload : SioPacket Unit → Option Text} {kept : List Text}

/-- An operation of a socket that begins to count is the last one that does, as those
after it still wait for the mutex. -/
theorem counted_set_of_turn {state : State} (turns : Turns state) (test : Phase → Bool)
    (waits : test .waiting = false) {number : Nat} {operation : Operation} {id : Text}
    (found : state.operations[number]? = some operation) (own : operation.call.socket = some id)
    (pending : operation.phase.isFinished = false) (before : test operation.phase = false)
    {entry : Operation} (call : entry.call = operation.call) (after : test entry.phase = true) :
    (state.operations.set number entry).filterMap (Operation.counted test id) =
      state.operations.filterMap (Operation.counted test id) ++ [operation.call] := by
  apply Ledger.filterMap_set_of_last _ found
  · simp [Operation.counted, before]
  · intro other later beyond located
    by_cases same : later.call.socket = some id
    · have waiting := turns.waits_after found own pending beyond located same
      simp [Operation.counted, waiting, waits]
    · simp [Operation.counted, same]
  · simp [Operation.counted, call, own, after]

/-- `delAll` is only called for sockets that have left. -/
def Leavers (state : State) : Prop :=
  ∀ operation ∈ state.operations, ∀ id, operation.call = .delAll id →
    id ∈ state.known ∧ id ∉ state.sockets

/-- The calls of the operations after a step: the old ones, and those that it adds. -/
theorem mem_operations_step {state next : State} {event : Event} {outputs : List Output}
    (stepped : Step super base64url nsp getSingleEioEncodedPayload kept state event next outputs)
    {operation : Operation} (member : operation ∈ next.operations) :
    (∃ old ∈ state.operations, old.call = operation.call) ∨
      event = .call operation.call ∨
      (∃ id, event = .disconnect id ∧ operation.call = .delAll id) ∨
      ∃ number ok bulk, event = .resumed number ∧ state.operations[number]? = some bulk ∧
        operation.call ∈ bulk.call.triggered super ok state.memory state.sockets.keys := by
  have amended {number : Nat} {old entry : Operation} (found : state.operations[number]? = some old)
      (member : operation ∈ state.operations.set number entry) (call : entry.call = old.call) :
      ∃ old ∈ state.operations, old.call = operation.call := by
    rcases List.mem_or_eq_of_mem_set member with kept | rfl
    · exact ⟨operation, kept, rfl⟩
    · exact ⟨old, List.mem_of_getElem? found, call.symm⟩
  cases stepped with
  | connect id eioSid newId single => exact Or.inl ⟨operation, member, rfl⟩
  | callSocket call id own =>
    rw [State.operations_enter, List.mem_append, List.mem_singleton] at member
    rcases member with old | rfl
    · exact Or.inl ⟨operation, old, rfl⟩
    · exact Or.inr (Or.inl rfl)
  | callBulk call request bulk asked =>
    rw [State.operations_enter, List.mem_append, List.mem_singleton] at member
    rcases member with old | rfl
    · exact Or.inl ⟨operation, old, rfl⟩
    · exact Or.inr (Or.inl rfl)
  | disconnect id present =>
    have listed : operation ∈ (state.enter (.delAll id) .waiting).operations := member
    rw [State.operations_enter, List.mem_append, List.mem_singleton] at listed
    rcases listed with old | rfl
    · exact Or.inl ⟨operation, old, rfl⟩
    · exact Or.inr (Or.inr (Or.inl ⟨id, rfl, rfl⟩))
  | lockedAsks number old id request found own waited turn asked =>
    exact Or.inl (amended found member rfl)
  | lockedSilent number old id found leaving waited turn =>
    exact Or.inl (amended found member rfl)
  | lockedThrows number old id found own waited turn staying unfound =>
    rw [State.operations_finish] at member
    exact Or.inl (amended found member rfl)
  | answered number ok old request found called service effect =>
    exact Or.inl (amended found member rfl)
  | resumed number ok old found answer =>
    rw [State.operations_enterAll, State.operations_finish, List.mem_append, List.mem_map] at member
    rcases member with kept | ⟨call, made, rfl⟩
    · exact Or.inl (amended found kept rfl)
    · exact Or.inr (Or.inr (Or.inr ⟨number, ok, old, rfl, found, made⟩))

/-- The table of sockets changes by a connect or a disconnect only. -/
theorem sockets_step {state next : State} {event : Event} {outputs : List Output}
    (stepped : Step super base64url nsp getSingleEioEncodedPayload kept state event next outputs)
    (id : Text) :
    (id ∈ next.known ↔ id ∈ state.known ∨ ∃ eioSid, event = .connect id eioSid) ∧
      (id ∈ next.sockets ↔ (id ∈ state.sockets ∧ event ≠ .disconnect id) ∨
        ∃ eioSid, event = .connect id eioSid) := by
  cases stepped with
  | connect other eioSid newId single =>
    simp only [AList.mem_insert, Event.connect.injEq]
    grind
  | disconnect other present =>
    simp only [State.known_enter, AList.mem_erase]
    grind
  | _ => simp

theorem Leavers.step {state next : State} {event : Event} {outputs : List Output}
    (leavers : Leavers state) (identities : Identities base64url nsp getSingleEioEncodedPayload state)
    (allowed : ∀ id, event ≠ .call (.delAll id))
    (stepped : Step super base64url nsp getSingleEioEncodedPayload kept state event next outputs) :
    Leavers next := by
  have tables := sockets_step stepped
  intro operation member id leaving
  rcases mem_operations_step stepped member with
    ⟨old, listed, same⟩ | rfl | ⟨other, rfl, left⟩ | ⟨number, ok, bulk, rfl, found, made⟩
  · obtain ⟨known, absent⟩ := leavers old listed id (same.trans leaving)
    refine ⟨(tables id).1.mpr (Or.inl known), ?_⟩
    rw [(tables id).2]
    rintro (⟨present, -⟩ | ⟨eioSid, rfl⟩)
    · exact absent present
    · cases stepped with
      | connect _ _ newId _ => exact newId known
  · exact absurd (by rw [leaving]) (allowed id)
  · obtain rfl : other = id := Call.delAll.inj (left.symm.trans leaving)
    cases stepped with
    | disconnect _ present =>
      obtain ⟨eioSid, looked⟩ := Option.isSome_iff_exists.mp (AList.lookup_isSome.mpr present)
      constructor
      · rw [(tables other).1]
        exact Or.inl (AList.lookup_isSome.mp (by rw [identities.named _ _ looked]; rfl))
      · simp
  · obtain ⟨-, ⟨_, _, _, -, -, call⟩ | ⟨_, _, _, _, -, -, -, call⟩⟩ := triggered_cases made
    · simp [call] at leaving
    · simp [call] at leaving

/-- A socket that has not left after a step had not left before it. -/
theorem present_before {state next : State} {event : Event} {outputs : List Output}
    (stepped : Step super base64url nsp getSingleEioEncodedPayload kept state event next outputs)
    {id : Text} (present : Present next id) : Present state id := by
  intro known
  have tables := sockets_step stepped id
  rcases tables.2.mp (present (tables.1.mpr (Or.inl known))) with ⟨inside, -⟩ | ⟨eioSid, rfl⟩
  · exact inside
  · cases stepped with
    | connect _ _ newId _ => exact absurd known newId

/-! ## Before the socket comes -/

/-- No operation of a socket succeeds before the socket is in the namespace. -/
def Unanswered (state : State) : Prop :=
  ∀ id, id ∉ state.known → succeededCalls id state.operations = []

theorem Unanswered.step {state next : State} {event : Event} {outputs : List Output}
    (unanswered : Unanswered state) (leavers : Leavers state)
    (identities : Identities base64url nsp getSingleEioEncodedPayload state)
    (stepped : Step super base64url nsp getSingleEioEncodedPayload kept state event next outputs) :
    Unanswered next := by
  intro id unknown
  have before : id ∉ state.known := fun known =>
    unknown ((sockets_step stepped id).1.mpr (Or.inl known))
  have none := unanswered id before
  rw [succeededCalls] at none ⊢
  cases stepped with
  | connect other eioSid newId single => exact none
  | callSocket call other own =>
    rw [State.operations_enter]
    exact (counted_append_waiting _ id rfl [call]).trans none
  | callBulk call request bulk asked =>
    rw [State.operations_enter, List.filterMap_append, none]
    simp [Operation.counted, bulk]
  | disconnect other present =>
    refine Eq.trans ?_ none
    rw [State.operations_enter]
    exact counted_append_waiting _ id rfl [.delAll other]
  | lockedAsks number operation other request found own waited turn asked =>
    refine Eq.trans (counted_set_of_same _ id found ?_ ?_) none
    · rfl
    · rw [waited]
      rfl
  | lockedSilent number operation other found leaving waited turn =>
    refine Eq.trans (counted_set_of_same _ id found ?_ ?_) none
    · rfl
    · rw [waited]
      rfl
  | lockedThrows number operation other found own waited turn staying unfound =>
    rw [State.operations_finish]
    refine Eq.trans (counted_set_of_same _ id found ?_ ?_) none
    · rfl
    · rw [waited]
      rfl
  | answered number ok operation request found called service effect =>
    have elsewhere : operation.call.socket ≠ some id := by
      intro own
      have asked := identities.asked number operation request found called
      rw [own, Option.bind_some, AList.lookup_eq_none.mpr before] at asked
      cases shape : operation.call with
      | addAll _ rooms => simp [shape, Call.request] at asked
      | del _ room => simp [shape, Call.request] at asked
      | delAll other =>
        obtain rfl : other = id := by simpa [shape, Call.socket] using own
        exact before (leavers operation (List.mem_of_getElem? found) other shape).1
      | addSockets opts rooms => simp [shape, Call.socket] at own
      | delSockets opts rooms => simp [shape, Call.socket] at own
    refine Eq.trans (counted_set_of_other _ id found ?_ elsewhere) none
    rfl
  | resumed number ok operation found answer =>
    rw [State.operations_enterAll, State.operations_finish, counted_append_waiting _ id rfl]
    refine Eq.trans (counted_set_of_same _ id found ?_ ?_) none
    · rfl
    · rw [answer]
      rfl

/-- So an operation that has succeeded is of a socket that has come. -/
theorem Unanswered.known {state : State} (unanswered : Unanswered state) {number : Nat}
    {operation : Operation} {id : Text} (found : state.operations[number]? = some operation)
    (own : operation.call.socket = some id) (succeeded : operation.phase.succeeded = true) :
    id ∈ state.known := by
  by_contra unknown
  have none := List.filterMap_eq_nil_iff.mp (unanswered id unknown) operation
    (List.mem_of_getElem? found)
  simp [Operation.counted, own, succeeded] at none

/-! ## The record -/

/-- The rooms recorded for a socket that has not left are those of its succeeded
operations that have ended. -/
def RecordsApplied (state : State) : Prop :=
  ∀ id, Present state id →
    state.memory.recorded id = replay (appliedCalls id state.operations)

/-- Nothing is recorded for a socket that has not come. -/
theorem RecordsApplied.unknown {state : State} (records : RecordsApplied state)
    (unanswered : Unanswered state) {id : Text} (unknown : id ∉ state.known) :
    state.memory.recorded id = .empty := by
  have none : appliedCalls id state.operations = [] := by
    apply List.filterMap_eq_nil_iff.mpr
    intro operation member
    have silent := List.filterMap_eq_nil_iff.mp (unanswered id unknown) operation member
    simp only [Operation.counted, ite_eq_right_iff, reduceCtorEq, imp_false] at silent ⊢
    simp_all
  rw [records id (fun known => absurd known unknown), none]
  rfl

theorem RecordsApplied.step {state next : State} {event : Event} {outputs : List Output}
    (records : RecordsApplied state) (turns : Turns state) (leavers : Leavers state)
    (unanswered : Unanswered state)
    (stepped : Step super base64url nsp getSingleEioEncodedPayload kept state event next outputs) :
    RecordsApplied next := by
  intro id presentNext
  have present : Present state id := present_before stepped presentNext
  have held := records id present
  rw [appliedCalls] at held ⊢
  cases stepped with
  | connect other eioSid newId single => exact held
  | callSocket call other own =>
    rw [State.memory_enter, State.operations_enter, held]
    exact congrArg replay (counted_append_waiting _ id rfl [call]).symm
  | callBulk call request bulk asked =>
    rw [State.memory_enter, State.operations_enter, List.filterMap_append, held]
    simp [Operation.counted, bulk]
  | disconnect other gone =>
    have entered : (state.enter (.delAll other) .waiting).operations.filterMap
        (Operation.counted (fun phase => phase.succeeded && phase.isFinished) id) =
        state.operations.filterMap
          (Operation.counted (fun phase => phase.succeeded && phase.isFinished) id) := by
      rw [State.operations_enter]
      exact counted_append_waiting _ id rfl [.delAll other]
    rw [State.memory_enter, held]
    exact congrArg replay entered.symm
  | lockedAsks number operation other request found own waited turn asked =>
    refine held.trans (congrArg replay (counted_set_of_same _ id found ?_ ?_).symm)
    · rfl
    · rw [waited]
      rfl
  | lockedSilent number operation other found leaving waited turn =>
    refine held.trans (congrArg replay (counted_set_of_same _ id found ?_ ?_).symm)
    · rfl
    · rw [waited]
      rfl
  | lockedThrows number operation other found own waited turn staying unfound =>
    rw [State.memory_finish, State.operations_finish]
    refine held.trans (congrArg replay (counted_set_of_same _ id found ?_ ?_).symm)
    · rfl
    · rw [waited]
      rfl
  | answered number ok operation request found called service effect =>
    refine held.trans (congrArg replay (counted_set_of_same _ id found ?_ ?_).symm)
    · rfl
    · rw [called]
      simp [Phase.succeeded, Phase.isFinished]
  | resumed number ok operation found answer =>
    rw [State.memory_enterAll, State.memory_finish, State.operations_enterAll,
      State.operations_finish, counted_append_waiting _ id rfl]
    by_cases own : operation.call.socket = some id
    · have staying : ∀ other, operation.call ≠ .delAll other := by
        intro other leaving
        obtain rfl : other = id := by simpa [leaving, Call.socket] using own
        obtain ⟨known, left⟩ := leavers operation (List.mem_of_getElem? found) other leaving
        exact left (present known)
      cases ok with
      | false =>
        rw [update_failed staying]
        refine held.trans (congrArg replay (counted_set_of_same _ id found ?_ ?_).symm)
        · rfl
        · rw [answer]
          rfl
      | true =>
        have inside : id ∈ state.sockets :=
          present (unanswered.known found own (by rw [answer]; rfl))
        have connected : state.connected operation.call = true := by
          simp [State.connected, own, inside]
        have pending : operation.phase.isFinished = false := by rw [answer]; rfl
        have counted := counted_set_of_turn turns
          (fun phase => phase.succeeded && phase.isFinished) rfl found own pending
          (by rw [answer]; rfl) (rfl : { operation with phase := .finished true }.call = _) rfl
        rw [connected, recorded_update_own own (staying id), held, counted, replay_append]
    · rw [recorded_update_other own]
      refine held.trans (congrArg replay (counted_set_of_other _ id found ?_ own).symm)
      rfl

end Agreement

end WebPubSub.Adapter.Membership
