import WebPubSub.Adapter.MembershipDeparture
import WebPubSub.Adapter.MembershipRecord

/-!
# Recorded rooms, service groups and the succeeded operations

In runs of `addAll`, `del` and disconnects, with any number of sockets, the rooms that
are recorded for a socket are the result of its succeeded operations in call order. The
rooms whose groups have its connection are the same ones, if the connection was in no
group when the socket came. The service runs ahead of the record by at most the one
operation that holds the mutex, so without an operation in progress they agree.

A disconnect takes the connection out of no group. When the client enters the namespace
again, its next socket finds the groups of the one before, and none is recorded for it.

After a disconnect the socket is no longer in the namespace, so nothing is recorded
for it again, and the `delAll` of the disconnect forgets what was.
-/

namespace WebPubSub.Adapter.Membership

/-- Events of single sockets: no bulk operation, and `delAll` only as part of a
disconnect. -/
def SingleSocket (_ : State) : Event → Prop
  | .call (.addAll _ _) | .call (.del _ _) => True
  | .call _ => False
  | _ => True

instance (state : State) (event : Event) : Decidable (SingleSocket state event) := by
  unfold SingleSocket
  split <;> infer_instance

/-- The calls among them are of one socket. -/
theorem SingleSocket.socket_ne_none {state : State} {call : Call}
    (allowed : SingleSocket state (.call call)) : call.socket ≠ none := by
  revert allowed
  cases call <;> simp [SingleSocket, Call.socket]

section Agreement

variable {super : InMemoryAdapter} {base64url : Base64Url} {nsp : Text}
  {getSingleEioEncodedPayload : SioPacket Unit → Option Text} {kept : List Text}

/-- Every operation has a socket. -/
def Single (state : State) : Prop := ∀ operation ∈ state.operations, operation.call.socket ≠ none

theorem Single.step {state next : State} {event : Event} {outputs : List Output}
    (single : Single state) (allowed : SingleSocket state event)
    (stepped : Step super base64url nsp getSingleEioEncodedPayload kept state event next outputs) :
    Single next := by
  intro operation member
  rcases mem_operations_step stepped member with
    ⟨old, listed, same⟩ | rfl | ⟨id, rfl, leaving⟩ | ⟨number, ok, bulk, rfl, found, made⟩
  · exact same ▸ single old listed
  · exact allowed.socket_ne_none
  · simp [leaving, Call.socket]
  · obtain ⟨id, own⟩ := triggered_socket made
    simp [own]

/-! ## The service -/

/-- A service call under way that names a connection. -/
def Operation.asksFor (connection : Text) (operation : Operation) : Bool :=
  match operation.phase with
  | .calling request => request.names connection
  | _ => false

/-- When the socket comes, its connection is in no group and no call under way names it. -/
def ComesAlone (id : Text) (state : State) : Event → Prop
  | .connect other eioSid => other = id → (state.service.lookup eioSid).getD [] = [] ∧
      ∀ operation ∈ state.operations, operation.asksFor eioSid = false
  | _ => True

instance (id : Text) (state : State) (event : Event) : Decidable (ComesAlone id state event) := by
  unfold ComesAlone
  split <;> infer_instance

/-- The calls under way that name the connection of a socket are its own. -/
def Undisturbed (id : Text) (state : State) : Prop :=
  ∀ eioSid, state.sockets.lookup id = some eioSid → ∀ operation ∈ state.operations,
    operation.asksFor eioSid = true → operation.call.socket = some id

variable (base64url nsp) in
/-- The connection of a socket in the namespace is in the groups of the rooms of its
succeeded operations. -/
def JoinedSucceeded (id : Text) (state : State) : Prop :=
  ∀ eioSid, state.sockets.lookup id = some eioSid →
    ∃ groups, state.service.lookup eioSid = some groups ∧
      ∀ room, getGroupName base64url nsp (some room) ∈ groups ↔
        room ∈ replay (succeededCalls id state.operations)

variable {state : State} {id : Text}

/-- Only the connection of the socket and the operations that ask for it matter. -/
theorem Undisturbed.congr (undisturbed : Undisturbed id state) {next : State}
    (sockets : ∀ eioSid, next.sockets.lookup id = some eioSid →
      state.sockets.lookup id = some eioSid)
    (operations : ∀ operation ∈ next.operations, operation ∈ state.operations ∨
      ∀ eioSid, operation.asksFor eioSid = false) : Undisturbed id next := by
  intro eioSid connected operation member asks
  rcases operations operation member with old | silent
  · exact undisturbed eioSid (sockets eioSid connected) operation old asks
  · rw [silent eioSid] at asks
    contradiction

/-- An operation that moves on without asking the service asks for no connection. -/
theorem Undisturbed.settle (undisturbed : Undisturbed id state) (number : Nat)
    (entry : Operation) (silent : ∀ eioSid, entry.asksFor eioSid = false) {next : State}
    (sockets : next.sockets = state.sockets)
    (operations : next.operations = state.operations.set number entry) :
    Undisturbed id next := by
  apply undisturbed.congr
  · rw [sockets]
    exact fun eioSid connected => connected
  · intro operation member
    rw [operations] at member
    rcases List.mem_or_eq_of_mem_set member with old | rfl
    · exact Or.inl old
    · exact Or.inr silent

/-- Every step keeps the calls under way apart, if the socket comes alone. -/
theorem Undisturbed.step {next : State} {event : Event} {outputs : List Output}
    (undisturbed : Undisturbed id state)
    (identities : Identities base64url nsp getSingleEioEncodedPayload state)
    (allowed : SingleSocket state event) (comes : ComesAlone id state event)
    (stepped : Step super base64url nsp getSingleEioEncodedPayload kept state event next outputs) :
    Undisturbed id next := by
  cases stepped with
  | connect other connection newId single =>
    by_cases own : id = other
    · subst own
      intro eioSid connected operation member asks
      obtain rfl : connection = eioSid := by simpa using connected
      rw [(comes rfl).2 operation member] at asks
      contradiction
    · apply undisturbed.congr
      · intro eioSid connected
        rwa [AList.lookup_insert_ne own] at connected
      · exact fun operation member => Or.inl member
  | callSocket call other own =>
    apply undisturbed.congr
    · simp
    · intro operation member
      rw [State.operations_enter, List.mem_append, List.mem_singleton] at member
      exact member.imp_right (by rintro rfl _; rfl)
  | callBulk call request bulk asked => exact absurd bulk (allowed.socket_ne_none)
  | disconnect other present =>
    apply undisturbed.congr
    · intro eioSid connected
      have different : id ≠ other := by
        rintro rfl
        simp at connected
      rwa [AList.lookup_erase_ne different] at connected
    · intro operation member
      have listed : operation ∈ (state.enter (.delAll other) .waiting).operations := member
      rw [State.operations_enter, List.mem_append, List.mem_singleton] at listed
      exact listed.imp_right (by rintro rfl _; rfl)
  | lockedAsks number operation owner request found own waited turn asked =>
    intro eioSid connected entry member asks
    rcases List.mem_or_eq_of_mem_set member with old | rfl
    · exact undisturbed eioSid connected entry old asks
    · have named : request.names eioSid = true := asks
      have owned := names_asked base64url nsp getSingleEioEncodedPayload own asked named
      obtain rfl := identities.single owner id eioSid owned connected
      exact own
  | lockedSilent number operation other found leaving waited turn =>
    exact undisturbed.settle number _ (fun _ => rfl) rfl rfl
  | lockedThrows number operation other found own waited turn staying unfound =>
    exact undisturbed.settle number _ (fun _ => rfl) (State.sockets_finish ..)
      (State.operations_finish ..)
  | answered number ok operation request found called service effect =>
    exact undisturbed.settle number _ (fun _ => rfl) rfl rfl
  | resumed number ok operation found answer =>
    have ended : Undisturbed id (state.finish number operation ok
        (operation.call.update super ok (state.connected operation.call) state.memory)) :=
      undisturbed.settle number _ (fun _ => rfl) (State.sockets_finish ..)
        (State.operations_finish ..)
    apply ended.congr
    · rw [State.sockets_enterAll]
      exact fun eioSid connected => connected
    · intro entry member
      rw [State.operations_enterAll, List.mem_append, List.mem_map] at member
      exact member.imp_right (by rintro ⟨call, -, rfl⟩ _; rfl)

/-- A socket that comes alone comes to a connection without groups. -/
theorem JoinedSucceeded.connect (joined : JoinedSucceeded base64url nsp id state)
    (unanswered : Unanswered state) {other connection : Text} (newId : other ∉ state.known)
    (comes : ComesAlone id state (.connect other connection)) :
    JoinedSucceeded base64url nsp id
      { state with
        sockets := state.sockets.insert other connection
        known := state.known.insert other connection
        service := establish state.service connection } := by
  intro eioSid connectedNext
  by_cases own : id = other
  · subst own
    obtain rfl : connection = eioSid := by simpa using connectedNext
    refine ⟨[], ?_, fun room => ?_⟩
    · rw [lookup_establish_self, (comes rfl).1]
    · rw [unanswered id newId]
      simp [replay]
  · have before : state.sockets.lookup id = some eioSid := by
      rwa [AList.lookup_insert_ne own] at connectedNext
    obtain ⟨groups, found, agree⟩ := joined eioSid before
    exact ⟨groups, lookup_establish_known found connection, agree⟩

/-- A call that succeeds moves the connection of its socket as the operation says, and
no other. -/
theorem JoinedSucceeded.answered (emptyText : base64url.encode [] = [])
    (joined : JoinedSucceeded base64url nsp id state) (turns : Turns state) (single : Single state)
    (undisturbed : Undisturbed id state)
    (identities : Identities base64url nsp getSingleEioEncodedPayload state) {number : Nat}
    {operation entry : Operation} {request : Request}
    (found : state.operations[number]? = some operation)
    (called : operation.phase = .calling request) (call : entry.call = operation.call)
    (succeeded : entry.phase.succeeded = true) {eioSid : Text}
    (connected : state.sockets.lookup id = some eioSid) :
    ∃ groups, (request.apply kept state.service).lookup eioSid = some groups ∧
      ∀ room, getGroupName base64url nsp (some room) ∈ groups ↔
        room ∈ replay (succeededCalls id (state.operations.set number entry)) := by
  obtain ⟨groups, looked, agree⟩ := joined eioSid connected
  have known := identities.named id eioSid connected
  have asked := identities.asked number operation request found called
  have member := List.mem_of_getElem? found
  obtain ⟨owner, own⟩ := Option.ne_none_iff_exists'.mp (single operation member)
  rw [own, Option.bind_some] at asked
  refine ⟨request.groupsAfter kept eioSid groups, ?_, fun room => ?_⟩
  · rw [lookup_apply, looked]
    rfl
  by_cases sameSocket : owner = id
  · subst sameSocket
    rw [known] at asked
    have counted : succeededCalls owner (state.operations.set number entry) =
        succeededCalls owner state.operations ++ [operation.call] :=
      counted_set_of_turn turns _ rfl found own (by rw [called]; rfl) (by rw [called]; rfl) call
        succeeded
    rw [counted, replay_append,
      mem_groupsAfter_own base64url nsp getSingleEioEncodedPayload kept emptyText own asked,
      mem_joined own, agree room]
  · have elsewhere : operation.call.socket ≠ some id := by
      rw [own]
      exact fun equal => sameSocket (Option.some.inj equal)
    have counted : succeededCalls id (state.operations.set number entry) =
        succeededCalls id state.operations :=
      counted_set_of_other _ id found call elsewhere
    have unnamed : request.names eioSid = false := by
      rw [← Bool.not_eq_true]
      intro named
      refine elsewhere (undisturbed eioSid connected operation member ?_)
      rw [Operation.asksFor, called]
      exact named
    rw [counted, ← agree room,
      groupsAfter_unnamed base64url nsp getSingleEioEncodedPayload kept own asked unnamed]

/-- Every step keeps the agreement of the groups, if the socket comes alone. -/
theorem JoinedSucceeded.step {next : State} {event : Event} {outputs : List Output}
    (emptyText : base64url.encode [] = [])
    (joined : JoinedSucceeded base64url nsp id state) (turns : Turns state) (single : Single state)
    (unanswered : Unanswered state) (undisturbed : Undisturbed id state)
    (identities : Identities base64url nsp getSingleEioEncodedPayload state)
    (comes : ComesAlone id state event)
    (stepped : Step super base64url nsp getSingleEioEncodedPayload kept state event next outputs) :
    JoinedSucceeded base64url nsp id next := by
  intro eioSid connectedNext
  have same (operations : List Operation) (sockets : state.sockets.lookup id = some eioSid)
      (kept : succeededCalls id operations = succeededCalls id state.operations) :
      ∃ groups, state.service.lookup eioSid = some groups ∧
        ∀ room, getGroupName base64url nsp (some room) ∈ groups ↔
          room ∈ replay (succeededCalls id operations) := by
    rw [kept]
    exact joined eioSid sockets
  cases stepped with
  | connect other connection newId single =>
    exact joined.connect unanswered newId comes eioSid connectedNext
  | callSocket call other own =>
    rw [State.sockets_enter] at connectedNext
    rw [State.service_enter, State.operations_enter]
    exact same _ connectedNext (counted_append_waiting _ id rfl [call])
  | callBulk call request bulk asked =>
    rw [State.sockets_enter] at connectedNext
    rw [State.service_enter, State.operations_enter]
    apply same _ connectedNext
    rw [succeededCalls, List.filterMap_append]
    simp [Operation.counted, bulk, succeededCalls]
  | disconnect other gone =>
    have different : id ≠ other := by
      rintro rfl
      simp at connectedNext
    have before : state.sockets.lookup id = some eioSid := by
      rwa [AList.lookup_erase_ne different] at connectedNext
    have entered := same (state.enter (.delAll other) .waiting).operations before (by
      rw [State.operations_enter]
      exact counted_append_waiting _ id rfl [.delAll other])
    rw [← State.service_enter state (.delAll other) .waiting] at entered
    exact entered
  | lockedAsks number operation other request found own waited turn asked =>
    apply same _ connectedNext
    apply counted_set_of_same _ id found
    · rfl
    · rw [waited]
      rfl
  | lockedSilent number operation other found leaving waited turn =>
    apply same _ connectedNext
    apply counted_set_of_same _ id found
    · rfl
    · rw [waited]
      rfl
  | lockedThrows number operation other found own waited turn staying unfound =>
    rw [State.sockets_finish] at connectedNext
    rw [State.service_finish, State.operations_finish]
    apply same _ connectedNext
    apply counted_set_of_same _ id found
    · rfl
    · rw [waited]
      rfl
  | answered number ok operation request found called service effect =>
    cases ok with
    | false =>
      have unchanged : service = state.service := effect
      rw [unchanged]
      apply same _ connectedNext
      apply counted_set_of_same _ id found
      · rfl
      · rw [called]
        rfl
    | true =>
      obtain rfl : service = request.apply kept state.service := effect
      exact joined.answered emptyText turns single undisturbed identities found called (by rfl)
        (by rfl) connectedNext
  | resumed number ok operation found answer =>
    rw [State.sockets_enterAll, State.sockets_finish] at connectedNext
    rw [State.service_enterAll, State.service_finish, State.operations_enterAll,
      State.operations_finish]
    apply same _ connectedNext
    refine Eq.trans (counted_append_waiting _ id rfl _) ?_
    apply counted_set_of_same _ id found
    · rfl
    · rw [answer]
      rfl

/-! ## Agreement -/

/-- What runs of single sockets keep. -/
structure Agreement (state : State) : Prop where
  turns : Turns state
  identities : Identities base64url nsp getSingleEioEncodedPayload state
  single : Single state
  leavers : Leavers state
  unanswered : Unanswered state
  records : RecordsApplied state

theorem agreement_initial : @Agreement base64url nsp getSingleEioEncodedPayload .initial where
  turns := turns_initial
  identities := identities_initial base64url nsp getSingleEioEncodedPayload
  single := by simp [Single, State.initial]
  leavers := by simp [Leavers, State.initial]
  unanswered _ _ := rfl
  records _ _ := rfl

theorem Agreement.step {next : State} {event : Event} {outputs : List Output}
    (held : @Agreement base64url nsp getSingleEioEncodedPayload state)
    (allowed : SingleSocket state event)
    (stepped : Step super base64url nsp getSingleEioEncodedPayload kept state event next outputs) :
    @Agreement base64url nsp getSingleEioEncodedPayload next where
  turns := held.turns.step stepped
  identities := held.identities.step kept stepped
  single := held.single.step allowed stepped
  leavers := held.leavers.step held.identities (by rintro id rfl; exact allowed) stepped
  unanswered := held.unanswered.step held.leavers held.identities stepped
  records := held.records.step held.turns held.leavers held.unanswered stepped

/-- A run of single sockets ends in agreement of the record. -/
theorem agreement_of_run {events : List Event} {state : State} {outputs : List Output}
    (met : (machine super base64url nsp getSingleEioEncodedPayload kept).Meets SingleSocket
      State.initial events)
    (ran : (machine super base64url nsp getSingleEioEncodedPayload kept).run State.initial events =
      some (state, outputs)) :
    @Agreement base64url nsp getSingleEioEncodedPayload state := by
  refine Machine.invariant_meets _ (@Agreement base64url nsp getSingleEioEncodedPayload) ?_
    agreement_initial met ran
  intro state event next outputs held allowed stepped
  exact held.step allowed (step_inv super base64url nsp getSingleEioEncodedPayload kept stepped)

/-- If the socket came alone, in agreement of the groups too. -/
theorem joinedSucceeded_of_run (emptyText : base64url.encode [] = []) (id : Text)
    {events : List Event} {state : State} {outputs : List Output}
    (met : (machine super base64url nsp getSingleEioEncodedPayload kept).Meets SingleSocket
      State.initial events)
    (comes : (machine super base64url nsp getSingleEioEncodedPayload kept).Meets (ComesAlone id)
      State.initial events)
    (ran : (machine super base64url nsp getSingleEioEncodedPayload kept).run State.initial events =
      some (state, outputs)) : JoinedSucceeded base64url nsp id state := by
  have invariant : @Agreement base64url nsp getSingleEioEncodedPayload state ∧
      Undisturbed id state ∧ JoinedSucceeded base64url nsp id state := by
    refine Machine.invariant_meets _ (fun state =>
      @Agreement base64url nsp getSingleEioEncodedPayload state ∧ Undisturbed id state ∧
        JoinedSucceeded base64url nsp id state) ?_ ?_ (Machine.meets_and _ met comes) ran
    · rintro state event next outputs ⟨held, undisturbed, joined⟩ ⟨allowed, alone⟩ stepped
      have made := step_inv super base64url nsp getSingleEioEncodedPayload kept stepped
      refine ⟨held.step allowed made, ?_, ?_⟩
      · exact undisturbed.step held.identities allowed alone made
      · exact joined.step emptyText held.turns held.single held.unanswered undisturbed
          held.identities alone made
    · refine ⟨agreement_initial, ?_, ?_⟩
      · simp [Undisturbed, State.initial]
      · simp [JoinedSucceeded, State.initial]
  exact invariant.2.2

end Agreement

/-- Membership agreement, in every run of `addAll`, `del` and disconnects, for every
socket without an operation in progress. As long as it has not left, the rooms recorded
for it are the result of its succeeded operations in call order. If it came alone to its
connection, they are the rooms whose groups have the connection. Once it has left,
neither map mentions it.

The service has applied the operations that succeeded, the record those that also
ended, and here all have ended. -/
theorem membership_agrees (super : InMemoryAdapter) (base64url : Base64Url) (nsp : Text)
    (getSingleEioEncodedPayload : SioPacket Unit → Option Text) (kept : List Text)
    (emptyText : base64url.encode [] = []) {events : List Event} {state : State}
    {outputs : List Output}
    (met : (machine super base64url nsp getSingleEioEncodedPayload kept).Meets SingleSocket
      State.initial events)
    (ran : (machine super base64url nsp getSingleEioEncodedPayload kept).run State.initial events =
      some (state, outputs))
    (id : Text)
    (settled : ∀ operation ∈ state.operations, operation.call.socket = some id →
      operation.phase.isFinished = true) :
    (Present state id →
      state.memory.recorded id = replay (succeededCalls id state.operations)) ∧
    ((machine super base64url nsp getSingleEioEncodedPayload kept).Meets (ComesAlone id)
        State.initial events →
      ∀ eioSid, state.sockets.lookup id = some eioSid →
        ∃ groups, state.service.lookup eioSid = some groups ∧
          ∀ room, getGroupName base64url nsp (some room) ∈ groups ↔
            room ∈ state.memory.recorded id) ∧
    (id ∈ state.known → id ∉ state.sockets →
      id ∉ state.memory.sids ∧ ∀ room sockets, state.memory.rooms.lookup room = some sockets →
        id ∉ sockets) := by
  have agreement := agreement_of_run met ran
  have ended : appliedCalls id state.operations = succeededCalls id state.operations := by
    apply List.filterMap_congr
    intro operation member
    by_cases own : operation.call.socket = some id
    · simp [Operation.counted, own, settled operation member own]
    · simp [Operation.counted, own]
  have recorded (present : Present state id) :
      state.memory.recorded id = replay (succeededCalls id state.operations) := by
    rw [agreement.records id present, ended]
  refine ⟨recorded, ?_, ?_⟩
  · intro comes eioSid connected
    have present : Present state id := fun _ =>
      AList.lookup_isSome.mp (by rw [connected]; rfl)
    rw [recorded present]
    exact joinedSucceeded_of_run emptyText id met comes ran eioSid connected
  · intro known left
    exact forgotten ⟨events, outputs, ran⟩ known left settled

/-- A socket's broadcast payload that the encoder gives. -/
def disconnectPayload (_ : SioPacket Unit) : Option Text := some "41".toList

/-- A socket joins its own room and `a` and leaves, all calls succeeding, and the client
enters the namespace again. -/
def entersAgain : List Event :=
  [.connect ['s'] ['c'], .call (.addAll ['s'] (.ofList [['s']])), .locked 0, .answered 0 true,
    .resumed 0, .call (.addAll ['s'] (.ofList [['a']])), .locked 1, .answered 1 true, .resumed 1,
    .disconnect ['s'], .locked 2, .answered 2 true, .resumed 2, .connect ['t'] ['c'],
    .call (.addAll ['t'] (.ofList [['t']])), .locked 3, .answered 3 true, .resumed 3]

/-- No operation is in progress, and the connection is in the group of room `a`, which is
not recorded for its socket. -/
theorem membership_disagrees_again :
    (machine inMemoryAdapter Base64Url.utf8 ['/'] disconnectPayload []).Meets SingleSocket
      State.initial entersAgain ∧
    ((machine inMemoryAdapter Base64Url.utf8 ['/'] disconnectPayload []).run State.initial
      entersAgain).map (fun result =>
        (result.1.operations.all (fun operation => operation.phase.isFinished),
          result.1.sockets.lookup ['t'],
          (result.1.service.lookup ['c']).map (fun groups =>
            decide (getGroupName Base64Url.utf8 ['/'] (some ['a']) ∈ groups)),
          decide (['a'] ∈ result.1.memory.recorded ['t']))) =
      some (true, some ['c'], some true, false) := by
  decide +kernel

/-- Two joins and two leaves of a socket, the second join refused by the service, and a
third join that is still queued when the socket leaves. The client enters the namespace
again while the `delAll` is under way, and the new socket joins. -/
def joinsAroundDisconnect : List Event :=
  [.connect ['s'] ['c'], .call (.addAll ['s'] (.ofList [['a'], ['b']])), .locked 0,
    .call (.addAll ['s'] (.ofList [['d']])), .answered 0 true, .call (.del ['s'] ['a']),
    .resumed 0, .locked 1, .answered 1 false, .resumed 1, .locked 2, .answered 2 true,
    .resumed 2, .call (.del ['s'] ['b']), .locked 3, .answered 3 true, .resumed 3,
    .call (.addAll ['s'] (.ofList [['e']])), .disconnect ['s'], .locked 4, .locked 5,
    .connect ['t'] ['c'], .call (.addAll ['t'] (.ofList [['b']])), .answered 5 false, .resumed 5,
    .locked 6, .answered 6 true, .resumed 6]

theorem membership_agrees_disconnect : ∃ state outputs,
    (machine inMemoryAdapter Base64Url.utf8 ['/'] disconnectPayload []).run State.initial
      joinsAroundDisconnect = some (state, outputs) ∧
    state.sockets.lookup ['t'] = some ['c'] ∧
    state.memory.recorded ['t'] = replay (succeededCalls ['t'] state.operations) ∧
    (∃ groups, state.service.lookup ['c'] = some groups ∧
      ∀ room, getGroupName Base64Url.utf8 ['/'] (some room) ∈ groups ↔
        room ∈ state.memory.recorded ['t']) ∧
    ['s'] ∉ state.memory.sids ∧
    ∀ room sockets, state.memory.rooms.lookup room = some sockets → ['s'] ∉ sockets := by
  have completed : ((machine inMemoryAdapter Base64Url.utf8 ['/'] disconnectPayload []).run
      State.initial joinsAroundDisconnect).any (fun result =>
        result.1.operations.all (fun operation => operation.phase.isFinished) &&
          decide (result.1.sockets.lookup ['t'] = some ['c']) &&
          decide (['s'] ∈ result.1.known ∧ ['s'] ∉ result.1.sockets)) = true := by decide +kernel
  obtain ⟨⟨state, outputs⟩, ran, ended⟩ := (Option.any_eq_true _ _).mp completed
  simp only [Bool.and_eq_true, decide_eq_true_eq, List.all_eq_true] at ended
  obtain ⟨⟨finished, connected⟩, known, left⟩ := ended
  have single : (machine inMemoryAdapter Base64Url.utf8 ['/'] disconnectPayload []).Meets
      SingleSocket State.initial joinsAroundDisconnect := by decide +kernel
  have comes : (machine inMemoryAdapter Base64Url.utf8 ['/'] disconnectPayload []).Meets
      (ComesAlone ['t']) State.initial joinsAroundDisconnect := by decide +kernel
  have agrees (id : Text) := membership_agrees inMemoryAdapter Base64Url.utf8 ['/']
    disconnectPayload [] (by decide +kernel) single ran id
    (fun operation member _ => finished operation member)
  refine ⟨state, outputs, ran, connected, (agrees ['t']).1 ?_, ?_, (agrees ['s']).2.2 known left⟩
  · exact fun _ => AList.lookup_isSome.mp (by rw [connected]; rfl)
  · exact (agrees ['t']).2.1 comes ['c'] connected

end WebPubSub.Adapter.Membership
