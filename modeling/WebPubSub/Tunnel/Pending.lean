import WebPubSub.Tunnel.Steps

/-!
# Requests that wait for a response

The acknowledgement map belongs to the connection, not to a client. When the client that
carries a request is stopped or removed, nothing happens to the request: it is not
rejected, its entry stays, and a response with its ack id is taken from any client. What
holds in every reachable state is that a request which is neither settled nor answered
has its entry, so that such a response is scheduled when it comes.
-/

namespace WebPubSub.Tunnel

namespace State

/-- A request that is still to be answered has an entry or a scheduled response, and its
body is open. -/
structure Tracked (state : State) : Prop where
  awaited : ∀ (call : Nat) (invocation : Invocation), state.invocations[call]? = some invocation →
    invocation.sending ≠ .failed → invocation.firstResponse = false →
      call ∈ state.ackMap ∨ ∃ entry ∈ state.deferred, entry.1 = call ∧ entry.2.data ≠ none
  opened : ∀ (call : Nat) (invocation : Invocation), state.invocations[call]? = some invocation →
    invocation.firstResponse = false → invocation.body.iterator.isClosed = false

/-- The first response of a request is that of a response which has arrived: one that arrives for
a request that waits is scheduled, its callback reads it, and nothing else does. -/
structure ReadsResponses (state : State) : Prop where
  scheduled : ∀ (call : Nat) (invocation : Invocation),
    state.invocations[call]? = some invocation → invocation.sending ≠ .failed →
      invocation.firstResponse = false →
        (∃ entry ∈ state.deferred, entry.1 = call ∧ entry.2.data ≠ none) ∨
          ∀ response, response.ackId = call + 1 →
            (call, .ofResponse response) ∈ (state.receive response).deferred
  read : ∀ call callback rest next added, state.deferred = (call, callback) :: rest →
    callback.data ≠ none → connection.step state .tick = some (next, added) →
      (next.invocations[call]?).map Invocation.firstResponse = some true
  only : ∀ event next added (call : Nat) (invocation answered : Invocation),
    connection.step state event = some (next, added) →
      state.invocations[call]? = some invocation → invocation.firstResponse = false →
        next.invocations[call]? = some answered → answered.firstResponse = true →
          event = .tick ∧ ∃ callback rest, state.deferred = (call, callback) :: rest ∧
            callback.data ≠ none

end State

section Steps

variable {state next : State} {call : Nat} {invocation other : Invocation}

theorem initial_tracked : State.initial.Tracked :=
  ⟨by simp [State.initial], by simp [State.initial]⟩

/-- Steps that only concern clients. -/
theorem tracked_of_ledger (held : state.Tracked) (ledger : next.ledger = state.ledger) :
    next.Tracked := by
  simp only [State.ledger, Prod.mk.injEq] at ledger
  obtain ⟨-, ackMap, invocations, deferred⟩ := ledger
  obtain ⟨awaited, opened⟩ := held
  constructor
  · rw [ackMap, invocations, deferred]
    exact awaited
  · rw [invocations]
    exact opened

/-- A step that replaces one record by one with the same answer, keeps all scheduled
callbacks, and removes at most the entry of a request that has failed. -/
theorem tracked_set (held : state.Tracked)
    (standing : state.invocations[call]? = some invocation)
    (replaced : next.invocations = state.invocations.set call other)
    (sending : other.sending ≠ .failed → invocation.sending ≠ .failed)
    (firstResponse : other.firstResponse = invocation.firstResponse)
    (closed : other.body.iterator.isClosed = invocation.body.iterator.isClosed)
    (ackMap : ∀ index ∈ state.ackMap, index ∈ next.ackMap ∨
      (index = call ∧ other.sending = .failed))
    (deferred : ∀ entry ∈ state.deferred, entry ∈ next.deferred) : next.Tracked := by
  have kept {index : Nat} (unfailed : index = call → other.sending ≠ .failed)
      (before : index ∈ state.ackMap ∨
        ∃ entry ∈ state.deferred, entry.1 = index ∧ entry.2.data ≠ none) :
      index ∈ next.ackMap ∨ ∃ entry ∈ next.deferred, entry.1 = index ∧ entry.2.data ≠ none := by
    rcases before with listed | ⟨entry, member, same, data⟩
    · rcases ackMap index listed with listed | ⟨same, failed⟩
      · exact Or.inl listed
      · exact absurd failed (unfailed same)
    · exact Or.inr ⟨entry, deferred entry member, same, data⟩
  constructor
  · intro index record found unfailed unread
    rw [replaced] at found
    rcases Ledger.getElem?_set_cases found with ⟨rfl, rfl⟩ | ⟨different, found⟩
    · exact kept (fun _ => unfailed)
        (held.awaited index invocation standing (sending unfailed) (firstResponse ▸ unread))
    · exact kept (fun same => absurd same different)
        (held.awaited index record found unfailed unread)
  · intro index record found unread
    rw [replaced] at found
    rcases Ledger.getElem?_set_cases found with ⟨rfl, rfl⟩ | ⟨-, found⟩
    · rw [closed]
      exact held.opened index invocation standing (firstResponse ▸ unread)
    · exact held.opened index record found unread

/-- A response that arrives for an entry is scheduled, and the last one takes the place
of the entry. -/
theorem tracked_receive (held : state.Tracked) (response : HttpResponse) :
    (state.receive response).Tracked := by
  unfold State.receive
  split
  · exact held
  · next call named =>
    split
    · next listed =>
      constructor
      · intro index record found unfailed unread
        have written : ∃ entry ∈ state.deferred ++ [(call, Callback.ofResponse response)],
            entry.1 = call ∧ entry.2.data ≠ none :=
          ⟨(call, .ofResponse response), by simp, rfl, by simp [Callback.ofResponse]⟩
        rcases held.awaited index record found unfailed unread with member |
          ⟨entry, member, same, data⟩
        · by_cases same : index = call
          · exact Or.inr (same ▸ written)
          · apply Or.inl
            dsimp only
            split
            · exact member
            · exact List.mem_filter.mpr ⟨member, by simpa using same⟩
        · exact Or.inr ⟨entry, List.mem_append_left _ member, same, data⟩
      · exact held.opened
    · exact held

/-- A request that is handed over gets an entry and an open body. -/
theorem tracked_invoke (held : state.Tracked) (key : Option Text) (abortable : Bool)
    (draws : Nat → Draw) : (state.invoke key abortable draws).1.Tracked := by
  unfold State.invoke
  dsimp only
  split
  · constructor
    · simpa using held.awaited
    · simpa using held.opened
  · next client got =>
    constructor
    · intro index record found unfailed unread
      rw [State.hand_invocations, State.afterGetClient_invocations] at found
      rw [State.hand_ackMap, State.hand_deferred, State.afterGetClient_ackMap,
        State.afterGetClient_deferred, State.afterGetClient_invocations]
      rcases Ledger.getElem?_concat_cases found with ⟨rfl, -⟩ | found
      · exact Or.inl (by simp)
      · cases held.awaited index record found unfailed unread with
        | inl member => exact Or.inl (List.mem_append_left _ member)
        | inr scheduled => exact Or.inr scheduled
    · intro index record found unread
      rw [State.hand_invocations, State.afterGetClient_invocations] at found
      rcases Ledger.getElem?_concat_cases found with ⟨-, rfl⟩ | found
      · rfl
      · exact held.opened index record found unread

/-- A deferred callback with data answers its request; one without leaves it waiting. -/
theorem tracked_tick {callback : Callback} {rest : List (Nat × Callback)} (held : state.Tracked)
    (scheduled : state.deferred = (call, callback) :: rest)
    (standing : state.invocations[call]? = some invocation) :
    (state.tick call callback rest invocation).Tracked := by
  obtain ⟨-, -, -, sending⟩ := invocation.reader_frame callback
  have unread (still : (invocation.reader callback).1.firstResponse = false) :
      invocation.firstResponse = false ∧ callback.data = none := by
    have before : invocation.firstResponse = false := by
      by_contra seen
      simp [(invocation.reader_firstResponse callback (by simpa using seen)).1] at still
    constructor
    · exact before
    · by_contra data
      simp [invocation.reader_reads callback data (held.opened call invocation standing before)]
        at still
  constructor
  · intro index record found unfailed still
    rw [State.tick_invocations] at found
    rw [State.tick_ackMap, State.tick_deferred]
    have before : index ∈ state.ackMap ∨
        ∃ entry ∈ state.deferred, entry.1 = index ∧ entry.2.data ≠ none := by
      rcases Ledger.getElem?_set_cases found with ⟨rfl, rfl⟩ | ⟨-, found⟩
      · exact held.awaited index invocation standing (sending ▸ unfailed) (unread still).1
      · exact held.awaited index record found unfailed still
    rcases before with listed | ⟨entry, member, same, data⟩
    · exact Or.inl listed
    · rw [scheduled] at member
      rcases List.mem_cons.mp member with rfl | member
      · rcases Ledger.getElem?_set_cases found with ⟨-, rfl⟩ | ⟨different, -⟩
        · exact absurd (unread still).2 data
        · exact absurd same.symm different
      · exact Or.inr ⟨entry, member, same, data⟩
  · intro index record found still
    rw [State.tick_invocations] at found
    rcases Ledger.getElem?_set_cases found with ⟨rfl, rfl⟩ | ⟨-, found⟩
    · obtain ⟨before, absent⟩ := unread still
      rw [(invocation.reader_absent callback absent).2]
      exact held.opened index invocation standing before
    · exact held.opened index record found still

/-- Every step keeps track of the requests that wait. -/
theorem tracked_step {event : Event} {added : List Output} (held : state.Tracked)
    (stepped : connection.step state event = some (next, added)) : next.Tracked := by
  have listed (index : Nat) (member : index ∈ state.ackMap) {failed : Prop} :
      index ∈ state.ackMap ∨ failed := Or.inl member
  cases step_change stepped with
  | clients kind ledger stops _ => exact tracked_of_ledger held ledger
  | response client response => exact tracked_receive held response
  | invoked key abortable draws => exact tracked_invoke held key abortable draws
  | sent call invocation standing sending =>
    exact tracked_set held standing rfl (by simp [sending]) rfl rfl
      (fun index member => listed index member) (fun _ member => member)
  | sendFailed call invocation standing sending =>
    refine tracked_set held standing (State.sendFailed_invocations ..) (by simp) rfl rfl ?_ ?_
    · intro index member
      rw [State.sendFailed_ackMap]
      by_cases same : index = call
      · exact Or.inr ⟨same, rfl⟩
      · exact Or.inl (List.mem_filter.mpr ⟨member, by simpa using same⟩)
    · simp
  | aborted call invocation standing signal =>
    exact tracked_set held standing rfl id rfl rfl (fun index member => listed index member)
      (fun _ member => List.mem_append_left _ member)
  | ticked call callback rest invocation scheduled standing =>
    exact tracked_tick held scheduled standing
  | asked call invocation body standing hasBody asked =>
    exact tracked_set held standing rfl id rfl (Iteration.ask_isClosed asked)
      (fun index member => listed index member) (fun _ member => member)
  | woken call invocation body standing woken =>
    exact tracked_set held standing rfl id rfl (Iteration.wake_isClosed woken)
      (fun index member => listed index member) (fun _ member => member)

end Steps

/-- The events that stop, remove or replace clients. -/
def Event.Retires : Event → Prop
  | .clientStopped _ | .message _ .connectionClose | .message _ .connectionReconnect
  | .message _ .connectionRebalance | .reconnected | .stop => True
  | _ => False

section Responses

variable {state next : State} {call : Nat} {invocation other : Invocation}

/-- A response with the ack id of an entry is scheduled, on whatever client it arrives. -/
theorem receive_scheduled {response : HttpResponse}
    (listed : call ∈ state.ackMap) (named : response.ackId = call + 1) :
    (call, .ofResponse response) ∈ (state.receive response).deferred := by
  simp [State.receive, named, listed]

/-- A response is read when its callback runs. -/
theorem tick_reads {callback : Callback} {rest : List (Nat × Callback)} {added : List Output}
    (held : state.Tracked) (scheduled : state.deferred = (call, callback) :: rest)
    (data : callback.data ≠ none) (stepped : connection.step state .tick = some (next, added)) :
    (next.invocations[call]?).map Invocation.firstResponse = some true := by
  cases step_change stepped with
  | clients kind ledger stops _ => exact kind.elim
  | ticked own first others invocation listed standing =>
    rw [scheduled] at listed
    cases listed
    have inside := (List.getElem?_eq_some_iff.mp standing).1
    have reads : (invocation.reader callback).1.firstResponse = true := by
      cases seen : invocation.firstResponse with
      | true => exact (invocation.reader_firstResponse callback seen).1
      | false =>
        exact invocation.reader_reads callback data (held.opened call invocation standing seen)
    rw [State.tick_invocations, List.getElem?_set_self inside, Option.map_some, reads]

/-- Only the callback of a response answers a request. -/
theorem answered_by_tick {event : Event} {added : List Output}
    (stepped : connection.step state event = some (next, added))
    (standing : state.invocations[call]? = some invocation)
    (unread : invocation.firstResponse = false) (found : next.invocations[call]? = some other)
    (answered : other.firstResponse = true) :
    event = .tick ∧ ∃ callback rest, state.deferred = (call, callback) :: rest ∧
      callback.data ≠ none := by
  have unanswered (kept : other.firstResponse = invocation.firstResponse) : False := by
    rw [unread, answered] at kept
    cases kept
  -- Any other record of the request has its first response from before.
  have replaced {index : Nat} {before after : Invocation}
      (here : state.invocations[index]? = some before)
      (written : next.invocations = state.invocations.set index after)
      (same : after.firstResponse = before.firstResponse) : False := by
    rw [written] at found
    rcases Ledger.getElem?_set_cases found with ⟨rfl, rfl⟩ | ⟨-, stays⟩
    · rw [standing] at here
      cases here
      exact unanswered same
    · rw [standing] at stays
      cases stays
      exact unanswered rfl
  cases step_change stepped with
  | clients kind ledger stops _ =>
    simp only [State.ledger, Prod.mk.injEq] at ledger
    rw [ledger.2.2.1, standing] at found
    cases found
    exact (unanswered rfl).elim
  | response client response =>
    rw [State.receive_invocations, standing] at found
    cases found
    exact (unanswered rfl).elim
  | invoked key abortable draws =>
    have kept : (state.invoke key abortable draws).1.invocations[call]? = some invocation := by
      have inside := (List.getElem?_eq_some_iff.mp standing).1
      unfold State.invoke
      dsimp only
      split
      · simpa using standing
      · rw [State.hand_invocations, State.afterGetClient_invocations,
          List.getElem?_append_left inside]
        exact standing
    rw [kept] at found
    cases found
    exact (unanswered rfl).elim
  | sent index before here sending => exact (replaced here rfl rfl).elim
  | sendFailed index before here sending =>
    exact (replaced here (State.sendFailed_invocations ..) rfl).elim
  | aborted index before here signal => exact (replaced here rfl rfl).elim
  | ticked index callback rest before scheduled here =>
    refine ⟨rfl, ?_⟩
    rw [State.tick_invocations] at found
    rcases Ledger.getElem?_set_cases found with ⟨rfl, rfl⟩ | ⟨-, stays⟩
    · refine ⟨callback, rest, scheduled, ?_⟩
      intro absent
      rw [standing] at here
      cases here
      exact unanswered (invocation.reader_absent callback absent).1
    · rw [standing] at stays
      cases stays
      exact (unanswered rfl).elim
  | asked index before body here hasBody asked => exact (replaced here rfl rfl).elim
  | woken index before body here woken => exact (replaced here rfl rfl).elim

theorem State.Tracked.readsResponses (held : state.Tracked) : state.ReadsResponses where
  scheduled := by
    intro call invocation standing unfailed unread
    rcases held.awaited call invocation standing unfailed unread with listed | waits
    · exact Or.inr (fun response named => receive_scheduled listed named)
    · exact Or.inl waits
  read := fun _ _ _ _ _ scheduled data stepped => tick_reads held scheduled data stepped
  only := fun _ _ _ _ _ _ stepped standing unread found answered =>
    answered_by_tick stepped standing unread found answered

end Responses

/-- In every reachable state a request whose promise is pending, and whose first response
was neither read nor scheduled, has an entry, and a response with its ack id is scheduled
on whatever client it arrives. The events that stop, remove or replace clients change
neither the requests nor their entries nor the scheduled callbacks. -/
theorem pending_keeps_entry {state : State}
    (reached : connection.Reachable State.initial state) :
    (∀ (call : Nat) (invocation : Invocation), state.invocations[call]? = some invocation →
      invocation.promise = .pending → invocation.firstResponse = false →
      (∀ entry ∈ state.deferred, entry.1 = call → entry.2.data = none) →
        call ∈ state.ackMap ∧
          ∀ client < state.clients.length, ∀ response, response.ackId = call + 1 →
            ∃ next, connection.step state (.message client (.httpResponse response)) =
              some (next, []) ∧ (call, .ofResponse response) ∈ next.deferred) ∧
    (∀ event next added, event.Retires → connection.step state event = some (next, added) →
      next.invocations = state.invocations ∧ next.ackMap = state.ackMap ∧
        next.deferred = state.deferred) := by
  have held : state.Tracked := connection.invariant_reachable State.Tracked
    (fun _ _ _ _ held stepped => tracked_step held stepped) initial_tracked reached
  constructor
  · intro call invocation standing pending unread unscheduled
    have unfailed : invocation.sending ≠ .failed := by
      intro failed
      simp [Invocation.promise, failed] at pending
    have listed : call ∈ state.ackMap := by
      apply (held.awaited call invocation standing unfailed unread).resolve_right
      rintro ⟨entry, member, same, data⟩
      exact data (unscheduled entry member same)
    constructor
    · exact listed
    · intro client inside response named
      refine ⟨state.receive response, ?_, receive_scheduled listed named⟩
      simp [connection, step, inside, State.processMessage]
  · intro event next added retires stepped
    cases step_change stepped with
    | clients kind ledger stops _ =>
      simp only [State.ledger, Prod.mk.injEq] at ledger
      exact ⟨ledger.2.2.1, ledger.2.1, ledger.2.2.2⟩
    | _ => exact retires.elim

section Sample

/-- A request whose client the service closes before it has answered. -/
def orphaned : List Event :=
  [.run, .started 0, .invoke none false (fun _ => ⟨0, 1, Nat.zero_lt_one⟩), .sent 0,
    .message 0 .connectionClose, .clientStopped 0]

/-- A request whose only response is read before its send completes. -/
def answeredEarly : List Event :=
  [.run, .started 0, .invoke none false (fun _ => ⟨0, 1, Nat.zero_lt_one⟩),
    .message 0 (.httpResponse ⟨1, 202, false, none⟩), .tick]

/-- The first request is left pending on a stopped client that is no longer in the table.
The second one is pending without an entry. -/
theorem orphaned_pending :
    (connection.run State.initial orphaned).map (fun result =>
        (result.1.invocations.map (fun invocation => (invocation.promise, invocation.client)),
          result.1.deferred, result.1.table, result.1.isStopped 0)) =
        some ([(.pending, 0)], [], [], true) ∧
      (connection.run State.initial answeredEarly).map (fun result =>
        (result.1.invocations.map Invocation.promise, result.1.deferred, result.1.ackMap)) =
        some ([.pending], [], []) := by
  decide +kernel

theorem pending_keeps_entry_orphaned : ∃ state, connection.Reachable State.initial state ∧
    state.table = [] ∧ 0 ∈ state.ackMap := by
  have completed : ((connection.run State.initial orphaned).map (fun result =>
      (result.1.table, result.1.deferred, result.1.invocations.map (fun invocation =>
        (invocation.promise, invocation.firstResponse))))) =
      some ([], [], [(.pending, false)]) := by decide +kernel
  obtain ⟨⟨state, outputs⟩, ran, same⟩ := Option.map_eq_some_iff.mp completed
  simp only [Prod.mk.injEq, List.map_eq_singleton_iff] at same
  obtain ⟨table, deferred, invocation, only, pending, unread⟩ := same
  refine ⟨state, ⟨_, _, ran⟩, table, ?_⟩
  exact ((pending_keeps_entry ⟨_, _, ran⟩).1 0 invocation (by simp [only]) pending unread
    (by simp [deferred])).1

end Sample

end WebPubSub.Tunnel
