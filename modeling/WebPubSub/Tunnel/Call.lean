import WebPubSub.Tunnel.Steps

/-!
# One call among others

What a connection does to a single invocation, as a machine of its own: the record of the
invocation, whether it has an entry in `_ackMap`, and its own scheduled callbacks in
order. A run of the connection, seen by one of its calls, is a run of this machine over
the events that concern the call. So nothing else affects it.

The names that depend on the other calls are left out of the view: the ack id, the client
and the consistent key.
-/

namespace WebPubSub.Tunnel

/-- A response without its ack id. -/
def HttpResponse.anonymous (response : HttpResponse) : HttpResponse := { response with ackId := 0 }

/-- A callback without the ack id of its response. -/
def Callback.anonymous (callback : Callback) : Callback :=
  { callback with data := callback.data.map HttpResponse.anonymous }

/-- An invocation without its key and its client. -/
def Invocation.anonymous (invocation : Invocation) : Invocation :=
  { invocation with key := none, client := 0 }

/-- An invocation with its part of the connection. -/
structure Call where
  invocation : Invocation
  listed : Bool
  queue : List Callback
deriving DecidableEq, Repr

/-- What concerns one call. -/
inductive CallEvent where
  | handed (abortable : Bool)
  | response (response : HttpResponse)
  | sent
  | sendFailed
  | abort
  | tick
  | ask
  | wake
deriving DecidableEq, Repr

namespace Call

/-- A call that was handed to a client. -/
def handed (abortable : Bool) : Call := ⟨.handed none 0 abortable, true, []⟩

/-- A response with the ack id of the call arrives. -/
def receive (call : Call) (response : HttpResponse) : Call :=
  if call.listed then
    { call with
      queue := call.queue ++ [.ofResponse response], listed := response.notCompleted }
  else call

/-- The consumer has acted on the body. -/
def withBody (call : Call) (body : Iteration (List UInt8)) : Call :=
  { call with invocation := { call.invocation with body := body } }

/-- One event of a call that was handed over. -/
def act (call : Call) : CallEvent → Option Call
  | .handed _ => none
  | .response response => some (call.receive response)
  | .sent =>
    if call.invocation.sending = .pending then
      some { call with invocation := { call.invocation with sending := .sent } }
    else none
  | .sendFailed =>
    if call.invocation.sending = .pending then
      some { call with
        invocation := { call.invocation with sending := .failed }, listed := false }
    else none
  | .abort =>
    if call.invocation.signal = .waiting then
      some { call with
        invocation := { call.invocation with signal := .aborted }
        queue := call.queue ++ [.aborted] }
    else none
  | .tick =>
    match call.queue with
    | [] => none
    | callback :: rest =>
      some { call with invocation := (call.invocation.reader callback).1, queue := rest }
  | .ask => if call.invocation.hasBody then call.invocation.body.ask.map call.withBody else none
  | .wake => call.invocation.body.wake.map call.withBody

/-- One event of a call, which may not exist yet. -/
def step : Option Call → CallEvent → Option (Option Call × List Empty)
  | none, .handed abortable => some (some (handed abortable), [])
  | none, _ => none
  | some call, event => (call.act event).map (fun next => (some next, []))

end Call

/-- The machine of one call. -/
def call : Machine (Option Call) CallEvent Empty := ⟨Call.step⟩

namespace State

/-- The scheduled callbacks of a call. -/
def queueOf (state : State) (index : Nat) : List Callback :=
  (state.deferred.filter (·.1 = index)).map (fun entry => entry.2.anonymous)

/-- What a call sees of the connection. -/
def view (state : State) (index : Nat) : Option Call :=
  (state.invocations[index]?).map (fun invocation =>
    ⟨invocation.anonymous, decide (index ∈ state.ackMap), state.queueOf index⟩)

/-- What an event is to a call. -/
def own (state : State) (index : Nat) : Event → Option CallEvent
  | .message _ (.httpResponse response) =>
    if index < state.invocations.length ∧ response.ackId = index + 1 then
      some (.response response.anonymous)
    else none
  | .invoke key abortable draws =>
    if index = state.invocations.length ∧ (state.getClient (key.filter (· ≠ [])) draws).isSome then
      some (.handed abortable)
    else none
  | .sent other => if other = index then some .sent else none
  | .sendFailed other => if other = index then some .sendFailed else none
  | .abort other => if other = index then some .abort else none
  | .tick => if state.deferred.head?.map Prod.fst = some index then some .tick else none
  | .ask other => if other = index then some .ask else none
  | .wake other => if other = index then some .wake else none
  | _ => none

/-- Entries and scheduled callbacks belong to calls that were made, and a scheduled
response has the ack id of its call. -/
structure Bounded (state : State) : Prop where
  listed : ∀ index ∈ state.ackMap, index < state.invocations.length
  scheduled : ∀ entry ∈ state.deferred, entry.1 < state.invocations.length
  named : ∀ entry ∈ state.deferred, ∀ response ∈ entry.2.data, response.ackId = entry.1 + 1

end State

/-- What a run is to a call. -/
def trace (index : Nat) : State → List Event → List CallEvent
  | _, [] => []
  | state, event :: events => (state.own index event).toList ++
      match connection.step state event with
      | some (next, _) => trace index next events
      | none => []

section Bounds

variable {state next : State} {index : Nat}

theorem initial_bounded : State.initial.Bounded :=
  ⟨by simp [State.initial], by simp [State.initial], by simp [State.initial]⟩

/-- A step keeps the bounds when it makes no call fewer and lists and schedules only
calls that were made. -/
theorem State.Bounded.grow (bounded : state.Bounded)
    (longer : state.invocations.length ≤ next.invocations.length)
    (ackMap : ∀ index ∈ next.ackMap, index ∈ state.ackMap ∨ index < next.invocations.length)
    (deferred : ∀ entry ∈ next.deferred, entry ∈ state.deferred ∨
      entry.1 < next.invocations.length ∧
        ∀ response ∈ entry.2.data, response.ackId = entry.1 + 1) : next.Bounded := by
  constructor
  · intro index member
    cases ackMap index member with
    | inl before => exact (bounded.listed index before).trans_le longer
    | inr inside => exact inside
  · intro entry member
    rcases deferred entry member with before | ⟨inside, -⟩
    · exact (bounded.scheduled entry before).trans_le longer
    · exact inside
  · intro entry member
    rcases deferred entry member with before | ⟨-, named⟩
    · exact bounded.named entry before
    · exact named

theorem receive_bounded (bounded : state.Bounded) (response : HttpResponse) :
    (state.receive response).Bounded := by
  unfold State.receive
  split
  · exact bounded
  · next call named =>
    split
    · next listed =>
      refine bounded.grow le_rfl ?_ ?_
      · intro index member
        dsimp only at member
        split at member
        · exact Or.inl member
        · exact Or.inl (List.mem_filter.mp member).1
      · intro entry member
        cases List.mem_append.mp member with
        | inl before => exact Or.inl before
        | inr fresh =>
          rw [List.mem_singleton.mp fresh]
          refine Or.inr ⟨bounded.listed call listed, fun written member => ?_⟩
          obtain rfl : response = written := by simpa [Callback.ofResponse] using member
          exact named
    · exact bounded

theorem invoke_bounded (bounded : state.Bounded) (key : Option Text) (abortable : Bool)
    (draws : Nat → Draw) : (state.invoke key abortable draws).1.Bounded := by
  unfold State.invoke
  dsimp only
  split
  · exact bounded.grow (by simp) (fun index member => Or.inl (by simpa using member))
      (fun entry member => Or.inl (by simpa using member))
  · refine bounded.grow (by simp) ?_ (fun entry member => Or.inl (by simpa using member))
    intro index member
    simp only [State.hand_ackMap, State.afterGetClient_ackMap, State.afterGetClient_invocations,
      List.mem_append, List.mem_singleton] at member
    rcases member with before | rfl
    · exact Or.inl before
    · exact Or.inr (by simp)

/-- Every step keeps the bounds. -/
theorem bounded_step {event : Event} {added : List Output} (bounded : state.Bounded)
    (stepped : connection.step state event = some (next, added)) : next.Bounded := by
  have inside {call : Nat} {invocation : Invocation}
      (standing : state.invocations[call]? = some invocation) : call < state.invocations.length :=
    (List.getElem?_eq_some_iff.mp standing).1
  cases step_change stepped with
  | clients kind ledger stops _ =>
    simp only [State.ledger, Prod.mk.injEq] at ledger
    obtain ⟨-, ackMap, invocations, deferred⟩ := ledger
    constructor
    · rw [ackMap, invocations]
      exact bounded.listed
    · rw [deferred, invocations]
      exact bounded.scheduled
    · rw [deferred]
      exact bounded.named
  | response client response => exact receive_bounded bounded response
  | invoked key abortable draws => exact invoke_bounded bounded key abortable draws
  | sendFailed call invocation standing sending =>
    refine bounded.grow (by simp) (fun index member => Or.inl ?_)
      (fun entry member => Or.inl (by simpa using member))
    rw [State.sendFailed_ackMap] at member
    exact (List.mem_filter.mp member).1
  | aborted call invocation standing signal =>
    refine bounded.grow (by simp [State.put]) (fun index member => Or.inl member) ?_
    intro entry member
    cases List.mem_append.mp member with
    | inl before => exact Or.inl before
    | inr fresh =>
      rw [List.mem_singleton.mp fresh]
      exact Or.inr ⟨by simpa [State.put] using inside standing, by simp [Callback.aborted]⟩
  | ticked call callback rest invocation scheduled standing =>
    apply bounded.grow (by simp) (fun index member => Or.inl (by simpa using member))
    intro entry member
    rw [State.tick_deferred] at member
    exact Or.inl (scheduled ▸ List.mem_cons_of_mem _ member)
  | sent call invocation standing sending
  | asked call invocation body standing hasBody asked
  | woken call invocation body standing woken =>
    exact bounded.grow (by simp [State.put]) (fun index member => Or.inl member)
      (fun entry member => Or.inl member)

/-- No step takes a call back. -/
theorem made_step {event : Event} {added : List Output}
    (stepped : connection.step state event = some (next, added)) :
    state.invocations.length ≤ next.invocations.length := by
  cases step_change stepped with
  | clients kind ledger stops _ =>
    simp only [State.ledger, Prod.mk.injEq] at ledger
    rw [ledger.2.2.1]
  | invoked key abortable draws =>
    unfold State.invoke
    dsimp only
    split <;> simp
  | _ => simp [State.put]

end Bounds

section Views

variable {state next : State} {index : Nat}

/-- The reader does not look at the names. -/
theorem reader_anonymous (invocation : Invocation) (callback : Callback) :
    (invocation.anonymous.reader callback.anonymous).1 =
      (invocation.reader callback).1.anonymous := by
  obtain ⟨key, client, signal, sending, firstResponse, resolved, body⟩ := invocation
  obtain ⟨data, error, done⟩ := callback
  cases data with
  | none => cases error <;> rfl
  | some response =>
    simp only [Invocation.reader, Callback.anonymous, Option.map_some, HttpResponse.anonymous,
      Invocation.anonymous]
    split
    · rfl
    · cases firstResponse <;> rfl

/-- A call that was made. -/
theorem view_of_standing {invocation : Invocation}
    (standing : state.invocations[index]? = some invocation) :
    state.view index =
      some ⟨invocation.anonymous, decide (index ∈ state.ackMap), state.queueOf index⟩ := by
  simp [State.view, standing]

/-- A call that was not made yet. -/
theorem view_of_absent (absent : state.invocations.length ≤ index) : state.view index = none := by
  simp [State.view, absent]

/-- A step that leaves the part of a call alone. -/
theorem view_same (invocations : next.invocations[index]? = state.invocations[index]?)
    (ackMap : index ∈ next.ackMap ↔ index ∈ state.ackMap)
    (queue : next.queueOf index = state.queueOf index) : next.view index = state.view index := by
  simp [State.view, invocations, ackMap, queue]

/-- Without scheduled callbacks of the call, a callback appended is another call's. -/
theorem queueOf_append (state : State) (entry : Nat × Callback)
    (deferred : next.deferred = state.deferred ++ [entry]) :
    next.queueOf index =
      state.queueOf index ++ if entry.1 = index then [entry.2.anonymous] else [] := by
  by_cases same : entry.1 = index <;>
    simp [State.queueOf, deferred, List.filter_append, same]

theorem queueOf_cons (entry : Nat × Callback)
    (deferred : state.deferred = entry :: next.deferred) :
    state.queueOf index =
      (if entry.1 = index then [entry.2.anonymous] else []) ++ next.queueOf index := by
  by_cases same : entry.1 = index <;> simp [State.queueOf, deferred, same]

/-- What a step is to a call is a step of the call, or nothing. -/
def Sees (state : State) (index : Nat) (event : Event) (next : State) : Prop :=
  match state.own index event with
  | some own => call.step (state.view index) own = some (next.view index, [])
  | none => next.view index = state.view index

/-- A step that replaces the record of one call and acts on that call. -/
theorem sees_set {event : Event} (own : CallEvent) {number : Nat} {invocation other : Invocation}
    (standing : state.invocations[number]? = some invocation)
    (replaced : next.invocations = state.invocations.set number other)
    (named : state.own index event = if number = index then some own else none)
    (elsewhere : index ≠ number → (index ∈ next.ackMap ↔ index ∈ state.ackMap) ∧
      next.queueOf index = state.queueOf index)
    (acted : number = index → Call.act
      ⟨invocation.anonymous, decide (index ∈ state.ackMap), state.queueOf index⟩ own =
        some ⟨other.anonymous, decide (index ∈ next.ackMap), next.queueOf index⟩) :
    Sees state index event next := by
  unfold Sees
  rw [named]
  by_cases same : number = index
  · subst same
    obtain ⟨inside, -⟩ := List.getElem?_eq_some_iff.mp standing
    have found : next.invocations[number]? = some other := by simp [replaced, inside]
    simp [view_of_standing standing, view_of_standing found, call, Call.step, acted rfl]
  · obtain ⟨ackMap, queue⟩ := elsewhere (Ne.symm same)
    simp only [same, if_false]
    exact view_same (by simp [replaced, same]) ackMap queue

theorem receive_listed {response : HttpResponse} (ackId : response.ackId = index + 1)
    (listed : index ∈ state.ackMap) : state.receive response = { state with
      deferred := state.deferred ++ [(index, .ofResponse response)]
      ackMap := if response.notCompleted then state.ackMap
        else state.ackMap.filter (· ≠ index) } := by
  simp [State.receive, ackId, listed]

/-- A response without an entry is dropped. -/
theorem receive_unlisted {response : HttpResponse}
    (unlisted : ∀ index ∈ state.ackMap, response.ackId ≠ index + 1) :
    state.receive response = state := by
  unfold State.receive
  split
  · rfl
  · next call named =>
    split
    · next listed => exact absurd named (unlisted call listed)
    · rfl

/-- A response concerns the call with its ack id, if that call was made. -/
theorem sees_receive (bounded : state.Bounded) (client : Nat) (response : HttpResponse) :
    Sees state index (.message client (.httpResponse response)) (state.receive response) := by
  unfold Sees State.own
  dsimp only
  by_cases entry : ∃ number ∈ state.ackMap, response.ackId = number + 1
  · obtain ⟨number, listed, ackId⟩ := entry
    rw [receive_listed ackId listed]
    by_cases same : number = index
    · subst same
      have inside : number < state.invocations.length := bounded.listed number listed
      cases last : response.notCompleted <;>
        simp [inside, ackId, State.view, call, Call.step, Call.act, Call.receive, listed, State.queueOf,
          List.filter_append, HttpResponse.anonymous, Callback.anonymous,
          Callback.ofResponse, last]
    · have other : ¬(index < state.invocations.length ∧ response.ackId = index + 1) := by
        rintro ⟨-, named⟩
        omega
      rw [if_neg other]
      refine view_same rfl ?_ ?_
      · dsimp only
        split
        · rfl
        · simp [Ne.symm same]
      · rw [queueOf_append state (number, .ofResponse response) rfl]
        simp [same]
  · simp only [not_exists, not_and] at entry
    rw [receive_unlisted entry]
    split
    · next own named =>
      split at named
      · next own =>
        obtain ⟨inside, ackId⟩ := own
        have unlisted : index ∉ state.ackMap := fun listed => entry index listed ackId
        obtain ⟨rfl⟩ := named
        simp [call, Call.step, Call.act, Call.receive, State.view, inside, unlisted]
      · cases named
    · rfl

/-- An invocation that finds a client concerns the call that it makes. -/
theorem sees_invoke (bounded : state.Bounded) (key : Option Text) (abortable : Bool)
    (draws : Nat → Draw) :
    Sees state index (.invoke key abortable draws) (state.invoke key abortable draws).1 := by
  unfold Sees State.own State.invoke
  dsimp only
  cases got : state.getClient (key.filter (· ≠ [])) draws with
  | none =>
    simp only [Option.isSome_none, Bool.false_eq_true, and_false, if_false]
    exact view_same (by simp) (by simp) (by simp [State.queueOf])
  | some client =>
    simp only [Option.isSome_some, and_true]
    by_cases fresh : index = state.invocations.length
    · subst fresh
      have unscheduled : state.queueOf state.invocations.length = [] := by
        simp only [State.queueOf, List.map_eq_nil_iff, List.filter_eq_nil_iff]
        intro entry member
        simpa using (bounded.scheduled entry member).ne
      rw [if_pos rfl, view_of_absent le_rfl]
      simp only [call, Call.step, State.view, State.hand_invocations, State.hand_ackMap,
        State.afterGetClient_invocations, State.afterGetClient_ackMap, State.queueOf,
        State.hand_deferred, State.afterGetClient_deferred] at unscheduled ⊢
      simp [unscheduled, Call.handed, Invocation.handed, Invocation.anonymous]
    · rw [if_neg fresh]
      refine view_same ?_ (by simp [fresh]) (by simp [State.queueOf])
      rw [State.hand_invocations, State.afterGetClient_invocations]
      cases Nat.lt_or_ge index state.invocations.length with
      | inl inside => exact List.getElem?_append_left inside
      | inr outside =>
        have beyond : state.invocations.length < index := by omega
        rw [List.getElem?_eq_none (by simpa using Nat.succ_le_of_lt beyond), List.getElem?_eq_none outside]

/-- What a connection does is to each of its calls a step of that call, or nothing. -/
theorem sees_step {event : Event} {added : List Output} (bounded : state.Bounded)
    (stepped : connection.step state event = some (next, added)) : Sees state index event next := by
  cases step_change stepped with
  | clients kind ledger stops _ =>
    simp only [State.ledger, Prod.mk.injEq] at ledger
    obtain ⟨-, ackMap, invocations, deferred⟩ := ledger
    have unseen : state.own index event = none := by
      revert kind
      cases event with
      | message client message => cases message <;> simp [State.own, Event.OfClients]
      | _ => simp [State.own, Event.OfClients]
    rw [Sees, unseen]
    exact view_same (by rw [invocations]) (by rw [ackMap]) (by rw [State.queueOf, deferred]; rfl)
  | response client response => exact sees_receive bounded client response
  | invoked key abortable draws => exact sees_invoke bounded key abortable draws
  | sent number invocation standing sending =>
    refine sees_set _ standing rfl rfl (fun _ => ⟨Iff.rfl, rfl⟩) (fun _ => ?_)
    have pending : invocation.anonymous.sending = .pending := sending
    simp only [Call.act, pending, if_true]
    rfl
  | sendFailed number invocation standing sending =>
    refine sees_set _ standing (State.sendFailed_invocations ..) rfl (fun other => ?_) ?_
    · simp [other, State.queueOf]
    · rintro rfl
      simp [Call.act, Invocation.anonymous, sending, State.queueOf]
  | aborted number invocation standing signal =>
    refine sees_set _ standing rfl rfl (fun other => ⟨Iff.rfl, ?_⟩) ?_
    · rw [queueOf_append state (number, .aborted) (by rfl)]
      simp [Ne.symm other]
    · rintro rfl
      simp [Call.act, Invocation.anonymous, signal, State.put, State.queueOf, Callback.anonymous,
        Callback.aborted]
      rfl
  | ticked number callback rest invocation scheduled standing =>
    have queue : state.queueOf index = (if number = index then [callback.anonymous] else []) ++
        (state.tick number callback rest invocation).queueOf index :=
      queueOf_cons (number, callback) (by simpa using scheduled)
    refine sees_set .tick standing (State.tick_invocations ..) ?_ (fun other => ?_) ?_
    · simp [State.own, scheduled]
    · simp [queue, Ne.symm other]
    · rintro rfl
      simp [queue, Call.act, reader_anonymous]
  | asked number invocation body standing hasBody asked =>
    refine sees_set _ standing rfl rfl (fun _ => ⟨Iff.rfl, rfl⟩) (fun _ => ?_)
    have same : invocation.anonymous.hasBody = true := hasBody
    have taken : invocation.anonymous.body.ask = some body := asked
    simp only [Call.act, same, if_true, taken, Option.map_some]
    rfl
  | woken number invocation body standing woken =>
    refine sees_set _ standing rfl rfl (fun _ => ⟨Iff.rfl, rfl⟩) (fun _ => ?_)
    have taken : invocation.anonymous.body.wake = some body := woken
    simp only [Call.act, taken, Option.map_some]
    rfl

end Views

/-- A run of the connection is to each call a run of that call over its own events. -/
theorem trace_run {state final : State} {events : List Event} {outputs : List Output} {index : Nat}
    (bounded : state.Bounded) (ran : connection.run state events = some (final, outputs)) :
    call.run (state.view index) (trace index state events) = some (final.view index, []) := by
  induction events generalizing state outputs with
  | nil =>
    obtain ⟨rfl, -⟩ : state = final ∧ [] = outputs := by simpa using ran
    rfl
  | cons event events inductionHypothesis =>
    obtain ⟨next, first, rest, stepped, continued, -⟩ :=
      (connection.run_cons_iff _ _ _ _ _).mp ran
    have later := inductionHypothesis (bounded_step bounded stepped) continued
    have here : Sees state index event next := sees_step bounded stepped
    simp only [trace, stepped]
    unfold Sees at here
    split at here
    · next own named =>
      rw [named, Option.toList_some, List.singleton_append, call.run_cons_of_step here, later]
      rfl
    · next unseen =>
      rw [unseen, Option.toList_none, List.nil_append, ← here, later]

end WebPubSub.Tunnel
