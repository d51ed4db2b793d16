import WebPubSub.Tunnel.Steps

/-!
# Aborting an invocation

The abort signal of an invocation defers the callback of ordinary responses, without data. The
callback passes the error on to the body and then reads the data, so it throws whenever the
signal fires, and what stands after that line does not happen. Neither the abort nor its
callback settles the promise, removes the entry of the acknowledgement map or releases the lock:
these come to pass only through a response or a send that fails, as they would without an
abort.
-/

namespace WebPubSub.Tunnel

/-- The step releases the lock that was taken for a request. -/
def releasesLock (call : Nat) : State × Event → Bool
  | (_, .sendFailed other) => other = call
  | (state, .tick) =>
    match state.deferred with
    | [] => false
    | (other, callback) :: _ => other = call &&
        ((state.invocations[call]?).map (fun invocation => invocation.releases callback)).getD false
  | _ => false

/-- What is asked of a request whose signal has fired, once its deferred callbacks have run and
its send is over. -/
structure AbortSafe (past : List (State × Event)) (final : State) (call : Nat) : Prop where
  settled : ∀ invocation ∈ final.invocations[call]?, invocation.promise ≠ .pending
  once : ∀ step ∈ past, ∀ before ∈ step.1.invocations[call]?, before.promise ≠ .pending →
    ∀ invocation ∈ final.invocations[call]?, invocation.promise = before.promise
  ends : ∀ invocation ∈ final.invocations[call]?, invocation.body.ended = none →
    invocation.body.iterator.errorToThrow ≠ none
  unlisted : call ∉ final.ackMap
  released : ∀ invocation ∈ final.invocations[call]?, invocation.key ≠ none →
    past.countP (releasesLock call) = 1
  reads : ∀ state, (state, Event.tick) ∈ past → ∀ entry ∈ state.deferred.head?,
    entry.1 = call → entry.2.data ≠ none

section Steps

variable {state next : State} {event : Event} {added : List Output} {call : Nat}

/-- A callback that is deferred stays so until it runs. -/
theorem deferred_kept (stepped : connection.step state event = some (next, added))
    {entry : Nat × Callback} (waiting : entry ∈ state.deferred) :
    entry ∈ next.deferred ∨ (event = .tick ∧ state.deferred.head? = some entry) := by
  cases step_change stepped with
  | clients kind ledger stops listed =>
    simp only [State.ledger, Prod.mk.injEq] at ledger
    rw [ledger.2.2.2]
    exact Or.inl waiting
  | response client response =>
    left
    unfold State.receive
    split
    · exact waiting
    · split
      · exact List.mem_append_left _ waiting
      · exact waiting
  | invoked key abortable draws =>
    left
    unfold State.invoke
    dsimp only
    split
    · simpa using waiting
    · simpa using waiting
  | sent call invocation standing sending => exact Or.inl waiting
  | sendFailed call invocation standing sending => exact Or.inl (by simpa using waiting)
  | aborted call invocation standing signal => exact Or.inl (List.mem_append_left _ waiting)
  | ticked call callback rest invocation scheduled standing =>
    rw [scheduled] at waiting ⊢
    rcases List.mem_cons.mp waiting with rfl | later
    · exact Or.inr ⟨rfl, rfl⟩
    · rw [State.tick_deferred]
      exact Or.inl later
  | asked call invocation body standing hasBody asked => exact Or.inl waiting
  | woken call invocation body standing woken => exact Or.inl waiting

/-- A signal that fires defers the callback without data. -/
theorem abort_deferred (stepped : connection.step state (.abort call) = some (next, added)) :
    (call, Callback.aborted) ∈ next.deferred := by
  simp [connection, step, Option.bind_eq_some_iff] at stepped
  obtain ⟨invocation, -, -, rfl, -⟩ := stepped
  simp

/-- Neither an entry nor a lock nor a promise is touched. -/
structure KeepsRequests (state next : State) : Prop where
  ackMap : next.ackMap = state.ackMap
  keyMapping : next.keyMapping = state.keyMapping
  promises : ∀ other : Nat, (next.invocations[other]?).map Invocation.promise =
    (state.invocations[other]?).map Invocation.promise

/-- A record is replaced by one with the same promise. -/
theorem put_promises {invocation changed : Invocation}
    (standing : state.invocations[call]? = some invocation)
    (same : changed.promise = invocation.promise) (other : Nat) :
    ((state.put call changed).invocations[other]?).map Invocation.promise =
      (state.invocations[other]?).map Invocation.promise := by
  obtain ⟨inside, found⟩ := List.getElem?_eq_some_iff.mp standing
  by_cases own : other = call
  · subst own
    simp [State.put, inside, found, same]
  · simp [State.put, List.getElem?_set_ne (Ne.symm own)]

theorem abort_keeps (stepped : connection.step state (.abort call) = some (next, added)) :
    KeepsRequests state next := by
  simp [connection, step, Option.bind_eq_some_iff] at stepped
  obtain ⟨invocation, standing, -, rfl, -⟩ := stepped
  exact ⟨rfl, rfl, put_promises standing rfl⟩

/-- The callback without data throws after it has passed the error on to the body. -/
theorem reader_aborted (invocation : Invocation) :
    invocation.reader .aborted = ({ invocation with
      body := invocation.body.produce (invocation.body.iterator.error "aborted".toList) }, true) :=
  rfl

theorem aborted_tick_keeps {rest : List (Nat × Callback)}
    (due : state.deferred = (call, .aborted) :: rest)
    (stepped : connection.step state .tick = some (next, added)) :
    KeepsRequests state next ∧ next.uncaught = state.uncaught + 1 := by
  simp [connection, step, due, Option.bind_eq_some_iff] at stepped
  obtain ⟨invocation, standing, rfl, -⟩ := stepped
  have unreleased : invocation.releases .aborted = false := by
    rw [Invocation.releases, reader_aborted]
    exact Bool.not_and_self _
  simp only [State.tick, reader_aborted, unreleased]
  exact ⟨⟨rfl, rfl, put_promises standing rfl⟩, rfl⟩

end Steps

section Runs

variable {events : List Event} {final : State} {outputs : List Output} {call : Nat}

/-- The callback of a signal that has fired is waiting or has run. -/
theorem aborted_waits_or_ran
    (ran : connection.run State.initial events = some (final, outputs))
    (fired : ∃ state, (state, Event.abort call) ∈ connection.steps State.initial events) :
    (call, Callback.aborted) ∈ final.deferred ∨
      ∃ state, (state, Event.tick) ∈ connection.steps State.initial events ∧
        state.deferred.head? = some (call, .aborted) := by
  revert fired
  refine Machine.run_induction connection
    (fun events _ final => (∃ state, (state, Event.abort call) ∈
        connection.steps State.initial events) →
      (call, Callback.aborted) ∈ final.deferred ∨
        ∃ state, (state, Event.tick) ∈ connection.steps State.initial events ∧
          state.deferred.head? = some (call, .aborted)) ?_ ?_ ran
  · rintro ⟨state, impossible⟩
    cases impossible
  · intro before outputs state event next added began inductionHypothesis stepped
    have last : connection.steps state [event] = [(state, event)] := by
      simp [Machine.steps, stepped]
    rw [Machine.steps_append connection began, last]
    rintro ⟨source, listed⟩
    cases List.mem_append.mp listed with
    | inl earlier =>
      rcases inductionHypothesis ⟨source, earlier⟩ with waiting | ⟨ticked, past, head⟩
      · rcases deferred_kept stepped waiting with still | ⟨rfl, head⟩
        · exact Or.inl still
        · exact Or.inr ⟨state, by simp, head⟩
      · exact Or.inr ⟨ticked, List.mem_append_left _ past, head⟩
    | inr now =>
      obtain ⟨rfl, rfl⟩ := Prod.mk.inj (List.mem_singleton.mp now)
      exact Or.inl (abort_deferred stepped)

/-- Wherever in a run the signal of an invocation fires, its callback has read the fields of an
absent response once it has run. -/
theorem abort_unsafe (ran : connection.run State.initial events = some (final, outputs))
    (fired : ∃ state, (state, Event.abort call) ∈ connection.steps State.initial events)
    (drained : (call, Callback.aborted) ∉ final.deferred) :
    ¬AbortSafe (connection.steps State.initial events) final call := by
  intro safe
  obtain ⟨state, ticked, head⟩ := (aborted_waits_or_ran ran fired).resolve_left drained
  exact safe.reads state ticked (call, .aborted) head rfl rfl

end Runs

/-- A request with a consistent key that is aborted after it was sent, up to the callback. -/
def abortedRun : List Event :=
  [.run, .started 0, .invoke (some "key".toList) true (fun _ => ⟨0, 1, Nat.one_pos⟩), .sent 0,
    .abort 0, .tick]

/-- The state that the run ends in. -/
def abortedState : State :=
  ((connection.run State.initial abortedRun).map Prod.fst).getD State.initial

theorem abort_unsafe_sent :
    ¬AbortSafe (connection.steps State.initial abortedRun) abortedState 0 :=
  abort_unsafe (show connection.run State.initial abortedRun =
      some (abortedState, [.handed 0 0]) from rfl)
    ⟨_, List.mem_of_getElem? (i := 4) rfl⟩ (by decide)

/-- The promise stays pending, the entry and the lock stay, and an exception was left uncaught. -/
theorem abort_settles_nothing :
    connection.run State.initial abortedRun = some (abortedState, [.handed 0 0]) ∧
      (abortedState.invocations[0]?).map Invocation.promise = some .pending ∧
      0 ∈ abortedState.ackMap ∧ abortedState.keyMapping "key".toList = some (1, 0) ∧
      abortedState.deferred = [] ∧ abortedState.uncaught = 1 ∧
      ¬AbortSafe (connection.steps State.initial abortedRun) abortedState 0 := by
  have listed : 0 ∈ abortedState.ackMap := by decide
  exact ⟨rfl, by decide, listed, by decide, rfl, rfl, fun safe => safe.unlisted listed⟩

end WebPubSub.Tunnel
