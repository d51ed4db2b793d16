import WebPubSub.Tunnel.Removal

/-!
# Streaming of response bodies

A response body is passed from the service to its consumer through three pieces of state:
the scheduled callbacks, the first-response branch of the reader, and the body iterator.
At every point of every run the responses that arrived are those that the reader has
read, in order, followed by those whose callback is scheduled. The body holds the contents
of the former, and is closed when the last response was read.

An invocation without an abort signal is considered, whose send does not fail. Responses
that arrive before it is made do not count, since their ack id is not in use yet.
-/

namespace WebPubSub.Tunnel

/-- What an invocation has come to. -/
structure Outcome where
  promise : Settlement
  yielded : List (List UInt8)
  ended : Option Ending
deriving DecidableEq, Repr

def Invocation.outcome (invocation : Invocation) : Outcome :=
  ⟨invocation.promise, invocation.body.yielded, invocation.body.ended⟩

def State.outcome (state : State) (index : Nat) : Option Outcome :=
  (state.invocations[index]?).map Invocation.outcome

/-- The contents that are present. -/
def contents (responses : List HttpResponse) : List (List UInt8) :=
  responses.filterMap HttpResponse.content

/-- The responses with the ack id of a call. -/
def responses (index : Nat) (events : List Event) : List HttpResponse :=
  events.filterMap (fun event => match event with
    | .message _ (.httpResponse response) =>
      if response.ackId = index + 1 then some response else none
    | _ => none)

/-- Only the last response may be the completing one. -/
def Marked (responses : List HttpResponse) : Prop :=
  ∀ response ∈ responses.dropLast, response.notCompleted = true

/-- Whether the completing response is among these. -/
def complete (responses : List HttpResponse) : Bool :=
  responses.any (fun response => !response.notCompleted)

/-- An outcome that agrees with a sequence of responses, which may be still to come. -/
structure Outcome.Follows (outcome : Outcome) (sequence : List HttpResponse) : Prop where
  promise : outcome.promise = .pending ∨
    ∃ first ∈ sequence.head?, outcome.promise = .fulfilled first.statusCode
  yielded : outcome.yielded <+: contents sequence
  ended : ∀ ending ∈ outcome.ended, ending = .finished ∧ outcome.yielded = contents sequence

section Sequences

variable {front arrived read pending : List HttpResponse} {last response : HttpResponse}

/-- What arrived of a sequence that is completed by its last response. -/
theorem marked_of_prefix (marked : ∀ response ∈ front, response.notCompleted = true)
    (arriving : arrived <+: front ++ [last]) : Marked arrived := by
  intro response member
  rcases List.prefix_concat_iff.mp arriving with rfl | before
  · rw [List.dropLast_concat] at member
    exact marked response member
  · exact marked response (before.subset (List.dropLast_subset _ member))

/-- Once the completing response arrived, everything did. -/
theorem eq_of_complete (marked : ∀ response ∈ front, response.notCompleted = true)
    (arriving : arrived <+: front ++ [last]) (completed : complete arrived = true) :
    arrived = front ++ [last] := by
  cases List.prefix_concat_iff.mp arriving with
  | inl same => exact same
  | inr before =>
    simp only [complete, List.any_eq_true, Bool.not_eq_true'] at completed
    obtain ⟨response, member, completing⟩ := completed
    simp [marked response (before.subset member)] at completing

/-- Before another response, none has completed the body. -/
theorem Marked.incomplete (marked : Marked (read ++ response :: pending)) :
    complete read = false := by
  simp only [complete, List.any_eq_false, Bool.not_eq_true', Bool.not_eq_false]
  intro earlier member
  apply marked earlier
  rw [List.dropLast_append_of_ne_nil (by simp)]
  exact List.mem_append_left _ member

theorem Marked.of_append (marked : Marked (read ++ pending)) : Marked read := by
  cases pending with
  | nil => simpa using marked
  | cons response pending =>
    intro earlier member
    apply marked earlier
    rw [List.dropLast_append_of_ne_nil (by simp)]
    exact List.mem_append_left _ (List.dropLast_subset _ member)

@[simp] theorem complete_append (read pending : List HttpResponse) :
    complete (read ++ pending) = (complete read || complete pending) := List.any_append

@[simp] theorem contents_append (read pending : List HttpResponse) :
    contents (read ++ pending) = contents read ++ contents pending := List.filterMap_append

theorem contents_singleton (response : HttpResponse) :
    contents [response] = response.content.toList := by
  cases content : response.content <;> simp [contents, content]

end Sequences

/-- The responses that arrive for a call. -/
def arrivals (events : List CallEvent) : List HttpResponse :=
  events.filterMap (fun event => match event with
    | .response response => some response
    | _ => none)

/-- The state of a call of which some responses were read and some are scheduled. -/
structure Call.Streams (read pending : List HttpResponse) (call : Call) : Prop where
  queue : call.queue = pending.map .ofResponse
  listed : call.listed = !complete (read ++ pending)
  signal : call.invocation.signal = .absent
  sending : call.invocation.sending ≠ .failed
  seen : call.invocation.firstResponse = !read.isEmpty
  resolved : call.invocation.resolved = read.head?.map HttpResponse.statusCode
  body : call.invocation.body.Fed (contents read) (complete read)

section Calls

variable {current next : Call} {read pending : List HttpResponse} {response : HttpResponse}

theorem handed_streams : (Call.handed false).Streams [] [] :=
  ⟨rfl, rfl, rfl, by simp [Call.handed, Invocation.handed], rfl, rfl, empty_fed⟩

/-- A response that arrives is scheduled, since the call still has its entry. -/
theorem receive_streams (streams : current.Streams read pending)
    (marked : Marked (read ++ pending ++ [response])) :
    (current.receive response).Streams read (pending ++ [response]) := by
  have incomplete : complete (read ++ pending) = false := marked.incomplete
  have listed : current.listed = true := by rw [streams.listed, incomplete]; rfl
  simp only [Call.receive, listed, if_true]
  refine ⟨?_, ?_, streams.signal, streams.sending, streams.seen, streams.resolved, streams.body⟩
  · simp [streams.queue]
  · rw [← List.append_assoc, complete_append, incomplete]
    simp [complete]

/-- The callback of a response adds its content and closes the body after the last one. -/
theorem reader_fed {invocation : Invocation} {added : List (List UInt8)}
    (fed : invocation.body.Fed added false) (response : HttpResponse) :
    ∃ body, (invocation.reader (.ofResponse response)).1 = { invocation with
        body := body, firstResponse := true
        resolved := if invocation.firstResponse then invocation.resolved
          else some response.statusCode } ∧
      body.Fed (added ++ response.content.toList) (!response.notCompleted) := by
  have closing {grown : Iteration (List UInt8)} {all : List (List UInt8)}
      (opened : grown.Fed all false) (notCompleted : Bool) :
      (if notCompleted then grown else grown.produce grown.iterator.close).Fed all
        (!notCompleted) := by
    cases notCompleted with
    | true => exact opened
    | false => exact close_fed opened
  obtain ⟨ackId, statusCode, notCompleted, content⟩ := response
  cases content with
  | none =>
    refine ⟨_, ?_, closing (by simpa using fed) notCompleted⟩
    cases seen : invocation.firstResponse <;> cases notCompleted <;>
      simp [Invocation.reader, Callback.ofResponse, seen]
  | some content =>
    obtain ⟨iterator, grew, after⟩ := add_fed fed content
    refine ⟨_, ?_, closing after notCompleted⟩
    cases seen : invocation.firstResponse <;> cases notCompleted <;>
      simp [Invocation.reader, Callback.ofResponse, seen, grew]

/-- A scheduled callback reads the response that arrived first. -/
theorem tick_streams (streams : current.Streams read (response :: pending))
    (marked : Marked (read ++ response :: pending)) (acted : current.act .tick = some next) :
    next.Streams (read ++ [response]) pending := by
  have incomplete : complete read = false := marked.incomplete
  have fed : current.invocation.body.Fed (contents read) false := incomplete ▸ streams.body
  obtain ⟨body, readBody, after⟩ := reader_fed fed response
  simp only [Call.act, streams.queue, List.map_cons, Option.some.injEq] at acted
  subst acted
  constructor
  · rfl
  · simp [streams.listed]
  · rw [readBody]
    exact streams.signal
  · rw [readBody]
    exact streams.sending
  · simp [readBody]
  · rw [readBody]
    cases read <;> simp [streams.seen, streams.resolved]
  · rw [readBody, contents_append, complete_append, incomplete, contents_singleton]
    simpa [complete] using after

/-- What an event is to a call whose send does not fail. -/
theorem act_streams {event : CallEvent} (streams : current.Streams read pending)
    (sent : event ≠ .sendFailed) (marked : Marked (read ++ pending ++ arrivals [event]))
    (acted : current.act event = some next) :
    ∃ nextRead nextPending, next.Streams nextRead nextPending ∧
      nextRead ++ nextPending = read ++ pending ++ arrivals [event] := by
  have same (kept : next.Streams read pending) (none : arrivals [event] = []) :
      ∃ nextRead nextPending, next.Streams nextRead nextPending ∧
        nextRead ++ nextPending = read ++ pending ++ arrivals [event] :=
    ⟨read, pending, kept, by rw [none, List.append_nil]⟩
  cases event with
  | handed abortable => cases acted
  | response response =>
    obtain rfl : current.receive response = next := Option.some.inj acted
    exact ⟨read, pending ++ [response], receive_streams streams marked, by simp [arrivals]⟩
  | sent =>
    refine same ?_ rfl
    simp only [Call.act, Option.ite_none_right_eq_some, Option.some.injEq] at acted
    obtain ⟨-, rfl⟩ := acted
    exact ⟨streams.queue, streams.listed, streams.signal, by simp, streams.seen, streams.resolved,
      streams.body⟩
  | sendFailed => exact absurd rfl sent
  | abort => simp [Call.act, streams.signal] at acted
  | tick =>
    cases pending with
    | nil => simp [Call.act, streams.queue] at acted
    | cons response pending =>
      refine ⟨read ++ [response], pending, tick_streams streams ?_ acted, by simp [arrivals]⟩
      simpa [arrivals] using marked
  | ask =>
    refine same ?_ rfl
    simp only [Call.act, Option.ite_none_right_eq_some, Option.map_eq_some_iff] at acted
    obtain ⟨-, body, asked, rfl⟩ := acted
    exact ⟨streams.queue, streams.listed, streams.signal, streams.sending, streams.seen,
      streams.resolved, ask_fed streams.body asked⟩
  | wake =>
    refine same ?_ rfl
    simp only [Call.act, Option.map_eq_some_iff] at acted
    obtain ⟨body, woken, rfl⟩ := acted
    exact ⟨streams.queue, streams.listed, streams.signal, streams.sending, streams.seen,
      streams.resolved, wake_fed streams.body woken⟩

/-- A run of a call whose send does not fail. -/
theorem streams_run {own : List CallEvent} {final : Option Call} {outputs : List Empty}
    (ran : call.run (some (.handed false)) own = some (final, outputs))
    (unfailed : CallEvent.sendFailed ∉ own) (marked : Marked (arrivals own)) :
    ∃ current read pending, final = some current ∧ current.Streams read pending ∧
      read ++ pending = arrivals own := by
  refine call.run_induction (fun own _ final => CallEvent.sendFailed ∉ own →
    Marked (arrivals own) → ∃ current read pending, final = some current ∧
      current.Streams read pending ∧ read ++ pending = arrivals own) ?_ ?_ ran unfailed marked
  · exact fun _ _ => ⟨_, [], [], rfl, handed_streams, rfl⟩
  · intro before earlier state event next added began held stepped unfailed marked
    simp only [List.mem_append, not_or, List.mem_singleton] at unfailed
    have split : arrivals (before ++ [event]) = arrivals before ++ arrivals [event] :=
      List.filterMap_append
    rw [split] at marked ⊢
    obtain ⟨current, read, pending, rfl, streams, same⟩ := held unfailed.1 marked.of_append
    simp only [call, Call.step, Option.map_eq_some_iff, Prod.mk.injEq] at stepped
    obtain ⟨after, acted, rfl, rfl⟩ := stepped
    rw [← same] at marked ⊢
    obtain ⟨nextRead, nextPending, nextStreams, grown⟩ :=
      act_streams streams (Ne.symm unfailed.2) marked acted
    exact ⟨after, nextRead, nextPending, rfl, nextStreams, grown⟩

/-- What a call has come to agrees with the sequence of its responses. -/
theorem Call.Streams.follows {front : List HttpResponse} {last : HttpResponse}
    (streams : current.Streams read pending)
    (marked : ∀ response ∈ front, response.notCompleted = true)
    (arriving : read ++ pending <+: front ++ [last]) :
    current.invocation.outcome.Follows (front ++ [last]) := by
  have started : read <+: front ++ [last] := (List.prefix_append read pending).trans arriving
  have yielded : current.invocation.body.yielded <+: contents read :=
    ⟨_, streams.body.kept⟩
  constructor
  · change current.invocation.promise = _ ∨ ∃ _, _ ∧ current.invocation.promise = _
    unfold Invocation.promise
    rw [streams.resolved]
    cases sending : current.invocation.sending with
    | pending => exact Or.inl rfl
    | failed => exact absurd sending streams.sending
    | sent =>
      cases read with
      | nil => exact Or.inl rfl
      | cons first read =>
        obtain ⟨rest, whole⟩ := started
        exact Or.inr ⟨first, by simp [← whole], rfl⟩
  · apply yielded.trans
    obtain ⟨rest, whole⟩ := started
    rw [← whole, contents_append]
    exact List.prefix_append _ _
  · intro ending member
    obtain ⟨finished, -, taken, completed⟩ := streams.body.atEnd ending member
    constructor
    · exact finished
    · rw [← eq_of_complete marked started completed, ← streams.body.kept, taken, List.append_nil]
      rfl

end Calls

section Traces

variable {state final : State} {index : Nat} {events : List Event} {outputs : List Output}

theorem trace_unfailed (unfailed : Event.sendFailed index ∉ events) (state : State) :
    CallEvent.sendFailed ∉ trace index state events := by
  induction events generalizing state with
  | nil => simp [trace]
  | cons event events inductionHypothesis =>
    simp only [List.mem_cons, not_or] at unfailed
    have own : state.own index event ≠ some .sendFailed := by
      cases event with
      | sendFailed call =>
        have other : call ≠ index := fun same => unfailed.1 (same ▸ rfl)
        simp [State.own, other]
      | message client message =>
        cases message <;> simp [State.own]
      | _ => simp [State.own]
    simp only [trace, List.mem_append, Option.mem_toList, not_or]
    constructor
    · exact own
    · cases stepped : connection.step state event with
      | none => simp
      | some result => exact inductionHypothesis unfailed.2 result.1

/-- The responses that a call that was made sees are those with its ack id. -/
theorem trace_arrivals (made : index < state.invocations.length)
    (ran : connection.run state events = some (final, outputs)) :
    arrivals (trace index state events) =
      (responses index events).map HttpResponse.anonymous := by
  induction events generalizing state outputs with
  | nil => rfl
  | cons event events inductionHypothesis =>
    obtain ⟨next, first, rest, stepped, continued, -⟩ :=
      (connection.run_cons_iff _ _ _ _ _).mp ran
    have later := inductionHypothesis (made.trans_le (made_step stepped)) continued
    have here : arrivals (state.own index event).toList =
        (responses index [event]).map HttpResponse.anonymous := by
      cases event with
      | message client message =>
        cases message with
        | httpResponse response =>
          by_cases named : response.ackId = index + 1 <;>
            simp [State.own, arrivals, responses, made, named]
        | _ => rfl
      | invoke _ _ _ | sent _ | sendFailed _ | abort _ | tick | ask _ | wake _ =>
        simp only [State.own]
        split <;> rfl
      | _ => rfl
    have split : responses index (event :: events) =
        responses index [event] ++ responses index events :=
      List.filterMap_append (l := [event])
    rw [split, List.map_append, ← here, ← later, trace, stepped]
    exact List.filterMap_append

end Traces

/-- The events that an answered call still waits for. -/
def Event.Serves (index : Nat) (event : Event) : Prop :=
  event = .tick ∨ event = .sent index ∨ event = .ask index ∨ event = .wake index

section Completion

variable {state : State} {index : Nat} {invocation : Invocation}

theorem serves_quiet {events : List Event} (served : ∀ event ∈ events, event.Serves index) :
    Event.sendFailed index ∉ events ∧ responses index events = [] := by
  constructor
  · intro member
    have serves := served _ member
    simp [Event.Serves] at serves
  · refine List.filterMap_eq_nil_iff.mpr (fun event member => ?_)
    rcases served event member with rfl | rfl | rfl | rfl <;> rfl

/-- Scheduled callbacks always run. -/
theorem drain (bounded : state.Bounded) : ∃ next,
    connection.run state (List.replicate state.deferred.length .tick) = some (next, []) ∧
      next.deferred = [] := by
  generalize remaining : state.deferred.length = count
  induction count generalizing state with
  | zero => exact ⟨state, rfl, List.length_eq_zero_iff.mp remaining⟩
  | succ count inductionHypothesis =>
    obtain ⟨⟨call, callback⟩, rest, scheduled⟩ :
        ∃ entry rest, state.deferred = entry :: rest := List.exists_cons_of_length_eq_add_one remaining
    have inside : call < state.invocations.length :=
      bounded.scheduled (call, callback) (by simp [scheduled])
    have stepped : connection.step state .tick =
        some (state.tick call callback rest state.invocations[call], []) := by
      simp [connection, step, scheduled, inside]
    have shorter : (state.tick call callback rest state.invocations[call]).deferred.length =
        count := by
      rw [State.tick_deferred]
      simpa [scheduled] using remaining
    obtain ⟨next, ran, empty⟩ := inductionHypothesis (bounded_step bounded stepped) shorter
    refine ⟨next, ?_, empty⟩
    rw [List.replicate_succ, connection.run_cons_of_step stepped, ran]
    rfl

/-- A consumer of a closed body comes to its end. -/
theorem consume {added : List (List UInt8)}
    (standing : state.invocations[index]? = some invocation) (hasBody : invocation.hasBody = true)
    (fed : invocation.body.Fed added true) : ∃ events next other,
      (∀ event ∈ events, event.Serves index) ∧ connection.run state events = some (next, []) ∧
        next.invocations[index]? = some other ∧ other.body.ended = some .finished ∧
        other.promise = invocation.promise := by
  generalize remaining : invocation.body.iterator.items.length = count
  induction count using Nat.strong_induction_on generalizing state invocation with
  | _ count inductionHypothesis =>
    cases running : invocation.body.ended with
    | some ending =>
      obtain ⟨rfl, -⟩ := fed.atEnd ending running
      exact ⟨[], state, invocation, by simp, rfl, standing, running, rfl⟩
    | none =>
      obtain ⟨body, moved, outcome⟩ := fed.proceeds running
      obtain ⟨inside, -⟩ := List.getElem?_eq_some_iff.mp standing
      have found : (state.put index { invocation with body := body }).invocations[index]? =
          some { invocation with body := body } := by simp [State.put, inside]
      obtain ⟨event, serves, stepped, after⟩ : ∃ event : Event, event.Serves index ∧
          connection.step state event =
            some (state.put index { invocation with body := body }, []) ∧ body.Fed added true := by
        cases moved with
        | inl asked =>
          refine ⟨.ask index, by simp [Event.Serves], ?_, ask_fed fed asked⟩
          simp [connection, step, standing, hasBody, asked]
        | inr woken =>
          refine ⟨.wake index, by simp [Event.Serves], ?_, wake_fed fed woken⟩
          simp [connection, step, standing, woken]
      rcases outcome with finished | ⟨-, fewer⟩
      · exact ⟨[event], _, _, by simpa using serves, connection.run_single stepped, found,
          finished, rfl⟩
      · obtain ⟨events, next, other, served, ran, standingNext, finished, same⟩ :=
          inductionHypothesis _ (remaining ▸ fewer) found hasBody after rfl
        refine ⟨event :: events, next, other, ?_, ?_, standingNext, finished, same⟩
        · simpa using ⟨serves, served⟩
        · rw [connection.run_cons_of_step stepped, ran]
          rfl

end Completion

section Invoked

variable {state : State} {key : Option Text} {draws : Nat → Draw} {client : Nat}

/-- An invocation without a signal that finds a client. -/
theorem view_invoked (bounded : state.Bounded)
    (found : state.getClient (key.filter (· ≠ [])) draws = some client) :
    (state.invoke key false draws).1.view state.invocations.length = some (.handed false) := by
  have seen : Sees state state.invocations.length (.invoke key false draws)
      (state.invoke key false draws).1 := sees_invoke bounded key false draws
  simp only [Sees, State.own, found, Option.isSome_some, and_self, if_true,
    view_of_absent le_rfl, call, Call.step, Option.some.injEq, Prod.mk.injEq, and_true] at seen
  exact seen.symm

variable {final : State} {events : List Event} {outputs : List Output}
  {front : List HttpResponse} {last : HttpResponse}

/-- The responses of an invocation in a run that follows it. -/
theorem invoked_streams (bounded : state.Bounded)
    (found : state.getClient (key.filter (· ≠ [])) draws = some client)
    (ran : connection.run (state.invoke key false draws).1 events = some (final, outputs))
    (unfailed : Event.sendFailed state.invocations.length ∉ events)
    (marked : ∀ response ∈ front, response.notCompleted = true)
    (arriving : responses state.invocations.length events <+: front ++ [last]) :
    ∃ invocation read pending, final.invocations[state.invocations.length]? = some invocation ∧
      Call.Streams read pending ⟨invocation.anonymous,
        decide (state.invocations.length ∈ final.ackMap),
        final.queueOf state.invocations.length⟩ ∧
      read ++ pending =
        (responses state.invocations.length events).map HttpResponse.anonymous := by
  have after : (state.invoke key false draws).1.Bounded := invoke_bounded bounded key false draws
  have viewed := view_invoked bounded found
  have made : state.invocations.length < (state.invoke key false draws).1.invocations.length := by
    by_contra absent
    rw [view_of_absent (not_lt.mp absent)] at viewed
    cases viewed
  have traced : call.run ((state.invoke key false draws).1.view state.invocations.length)
      (trace state.invocations.length (state.invoke key false draws).1 events) =
        some (final.view state.invocations.length, []) := trace_run after ran
  have arrived := trace_arrivals made ran
  have anonymousMarked : Marked (arrivals (trace state.invocations.length
      (state.invoke key false draws).1 events)) := by
    rw [arrived]
    intro response member
    rw [← List.map_dropLast] at member
    obtain ⟨named, inside, rfl⟩ := List.mem_map.mp member
    exact marked_of_prefix marked arriving named inside
  rw [viewed] at traced
  obtain ⟨current, read, pending, viewedFinal, streams, same⟩ :=
    streams_run traced (trace_unfailed unfailed _) anonymousMarked
  obtain ⟨invocation, standing, rfl⟩ := Option.map_eq_some_iff.mp viewedFinal
  exact ⟨invocation, read, pending, standing, streams, same.trans arrived⟩

theorem contents_anonymous (sequence : List HttpResponse) :
    contents (sequence.map HttpResponse.anonymous) = contents sequence := by
  rw [contents, List.filterMap_map]
  rfl

/-- The ack id of the responses does not matter. -/
theorem Outcome.Follows.of_anonymous {outcome : Outcome} {sequence : List HttpResponse}
    (follows : outcome.Follows (sequence.map HttpResponse.anonymous)) :
    outcome.Follows sequence := by
  obtain ⟨promise, yielded, ended⟩ := follows
  rw [contents_anonymous] at yielded ended
  refine ⟨promise.imp_right ?_, yielded, ended⟩
  rintro ⟨first, member, fulfilled⟩
  rw [List.head?_map] at member
  obtain ⟨named, inside, rfl⟩ := Option.map_eq_some_iff.mp member
  exact ⟨named, inside, fulfilled⟩

/-- At every point of a run an invocation has come to something that agrees with its
responses. -/
theorem invoked_follows (bounded : state.Bounded)
    (found : state.getClient (key.filter (· ≠ [])) draws = some client)
    (ran : connection.run (state.invoke key false draws).1 events = some (final, outputs))
    (unfailed : Event.sendFailed state.invocations.length ∉ events)
    (marked : ∀ response ∈ front, response.notCompleted = true)
    (arriving : responses state.invocations.length events <+: front ++ [last]) :
    ∃ outcome, final.outcome state.invocations.length = some outcome ∧
      outcome.Follows (front ++ [last]) := by
  obtain ⟨invocation, read, pending, standing, streams, same⟩ :=
    invoked_streams bounded found ran unfailed marked arriving
  refine ⟨invocation.outcome, by simp [State.outcome, standing], ?_⟩
  have anonymousMarked : ∀ response ∈ front.map HttpResponse.anonymous,
      response.notCompleted = true := by
    intro response member
    obtain ⟨named, inside, rfl⟩ := List.mem_map.mp member
    exact marked named inside
  have follows : invocation.outcome.Follows (front.map HttpResponse.anonymous ++
      [last.anonymous]) := streams.follows anonymousMarked (by
    rw [same]
    simpa using arriving.map HttpResponse.anonymous)
  apply Outcome.Follows.of_anonymous
  simpa using follows

/-- Once all responses arrived, the invocation can be served until its consumer has
received all of the body.

Proof: the scheduled callbacks run, after which every response was read and the body is
closed. The send completes, if it has not, which fulfils the promise. Then the consumer
goes on until the end. What it has come to agrees with the responses in the end as well. -/
theorem invoked_completes (bounded : state.Bounded)
    (found : state.getClient (key.filter (· ≠ [])) draws = some client)
    (ran : connection.run (state.invoke key false draws).1 events = some (final, outputs))
    (unfailed : Event.sendFailed state.invocations.length ∉ events)
    (marked : ∀ response ∈ front, response.notCompleted = true)
    (completes : last.notCompleted = false)
    (arrived : responses state.invocations.length events = front ++ [last]) :
    ∃ rest finished, (∀ event ∈ rest, event.Serves state.invocations.length) ∧
      connection.run final rest = some (finished, []) ∧
      ∃ first ∈ (front ++ [last]).head?, finished.outcome state.invocations.length =
        some ⟨.fulfilled first.statusCode, contents (front ++ [last]), some .finished⟩ := by
  have later {rest : List Event} {next : State}
      (served : ∀ event ∈ rest, event.Serves state.invocations.length)
      (continued : connection.run final rest = some (next, [])) :
      connection.run (state.invoke key false draws).1 (events ++ rest) = some (next, outputs) ∧
        Event.sendFailed state.invocations.length ∉ events ++ rest ∧
        responses state.invocations.length (events ++ rest) = front ++ [last] := by
    obtain ⟨quiet, none⟩ := serves_quiet served
    refine ⟨by simpa using connection.run_append_of_run ran continued, by simp [unfailed, quiet],
      ?_⟩
    rw [responses, List.filterMap_append, ← responses, ← responses, arrived, none,
      List.append_nil]
  have boundedFinal : final.Bounded := connection.invariant_reachable State.Bounded
    (fun _ _ _ _ bounded stepped => bounded_step bounded stepped)
    (invoke_bounded bounded key false draws) ⟨events, outputs, ran⟩
  obtain ⟨drained, ranTicks, empty⟩ := drain boundedFinal
  have ticks : ∀ event ∈ List.replicate final.deferred.length Event.tick,
      event.Serves state.invocations.length :=
    fun event member => Or.inl (List.eq_of_mem_replicate member)
  obtain ⟨ranDrained, quietDrained, arrivedDrained⟩ := later ticks ranTicks
  obtain ⟨invocation, read, pending, standing, streams, same⟩ :=
    invoked_streams bounded found ranDrained quietDrained marked
      (List.prefix_iff_eq_take.mpr (by simp [arrivedDrained]) : _ <+: front ++ [last])
  have read_all : read = (front ++ [last]).map HttpResponse.anonymous := by
    have queue : drained.queueOf state.invocations.length = pending.map .ofResponse :=
      streams.queue
    have nothing : pending = [] := by simpa [State.queueOf, empty, eq_comm] using queue
    rw [arrivedDrained] at same
    simpa [nothing] using same
  obtain ⟨first, member⟩ : ∃ first, first ∈ (front ++ [last]).head? := by
    cases front <;> simp
  have fed : invocation.body.Fed (contents read) true := by
    have completed : complete read = true := by
      simp [read_all, complete, HttpResponse.anonymous, completes]
    exact completed ▸ streams.body
  obtain ⟨sends, handed, answered, served, ranSends, standingHanded, fulfilled, body⟩ :
      ∃ sends handed answered, (∀ event ∈ sends, event.Serves state.invocations.length) ∧
        connection.run drained sends = some (handed, []) ∧
        handed.invocations[state.invocations.length]? = some answered ∧
        answered.promise = .fulfilled first.statusCode ∧ answered.body = invocation.body := by
    have resolved : invocation.resolved = some first.statusCode := by
      have status : invocation.resolved = read.head?.map HttpResponse.statusCode :=
        streams.resolved
      rw [status, read_all, List.head?_map, Option.mem_def.mp member]
      rfl
    obtain ⟨inside, -⟩ := List.getElem?_eq_some_iff.mp standing
    cases sending : invocation.sending with
    | pending =>
      refine ⟨[.sent state.invocations.length], _, { invocation with sending := .sent },
        by simp [Event.Serves], connection.run_single (?_ : connection.step drained _ =
          some (drained.put state.invocations.length { invocation with sending := .sent }, [])),
        by simp [State.put, inside], by simp [Invocation.promise, resolved], rfl⟩
      simp [connection, step, standing, sending]
    | sent =>
      exact ⟨[], drained, invocation, by simp, rfl, standing,
        by simp [Invocation.promise, sending, resolved], rfl⟩
    | failed => exact absurd sending streams.sending
  obtain ⟨reads, finished, other, servedReads, ranReads, standingFinished, ended, promise⟩ :=
    consume standingHanded (by simp [Invocation.hasBody, fulfilled]) (body ▸ fed)
  have servedAll : ∀ event ∈ List.replicate final.deferred.length Event.tick ++ (sends ++ reads),
      event.Serves state.invocations.length := by
    intro event inside
    simp only [List.mem_append] at inside
    rcases inside with inside | inside | inside
    · exact ticks event inside
    · exact served event inside
    · exact servedReads event inside
  have ranAll : connection.run final (List.replicate final.deferred.length .tick ++
      (sends ++ reads)) = some (finished, []) :=
    connection.run_append_of_run ranTicks (connection.run_append_of_run ranSends ranReads)
  obtain ⟨ranFinished, quietFinished, arrivedFinished⟩ := later servedAll ranAll
  obtain ⟨outcome, reached, follows⟩ := invoked_follows bounded found ranFinished quietFinished
    marked (List.prefix_iff_eq_take.mpr (by simp [arrivedFinished]) : _ <+: front ++ [last])
  have same : other.outcome = outcome := by simpa [State.outcome, standingFinished] using reached
  refine ⟨_, finished, servedAll, ranAll, first, member, ?_⟩
  have yielded : other.body.yielded = contents (front ++ [last]) :=
    (follows.ended .finished (by rw [← same]; exact ended)).2 ▸ congrArg Outcome.yielded same
  simp [State.outcome, standingFinished, Invocation.outcome, promise, fulfilled, yielded, ended]

end Invoked

theorem outcome_of_view (state : State) (index : Nat) :
    state.outcome index = (state.view index).map (fun call => call.invocation.outcome) := by
  simp only [State.outcome, State.view, Option.map_map]
  rfl

/-- A call comes to the same in any two runs that are the same to it. -/
theorem outcome_of_trace {events others : List Event} {final other : State}
    {outputs added : List Output} {index number : Nat}
    (ran : connection.run State.initial events = some (final, outputs))
    (ranOther : connection.run State.initial others = some (other, added))
    (same : trace index State.initial events = trace number State.initial others) :
    final.outcome index = other.outcome number := by
  have first : call.run (State.initial.view index) (trace index State.initial events) =
      some (final.view index, []) := trace_run initial_bounded ran
  have second : call.run (State.initial.view number) (trace number State.initial others) =
      some (other.view number, []) := trace_run initial_bounded ranOther
  have unmade : State.initial.view index = State.initial.view number := rfl
  rw [same, unmade, second, Option.some.injEq, Prod.mk.injEq] at first
  rw [outcome_of_view, outcome_of_view, first.1]

/-- In a run and the run without one of its calls, every other call comes to the same. -/
theorem Apart.outcome {gone index : Nat} {key : Option Text} {state alone : State}
    (apart : Apart gone key state alone) (kept : index ≠ gone) :
    alone.outcome (renumbered gone index) = state.outcome index := by
  have related := apart.records index kept
  unfold State.outcome
  generalize state.invocations[index]? = found at related ⊢
  generalize alone.invocations[renumbered gone index]? = foundAlone at related ⊢
  cases related with
  | none => rfl
  | some alike =>
    obtain ⟨-, sending, -, resolved, body⟩ := alike.fields
    simp [Invocation.outcome, Invocation.promise, sending, resolved, body]

/-- For every invocation without an abort signal whose send does not fail, and every
sequence of responses with its ack id of which only the last one is marked as completed,
in every interleaving with everything else:

* while the responses arrive, the promise is pending or fulfilled with the status of the
  first one, the body has yielded a prefix of the contents, each once and in order, and it
  ends only after it has yielded all of them;
* once all have arrived, running what is scheduled and due and calling `next` brings the
  promise to its fulfilment and the iteration to its end;
* each call comes to the same in any two runs that are the same to it, whatever the other
  calls are;
* leaving the invocation out, with all its events, gives a run in which every other call
  comes to the same. Here calls with its consistent key are made while the connection has
  a client, so that they find one in either run.

The connection goes on after the abort of another call, whose callback throws. This is so where
the process survives an uncaught exception. -/
theorem bodies_stream {before events : List Event} {state final : State}
    {earlier outputs : List Output} {key : Option Text} {draws : Nat → Draw} {client : Nat}
    (front : List HttpResponse) (last : HttpResponse)
    (began : connection.run State.initial before = some (state, earlier))
    (found : state.getClient (key.filter (· ≠ [])) draws = some client)
    (ran : connection.run state (.invoke key false draws :: events) = some (final, outputs))
    (unfailed : .sendFailed state.invocations.length ∉ events)
    (marked : ∀ response ∈ front, response.notCompleted = true)
    (completes : last.notCompleted = false)
    (arriving : responses state.invocations.length events <+: front ++ [last]) :
    (∃ outcome, final.outcome state.invocations.length = some outcome ∧
      outcome.Follows (front ++ [last])) ∧
    (responses state.invocations.length events = front ++ [last] → ∃ rest finished,
      (∀ event ∈ rest, event.Serves state.invocations.length) ∧
      connection.run final rest = some (finished, []) ∧
      ∃ first ∈ (front ++ [last]).head?, finished.outcome state.invocations.length =
        some ⟨.fulfilled first.statusCode, contents (front ++ [last]), some .finished⟩) ∧
    (∀ index number others other added,
      connection.run State.initial others = some (other, added) →
      trace index State.initial (before ++ .invoke key false draws :: events) =
        trace number State.initial others →
      final.outcome index = other.outcome number) ∧
    (connection.Meets (Attended (key.filter (· ≠ []))) (state.invoke key false draws).1 events →
      ∃ alone added, connection.run State.initial (before ++
          without state.invocations.length (state.invoke key false draws).1 events) =
            some (alone, added) ∧
        ∀ index ≠ state.invocations.length,
          alone.outcome (renumbered state.invocations.length index) = final.outcome index) := by
  have bounded : state.Bounded := connection.invariant_reachable State.Bounded
    (fun _ _ _ _ bounded stepped => bounded_step bounded stepped) initial_bounded
    ⟨before, earlier, began⟩
  have whole := connection.run_append_of_run began ran
  obtain ⟨next, handed, rest, stepped, continued, -⟩ :=
    (connection.run_cons_iff _ _ _ _ _).mp ran
  obtain ⟨rfl, rfl⟩ := Prod.mk.inj (Option.some.inj stepped)
  refine ⟨invoked_follows bounded found continued unfailed marked arriving,
    invoked_completes bounded found continued unfailed marked completes, ?_, ?_⟩
  · intro index number others other added ranOther same
    exact outcome_of_trace whole ranOther same
  · intro attended
    obtain ⟨alone, added, ranAlone, apart⟩ :=
      apart_run (apart_invoke bounded found) attended continued
    exact ⟨alone, _, connection.run_append_of_run began ranAlone,
      fun index kept => apart.outcome kept⟩

section Sample

/-- A connected client with one request that is not answered yet. -/
def connected : List Event :=
  [.run, .started 0, .invoke none false (fun _ => ⟨0, 1, Nat.zero_lt_one⟩), .sent 0]

/-- Responses to two requests, while the consumer of the second body is ahead of its
producer first and behind it later. -/
def interleaved : List Event :=
  [.message 0 (.httpResponse ⟨2, 200, true, some [1, 2]⟩), .tick, .sent 1, .ask 1, .ask 1,
    .message 0 (.httpResponse ⟨1, 204, false, none⟩),
    .message 0 (.httpResponse ⟨2, 500, true, some []⟩), .tick, .tick, .wake 1,
    .message 0 (.httpResponse ⟨2, 200, false, some [3]⟩)]

theorem bodies_stream_interleaved : ∃ state final outputs rest finished,
    connection.run state (.invoke none false (fun _ => ⟨0, 1, Nat.zero_lt_one⟩) :: interleaved) =
      some (final, outputs) ∧ connection.run final rest = some (finished, []) ∧
      finished.outcome 1 = some ⟨.fulfilled 200, [[1, 2], [], [3]], some .finished⟩ := by
  have completed : (connection.run State.initial connected).map (fun result =>
      (result.1.invocations.length, result.1.getClient none (fun _ => ⟨0, 1, Nat.zero_lt_one⟩),
        (connection.run result.1 (.invoke none false (fun _ => ⟨0, 1, Nat.zero_lt_one⟩) ::
          interleaved)).isSome)) = some (1, some 0, true) := by decide +kernel
  obtain ⟨⟨state, earlier⟩, began, same⟩ := Option.map_eq_some_iff.mp completed
  simp only [Prod.mk.injEq] at same
  obtain ⟨length, found, ended⟩ := same
  obtain ⟨⟨final, outputs⟩, ran⟩ := Option.isSome_iff_exists.mp ended
  have drawn : state.getClient ((none : Option Text).filter (· ≠ [])) _ = some 0 := found
  obtain ⟨-, finishes, -⟩ := bodies_stream
    [⟨2, 200, true, some [1, 2]⟩, ⟨2, 500, true, some []⟩] ⟨2, 200, false, some [3]⟩
    began drawn ran (by simp [interleaved]) (by simp) rfl (by rw [length]; decide)
  rw [length] at finishes
  obtain ⟨rest, finished, -, continued, first, member, reached⟩ := finishes (by decide)
  obtain rfl := Option.some.inj member
  exact ⟨state, final, outputs, rest, finished, ran, continued, reached⟩

end Sample

end WebPubSub.Tunnel
