import WebPubSub.Adapter.MembershipIdentities

/-!
# Failures of the service

In every run of all five operations, whatever the service answers and whichever
sockets are already gone: the recorded rooms of a socket change only when an `addAll`
or `del` of it resumes whose own service call succeeded, or when a `delAll` of it
resumes, which forgets it in any case; a bulk operation whose call failed changes
nothing and calls nothing; and only an unfinished operation holds a mutex.

What an operation asked and how it was answered is read off the history of the run.
-/

namespace WebPubSub.Adapter.Membership

variable {super : InMemoryAdapter} {base64url : Base64Url} {nsp : Text}
  {getSingleEioEncodedPayload : SioPacket Unit → Option Text} {kept : List Text}

/-- An operation after a step: as before, waiting, asking the service by this very
step, answered by this very event, answered without a call, or ended. -/
theorem operation_step {state next : State} {event : Event} {outputs : List Output}
    (stepped : Step super base64url nsp getSingleEioEncodedPayload kept state event next outputs)
    {number : Nat} {operation : Operation}
    (found : next.operations[number]? = some operation) :
    state.operations[number]? = some operation ∨ operation.phase = .waiting ∨
      (∃ request, operation.phase = .calling request ∧ (number, request) ∈ outputs) ∨
      (∃ ok old request, event = .answered number ok ∧ state.operations[number]? = some old ∧
        old.phase = .calling request ∧ operation.call = old.call ∧ operation.phase = .answered ok) ∨
      operation.phase = .answered false ∨ ∃ ok, operation.phase = .finished ok := by
  have entered (call : Call)
      (located : (state.operations ++ [⟨call, .waiting, []⟩])[number]? = some operation) :
      state.operations[number]? = some operation ∨ operation.phase = .waiting := by
    rcases Ledger.getElem?_concat_cases located with ⟨-, rfl⟩ | old
    · exact Or.inr rfl
    · exact Or.inl old
  cases stepped with
  | connect id eioSid newId single => exact Or.inl found
  | callSocket call id own =>
    rw [State.operations_enter] at found
    exact (entered call found).imp_right Or.inl
  | callBulk call request bulk asked =>
    rw [State.operations_enter] at found
    rcases Ledger.getElem?_concat_cases found with ⟨rfl, rfl⟩ | old
    · exact Or.inr (Or.inr (Or.inl ⟨request, rfl, List.mem_singleton_self _⟩))
    · exact Or.inl old
  | disconnect id present =>
    have located : (state.enter (.delAll id) .waiting).operations[number]? = some operation := found
    rw [State.operations_enter] at located
    exact (entered (.delAll id) located).imp_right Or.inl
  | lockedAsks position old id request located own waited turn asked =>
    rcases Ledger.getElem?_set_cases found with ⟨rfl, rfl⟩ | ⟨-, old⟩
    · exact Or.inr (Or.inr (Or.inl ⟨request, rfl, List.mem_singleton_self _⟩))
    · exact Or.inl old
  | lockedSilent position old id located leaving waited turn =>
    rcases Ledger.getElem?_set_cases found with ⟨rfl, rfl⟩ | ⟨-, old⟩
    · exact Or.inr (Or.inr (Or.inr (Or.inr (Or.inl rfl))))
    · exact Or.inl old
  | lockedThrows position old id located own waited turn staying unfound =>
    rw [State.operations_finish] at found
    rcases Ledger.getElem?_set_cases found with ⟨rfl, rfl⟩ | ⟨-, old⟩
    · exact Or.inr (Or.inr (Or.inr (Or.inr (Or.inr ⟨false, rfl⟩))))
    · exact Or.inl old
  | answered position ok old request located called service effect =>
    rcases Ledger.getElem?_set_cases found with ⟨rfl, rfl⟩ | ⟨-, kept⟩
    · exact Or.inr (Or.inr (Or.inr (Or.inl ⟨ok, old, request, rfl, located, called, rfl, rfl⟩)))
    · exact Or.inl kept
  | resumed position ok old located answer =>
    rw [State.operations_enterAll, State.operations_finish] at found
    rcases Ledger.getElem?_append_cases found with ⟨-, new⟩ | ended
    · obtain ⟨call, -, rfl⟩ := List.mem_map.mp new
      exact Or.inr (Or.inl rfl)
    · rcases Ledger.getElem?_set_cases ended with ⟨rfl, rfl⟩ | ⟨-, kept⟩
      · exact Or.inr (Or.inr (Or.inr (Or.inr (Or.inr ⟨ok, rfl⟩))))
      · exact Or.inl kept

/-- The outstanding calls were made, and an operation answered with success made the
call of its method and got this answer. -/
structure History (events : List Event) (outputs : List Output) (state : State) : Prop where
  identities : Identities base64url nsp getSingleEioEncodedPayload state
  made : ∀ (number : Nat) (operation : Operation) (request : Request),
    state.operations[number]? = some operation → operation.phase = .calling request →
    (number, request) ∈ outputs
  succeeded : ∀ (number : Nat) (operation : Operation),
    state.operations[number]? = some operation → operation.phase = .answered true →
    Event.answered number true ∈ events ∧ ∃ request, (number, request) ∈ outputs ∧
      operation.call.request base64url nsp getSingleEioEncodedPayload
        (operation.call.socket.bind state.known.lookup) = some request

/-- Every run has its history. -/
theorem history_of_run {events : List Event} {state : State} {outputs : List Output}
    (ran : (machine super base64url nsp getSingleEioEncodedPayload kept).run State.initial events =
      some (state, outputs)) :
    @History base64url nsp getSingleEioEncodedPayload events outputs state := by
  refine Machine.run_induction _ (@History base64url nsp getSingleEioEncodedPayload) ?_ ?_ ran
  · constructor
    · exact identities_initial base64url nsp getSingleEioEncodedPayload
    · simp [State.initial]
    · simp [State.initial]
  · intro before outputs state event next added _ history stepped
    have step := step_inv super base64url nsp getSingleEioEncodedPayload kept stepped
    constructor
    case identities => exact history.identities.step kept step
    case made =>
      intro number operation request found called
      rw [List.mem_append]
      rcases operation_step step found with old | waiting | ⟨asked, calls, listed⟩ |
        ⟨ok, old, other, -, -, -, -, answered⟩ | answered | ⟨ok, finished⟩
      · exact Or.inl (history.made number operation request old called)
      · simp [waiting] at called
      · obtain rfl : asked = request := Phase.calling.inj (calls.symm.trans called)
        exact Or.inr listed
      · simp [answered] at called
      · simp [answered] at called
      · simp [finished] at called
    case succeeded =>
      intro number operation found success
      rcases operation_step step found with old | waiting | ⟨asked, calls, -⟩ |
        ⟨ok, old, request, rfl, located, called, same, answered⟩ | answered | ⟨ok, finished⟩
      · obtain ⟨answer, request, listed, asked⟩ := history.succeeded number operation old success
        exact ⟨List.mem_append_left _ answer, request, List.mem_append_left _ listed,
          Identities.request_step kept step asked⟩
      · simp [waiting] at success
      · simp [calls] at success
      · obtain rfl : ok = true := Phase.answered.inj (answered.symm.trans success)
        refine ⟨by simp, request, List.mem_append_left _ ?_, ?_⟩
        · exact history.made number old request located called
        · rw [same]
          exact Identities.request_step kept step
            (history.identities.asked number old request located called)
      · simp [answered] at success
      · simp [finished] at success

/-- The recorded rooms of a socket change only when one of its own operations resumes,
after a success or in a `delAll`. -/
theorem recorded_step {state next : State} {event : Event} {outputs : List Output}
    (stepped : Step super base64url nsp getSingleEioEncodedPayload kept state event next outputs)
    {id : Text} (changed : next.memory.recorded id ≠ state.memory.recorded id) :
    ∃ number operation ok, event = .resumed number ∧
      state.operations[number]? = some operation ∧ operation.call.socket = some id ∧
      operation.phase = .answered ok ∧
      (operation.call = .delAll id ∨ ok = true ∧
        next.memory.recorded id = operation.call.joined (state.memory.recorded id)) := by
  cases stepped with
  | connect other eioSid newId single => exact absurd rfl changed
  | callSocket call other own => exact absurd (by rw [State.memory_enter]) changed
  | callBulk call request bulk asked => exact absurd (by rw [State.memory_enter]) changed
  | disconnect other present =>
    have same : (state.enter (.delAll other) .waiting).memory.recorded id =
        state.memory.recorded id := by rw [State.memory_enter]
    exact absurd same changed
  | lockedAsks number operation other request found own waited turn asked => exact absurd rfl changed
  | lockedSilent number operation other found leaving waited turn => exact absurd rfl changed
  | lockedThrows number operation other found own waited turn staying unfound =>
    exact absurd (by rw [State.memory_finish]) changed
  | answered number ok operation request found called service effect => exact absurd rfl changed
  | resumed number ok operation found answer =>
    rw [State.memory_enterAll, State.memory_finish] at changed ⊢
    have own : operation.call.socket = some id := by
      by_contra other
      exact changed (recorded_update_other other ok _ state.memory)
    refine ⟨number, operation, ok, rfl, found, own, answer, ?_⟩
    by_cases leaving : operation.call = .delAll id
    · exact Or.inl leaving
    have staying : ∀ other, operation.call ≠ .delAll other := by
      intro other same
      obtain rfl : other = id := by simpa [same, Call.socket] using own
      exact leaving same
    cases ok with
    | false => exact absurd (by rw [update_failed staying]) changed
    | true =>
      refine Or.inr ⟨rfl, ?_⟩
      cases present : state.connected operation.call with
      | true => exact recorded_update_own own leaving state.memory
      | false =>
        rw [present] at changed
        cases shape : operation.call with
        | addAll other rooms => simp [shape, Call.update] at changed
        | del other room =>
          obtain rfl : other = id := by simpa [shape, Call.socket] using own
          simp [Call.update, super.recorded_del, Call.joined]
        | delAll other => exact absurd shape (staying other)
        | addSockets opts rooms => simp [shape, Call.socket] at own
        | delSockets opts rooms => simp [shape, Call.socket] at own

/-- The operation that holds a mutex is unfinished and can go on, however the service
answers. -/
theorem holder_continues {state : State} (turns : Turns state) {id : Text} {number : Nat}
    (held : (state.lock id).holder = some number) :
    ∃ operation, state.operations[number]? = some operation ∧ operation.call.socket = some id ∧
      operation.phase.isFinished = false ∧
      ∀ ok, ∃ event ∈ [Event.locked number, .answered number ok, .resumed number],
        ((machine super base64url nsp getSingleEioEncodedPayload kept).step state event).isSome =
          true := by
  have first : number ∈ Ledger.selected (Operation.pending id) state.operations := by
    rw [← turns.queue]
    apply List.mem_of_mem_head?
    rw [← Mutex.holder_eq_head]
    exact held
  rw [Ledger.mem_selected] at first
  obtain ⟨operation, found, pending⟩ := first
  obtain ⟨own, unfinished⟩ : operation.call.socket = some id ∧ operation.phase.isFinished = false := by
    simpa [Operation.pending] using pending
  refine ⟨operation, found, own, unfinished, fun ok => ?_⟩
  cases phase : operation.phase with
  | waiting =>
    refine ⟨.locked number, by simp, ?_⟩
    simp only [machine, step, found, own, Option.bind_eq_bind, Option.bind_some, phase, held,
      true_and, if_true]
    split <;> rfl
  | calling request =>
    refine ⟨.answered number ok, by simp, ?_⟩
    simp [machine, step, found, phase]
  | answered answer =>
    refine ⟨.resumed number, by simp, ?_⟩
    simp [machine, step, found, phase]
  | finished answer => simp [phase, Phase.isFinished] at unfinished

/-- Failures of the service, at every step of every run.

A change of a socket's recorded rooms comes from a `delAll` of it, or from one of its
operations whose own service call was made before and has succeeded, and is the change
that this operation asks for. A bulk operation whose call failed only ends. A `delAll`
forgets its socket whatever was answered. And a mutex is held by an operation of its
socket that has not ended and can go on. -/
theorem service_failures_keep_membership (super : InMemoryAdapter) (base64url : Base64Url)
    (nsp : Text) (getSingleEioEncodedPayload : SioPacket Unit → Option Text)
    (kept : List Text) {events : List Event} {state : State} {outputs : List Output}
    (ran : (machine super base64url nsp getSingleEioEncodedPayload kept).run State.initial events =
      some (state, outputs))
    {event : Event} {next : State} {added : List Output}
    (stepped : (machine super base64url nsp getSingleEioEncodedPayload kept).step state event =
      some (next, added)) :
    (∀ id, next.memory.recorded id ≠ state.memory.recorded id →
      ∃ number operation, event = .resumed number ∧ state.operations[number]? = some operation ∧
        operation.call.socket = some id ∧
        (operation.call = .delAll id ∨
          next.memory.recorded id = operation.call.joined (state.memory.recorded id) ∧
          .answered number true ∈ events ∧ ∃ request, (number, request) ∈ outputs ∧
            operation.call.request base64url nsp getSingleEioEncodedPayload
              (state.known.lookup id) = some request)) ∧
    (∀ number operation, event = .resumed number → state.operations[number]? = some operation →
      operation.call.socket = none → operation.phase = .answered false →
      next = state.amend number { operation with phase := .finished false } ∧ added = []) ∧
    (∀ number operation id, event = .resumed number → state.operations[number]? = some operation →
      operation.call = .delAll id →
      id ∉ next.memory.sids ∧ ∀ room sockets, next.memory.rooms.lookup room = some sockets →
        id ∉ sockets) ∧
    ∀ id number, (next.lock id).holder = some number →
      ∃ operation, next.operations[number]? = some operation ∧ operation.call.socket = some id ∧
        operation.phase.isFinished = false ∧
        ∀ ok, ∃ more ∈ [Event.locked number, .answered number ok, .resumed number],
          ((machine super base64url nsp getSingleEioEncodedPayload kept).step next more).isSome =
            true := by
  have step := step_inv super base64url nsp getSingleEioEncodedPayload kept stepped
  refine ⟨?changes, ?bulk, ?leaving, ?mutexes⟩
  case changes =>
    intro id changed
    obtain ⟨number, operation, ok, resumed, found, own, answer, change⟩ := recorded_step step changed
    refine ⟨number, operation, resumed, found, own, change.imp_right ?_⟩
    rintro ⟨rfl, joined⟩
    obtain ⟨answered, request, made, asked⟩ := (history_of_run ran).succeeded number operation found
      answer
    rw [own] at asked
    exact ⟨joined, answered, request, made, asked⟩
  case bulk =>
    rintro number operation rfl found bulk failed
    cases step with
    | resumed _ ok other located answer =>
      obtain rfl : other = operation := Option.some.inj (located.symm.trans found)
      obtain rfl : ok = false := Phase.answered.inj (answer.symm.trans failed)
      have silent : other.call.triggered super false state.memory state.sockets.keys = [] := by
        cases other.call <;> rfl
      have idle (connected : Bool) :
          other.call.update super false connected state.memory = state.memory := by
        apply update_failed
        intro id leaving
        simp [leaving, Call.socket] at bulk
      rw [silent, idle]
      refine ⟨?_, rfl⟩
      simp only [State.enterAll, List.foldl_nil, State.finish, bulk]
      rfl
  case leaving =>
    rintro number operation id rfl found leaving
    have reached : (machine super base64url nsp getSingleEioEncodedPayload kept).Reachable
        State.initial next :=
      ⟨_, _, Machine.run_append_of_run _ ran (Machine.run_single _ stepped)⟩
    have consistent : next.memory.Consistent := by
      apply Machine.invariant_reachable _ (fun state : State => state.memory.Consistent) ?_
        InMemory.consistent_empty reached
      intro state event next outputs consistent stepped
      exact consistent_step kept consistent
        (step_inv super base64url nsp getSingleEioEncodedPayload kept stepped)
    have unknown : id ∉ next.memory.sids := by
      cases step with
      | resumed _ ok other located answer =>
        obtain rfl : other = operation := Option.some.inj (located.symm.trans found)
        rw [State.memory_enterAll, State.memory_finish, leaving, Call.update, super.sids_delAll]
        simp
    exact ⟨unknown, fun room sockets found => InMemory.unmentioned consistent unknown found⟩
  case mutexes =>
    intro id number held
    have turns : Turns next := (Turns.reachable ⟨events, outputs, ran⟩).step step
    exact holder_continues turns held

/-- A join is refused by the service; a later one has succeeded and is about to resume. -/
def joinedAtLast : List Event :=
  [.connect ['s'] ['c'], .call (.addAll ['s'] (.ofList [['a']])), .locked 0, .answered 0 false,
    .resumed 0, .call (.addAll ['s'] (.ofList [['b']])), .locked 1, .answered 1 true]

theorem service_failures_keep_membership_join : ∃ (state next : State) (outputs : List Output),
    (machine inMemoryAdapter Base64Url.utf8 ['/'] (fun _ => none) []).run State.initial
      joinedAtLast = some (state, outputs) ∧
    next.memory.recorded ['s'] ≠ state.memory.recorded ['s'] ∧
    ∃ number operation, Event.resumed 1 = .resumed number ∧
      state.operations[number]? = some operation ∧ operation.call.socket = some ['s'] ∧
      (operation.call = .delAll ['s'] ∨
        next.memory.recorded ['s'] = operation.call.joined (state.memory.recorded ['s']) ∧
        .answered number true ∈ joinedAtLast ∧ ∃ request, (number, request) ∈ outputs ∧
          operation.call.request Base64Url.utf8 ['/'] (fun _ => none)
            (state.known.lookup ['s']) = some request) := by
  have completed : ((machine inMemoryAdapter Base64Url.utf8 ['/'] (fun _ => none) []).run
      State.initial joinedAtLast).any (fun result =>
        ((machine inMemoryAdapter Base64Url.utf8 ['/'] (fun _ => none) []).step result.1
          (.resumed 1)).any (fun next => decide (next.1.memory.recorded ['s'] ≠ result.1.memory.recorded ['s']))) =
      true := by decide +kernel
  obtain ⟨⟨state, outputs⟩, ran, continued⟩ := (Option.any_eq_true _ _).mp completed
  obtain ⟨⟨next, added⟩, stepped, changed⟩ := (Option.any_eq_true _ _).mp continued
  have different : next.memory.recorded ['s'] ≠ state.memory.recorded ['s'] := by
    simpa using changed
  exact ⟨state, next, outputs, ran, different, (service_failures_keep_membership inMemoryAdapter
    Base64Url.utf8 ['/'] (fun _ => none) [] ran stepped).1 ['s'] different⟩

end WebPubSub.Adapter.Membership
