import WebPubSub.Connect.Manager
import WebPubSub.Transport.Answering

/-!
# One answer for each connect request

The response handler of a request is shared by the transport's first send, the
refusal callback of the handshake, the catch block and the timeout. Nothing but the
order of these keeps the service from receiving two answers: a refusal is followed by
the catch block, since `onConnect` looks up a socket that was never registered; the
timeout does not mark the request as answered; and a socket closed too early refuses
what its encoded open packet then accepts.

When the handshake does not refuse, throws only before it has a socket and in time,
finds its socket registered when it returns, and when the open packet is accepted in
time and before any close, each request is answered once.
-/

namespace WebPubSub.Connect

open Transport (Output answers Answering)

/-- An event of a transport comes in time: a call of `send` begins after the open packet
was accepted, or else while it is not being encoded and nothing was answered; and the
open packet is accepted before the timeout. -/
def Timely (request : Request) (transport : Transport.State) (event : Transport.Event) : Prop :=
  (event.begins = true → transport.opened = true ∨
    (transport.opening = 0 ∧ request.connectResponded = false ∧ request.timer = .armed)) ∧
  (transport.accepts event = true → request.timer = .armed)

/-- The step is one of an undisturbed handshake: it is no refusal, it throws only while
there is no socket and the timeout has not fired, it returns only with a registered
socket, and the events of the transport come in time. -/
def Undisturbed (state : State) : Event → Prop
  | .connect _ (.refused _) | .refuse _ _ => False
  | .thrown index _ => ∀ request ∈ state.requests[index]?,
      request.transport = none ∧ request.timer = .armed
  | .returned index => ∀ request ∈ state.requests[index]?,
      (state.clients request.connectionId).isSome = true
  | .transport index event => ∀ request ∈ state.requests[index]?,
      ∀ transport ∈ request.transport, Timely request transport event
  | .close index => ∀ request ∈ state.requests[index]?, ∀ client ∈ request.contextTransport,
      ∀ other ∈ state.requests[client]?, ∀ transport ∈ other.transport,
        Timely other transport .close
  | _ => True

instance (request : Request) (transport : Transport.State) (event : Transport.Event) :
    Decidable (Timely request transport event) :=
  inferInstanceAs (Decidable (_ ∧ _))

instance (state : State) : ∀ event, Decidable (Undisturbed state event)
  | .connect _ (.refused _) | .refuse _ _ => inferInstanceAs (Decidable False)
  | .thrown index _ => inferInstanceAs (Decidable (∀ request ∈ state.requests[index]?, _ ∧ _))
  | .returned index => inferInstanceAs (Decidable (∀ request ∈ state.requests[index]?, _ = true))
  | .transport index event => inferInstanceAs (Decidable (∀ request ∈ state.requests[index]?,
      ∀ transport ∈ request.transport, Timely request transport event))
  | .close index => inferInstanceAs (Decidable (∀ request ∈ state.requests[index]?,
      ∀ client ∈ request.contextTransport, ∀ other ∈ state.requests[client]?,
        ∀ transport ∈ other.transport, Timely other transport .close))
  | .connect _ (.invalid _) | .connect _ .generated | .construct _ _ | .timeout _ | .closed _
  | .disconnected _ => inferInstanceAs (Decidable True)

namespace Request

/-- Nothing was answered. -/
def Silent (request : Request) : Prop := request.answers = [] ∧ request.errors = []

/-- One failure was answered and one error emitted. -/
def Failed (request : Request) : Prop :=
  ∃ code message context, request.answers = [.fail code message] ∧ request.errors = [context]

/-- One success was answered and no error emitted. -/
def Succeeded (request : Request) : Prop :=
  ∃ payload, request.answers = [.success payload] ∧ request.errors = []

/-- What the fields of a request say about the answers so far and about those its
transport may still give. -/
structure Accounted (request : Request) : Prop where
  pending : request.connectResponded = false → request.timer = .armed → request.Silent
  failed : request.connectResponded = false → request.timer ≠ .armed → request.Failed
  responded : request.connectResponded = true → request.Succeeded ∨ request.Failed
  early : request.handling = .handshaking → request.transport = none
  unconstructed : request.transport = none → request.connectResponded = false
  single : ∀ transport ∈ request.transport, transport.opening ≤ 1
  opened : ∀ transport ∈ request.transport, transport.opened = true →
    transport.opening = 0 ∧ request.connectResponded = true
  unopened : ∀ transport ∈ request.transport, transport.opened = false →
    request.connectResponded = true → transport.opening = 0

/-- At most one answer and one error, and exactly one answer once the timeout has fired
or was cleared. -/
structure AnsweredOnce (request : Request) : Prop where
  once : request.answers.length ≤ 1
  reported : request.errors.length ≤ 1
  answered : request.timer ≠ .armed → request.answers.length = 1

/-- The account of a request bounds its answers. -/
theorem Accounted.answeredOnce {request : Request} (accounted : request.Accounted) :
    request.AnsweredOnce := by
  have settled (ended : request.Succeeded ∨ request.Failed) : request.AnsweredOnce := by
    rcases ended with ⟨payload, given, reported⟩ | ⟨code, message, context, given, reported⟩
    · exact ⟨by simp [given], by simp [reported], by simp [given]⟩
    · exact ⟨by simp [given], by simp [reported], by simp [given]⟩
  cases responded : request.connectResponded with
  | true => exact settled (accounted.responded responded)
  | false =>
    by_cases armed : request.timer = .armed
    · obtain ⟨given, reported⟩ := accounted.pending responded armed
      exact ⟨by simp [given], by simp [reported], fun other => absurd armed other⟩
    · exact settled (Or.inr (accounted.failed responded armed))

/-- The account of a request does not depend on its id, its place in the handshake
after the socket, or the transport of its context. -/
theorem Accounted.moved {request other : Request} (accounted : request.Accounted)
    (answers : other.answers = request.answers) (errors : other.errors = request.errors)
    (responded : other.connectResponded = request.connectResponded)
    (timer : other.timer = request.timer) (transport : other.transport = request.transport)
    (early : other.handling = .handshaking → other.transport = none) : other.Accounted := by
  obtain ⟨pending, failed, answered, -, unconstructed, single, opened, unopened⟩ := accounted
  rw [← responded, ← timer] at pending failed
  rw [← responded, ← transport] at unconstructed opened unopened
  rw [← responded] at answered
  rw [← transport] at single
  simp only [Silent, Failed, Succeeded, ← answers, ← errors] at pending failed answered
  exact ⟨pending, failed, answered, early, unconstructed, single, opened, unopened⟩

/-- A request that arrives is accounted for. -/
theorem arrived_accounted (connectionId : Text) : (arrived connectionId).Accounted where
  pending := fun _ _ => ⟨rfl, rfl⟩
  failed := fun _ other => absurd rfl other
  responded := by simp [arrived]
  early := fun _ => rfl
  unconstructed := fun _ => rfl
  single := by simp [arrived]
  opened := by simp [arrived]
  unopened := by simp [arrived]

end Request

/-- Every request of a manager is accounted for. -/
def State.Accounted (state : State) : Prop := ∀ request ∈ state.requests, request.Accounted

section Step

variable {codec : Codec} {state : State} {index : Nat} {request : Request}

/-- A state that differs in one request is accounted for when that request is. -/
theorem accounted_set {next : State} (accounted : state.Accounted) (request : Request)
    (replaced : request.Accounted) (same : next.requests = state.requests.set index request) :
    next.Accounted := by
  intro other member
  rcases List.mem_or_eq_of_mem_set (same ▸ member) with member | rfl
  · exact accounted other member
  · exact replaced

/-- The outputs of a transport that are not answers leave the manager alone. -/
theorem receive_answers (state : State) (outputs : List Output) :
    outputs.foldl (State.receive index) state =
      (answers outputs).foldl (State.receive index) state := by
  induction outputs generalizing state with
  | nil => rfl
  | cons output outputs inductionHypothesis =>
    cases output with
    | accept payload => exact inductionHypothesis _
    | refuse message => exact inductionHypothesis _
    | sendToConnection message =>
      have kept : State.receive index state (.sendToConnection message) = state := by
        simp only [State.receive]
        split <;> simp_all
      rw [List.foldl_cons, kept]
      exact inductionHypothesis state
    | drain =>
      have kept : State.receive index state .drain = state := by
        simp only [State.receive]
        split <;> simp_all
      rw [List.foldl_cons, kept]
      exact inductionHypothesis state

/-- A timely step of a transport keeps the account of its request. -/
theorem accounted_transport {transport next : Transport.State} {event : Transport.Event}
    {outputs : List Output} (accounted : state.Accounted)
    (standing : state.requests[index]? = some request)
    (owned : request.transport = some transport) (timely : Timely request transport event)
    (answering : Answering transport event outputs next) :
    (outputs.foldl (State.receive index)
      (state.put index { request with transport := some next })).Accounted := by
  have before : request.Accounted := accounted request (List.mem_of_getElem? standing)
  have inside : index < state.requests.length := (List.getElem?_eq_some_iff.mp standing).1
  have moved : (state.put index { request with transport := some next }).requests[index]? =
      some { request with transport := some next } := by
    simp [State.put, inside]
  have single : transport.opening ≤ 1 := before.single transport owned
  have late : request.handling = .handshaking → (some next : Option Transport.State) = none :=
    fun early => by simp [before.early early] at owned
  have opened := before.opened transport owned
  have unopened := before.unopened transport owned
  rw [receive_answers]
  cases answering with
  | silent answered same fewer =>
    rw [answered]
    refine accounted_set accounted { request with transport := some next }
      ⟨before.pending, before.failed, before.responded, late, by simp, ?_, ?_, ?_⟩ rfl
    · rintro _ ⟨⟩
      omega
    · rintro _ ⟨⟩ isOpened
      have known := opened (same ▸ isOpened)
      exact ⟨by omega, known.2⟩
    · rintro _ ⟨⟩ isClosed responded
      have known := unopened (same ▸ isClosed) responded
      omega
  | asked begins answered wasUnopened isUnopened one =>
    rw [answered]
    obtain ⟨none, unanswered, armed⟩ :=
      (timely.1 begins).resolve_left (by simp [wasUnopened])
    refine accounted_set accounted { request with transport := some next }
      ⟨before.pending, before.failed, before.responded, late, by simp, ?_, ?_, ?_⟩ rfl
    · rintro _ ⟨⟩
      omega
    · rintro _ ⟨⟩ isOpened
      simp [isUnopened] at isOpened
    · rintro _ ⟨⟩ - responded
      simp [unanswered] at responded
  | refused message begins answered wasUnopened isUnopened same =>
    obtain ⟨none, unanswered, armed⟩ :=
      (timely.1 begins).resolve_left (by simp [wasUnopened])
    obtain ⟨given, reported⟩ := before.pending unanswered armed
    rw [answered]
    simp only [List.foldl_cons, List.foldl_nil, State.receive, moved]
    refine accounted_set accounted _ ?_ (List.set_set ..)
    refine ⟨by simp, by simp, fun _ => Or.inr ⟨400, _, _, by simp [given]; rfl, by simp [reported]; rfl⟩,
      late, by simp, ?_, ?_, ?_⟩
    · rintro _ ⟨⟩
      omega
    · rintro _ ⟨⟩ isOpened
      simp [isUnopened] at isOpened
    · rintro _ ⟨⟩ - -
      omega
  | accepted payload accepts answered isOpened one =>
    have armed : request.timer = .armed := timely.2 accepts
    have unanswered : request.connectResponded = false := by
      cases isBefore : transport.opened with
      | true => have := opened isBefore; omega
      | false =>
        by_contra responded
        have := unopened isBefore (by simpa using responded)
        omega
    obtain ⟨given, reported⟩ := before.pending unanswered armed
    rw [answered]
    simp only [List.foldl_cons, List.foldl_nil, State.receive, moved]
    refine accounted_set accounted _ ?_ (List.set_set ..)
    refine ⟨by simp, by simp, fun _ => Or.inl ⟨payload, by simp [given], reported⟩,
      late, by simp, ?_, ?_, ?_⟩
    · rintro _ ⟨⟩
      omega
    · rintro _ ⟨⟩ -
      exact ⟨by omega, rfl⟩
    · rintro _ ⟨⟩ closed
      simp [isOpened] at closed

/-- A step of the transport of a request is timely, so it keeps all accounts. -/
theorem accounted_transportStep {event : Transport.Event} {next : State}
    {added : List (Nat × Output)} (accounted : state.Accounted)
    (timely : ∀ request ∈ state.requests[index]?, ∀ transport ∈ request.transport,
      Timely request transport event)
    (stepped : state.transportStep codec index event = some (next, added)) : next.Accounted := by
  obtain ⟨request, transport, moved, outputs, standing, owned, transported, rfl, rfl⟩ :=
    transportStep_taken stepped
  exact accounted_transport accounted standing owned (timely request standing transport owned)
    (Transport.step_answering codec transported)

/-- A request that has no transport keeps its account when it fails, unless it was
answered. -/
theorem accounted_catchError {error : Text} (accounted : state.Accounted)
    (unconstructed : request.transport = none) (before : request.Accounted)
    (armed : request.timer = .armed) : (state.catchError index request error).Accounted := by
  have unanswered := before.unconstructed unconstructed
  obtain ⟨given, reported⟩ := before.pending unanswered armed
  refine accounted_set accounted _ ?_ rfl
  refine ⟨?_, ?_, by simp [unanswered], by simp, fun _ => unanswered, by simp [unconstructed],
    by simp [unconstructed], by simp [unconstructed]⟩
  · simp [armed]
  · intro _ _
    exact ⟨500, _, _, by simp [given]; rfl, by simp [reported]; rfl⟩

/-- A new request that the handshake does not refuse at once is accounted for. -/
theorem accounted_connect (accounted : state.Accounted) (connectionId : Text) {opening : Opening}
    (unrefused : ∀ message, opening ≠ .refused message) :
    (state.connect connectionId opening).Accounted := by
  have arrived := Request.arrived_accounted connectionId
  have listed : State.Accounted
      { state with requests := state.requests ++ [Request.arrived connectionId] } := by
    intro other member
    cases List.mem_append.mp member with
    | inl member => exact accounted other member
    | inr member => exact (List.mem_singleton.mp member) ▸ arrived
  cases opening with
  | invalid error => exact accounted_catchError listed rfl arrived rfl
  | refused message => exact absurd rfl (unrefused message)
  | generated =>
    refine accounted_set listed _ ?_ rfl
    exact arrived.moved rfl rfl rfl rfl rfl (fun _ => rfl)

/-- The socket of a handshake gives its request a transport that may accept once. -/
theorem accounted_construct {handshake : Text} {outputs : List Output}
    {transport : Transport.State} (accounted : state.Accounted) (before : request.Accounted)
    (handshaking : request.handling = .handshaking)
    (started : (Transport.State.initial true).start [⟨.open, .text handshake⟩] =
      (transport, outputs)) :
    (state.put index { request with
      handling := .constructed, transport := some transport }).Accounted := by
  have unanswered := before.unconstructed (before.early handshaking)
  obtain ⟨rfl, rfl⟩ := Prod.mk.inj started
  refine accounted_set accounted { request with
    handling := .constructed, transport := some _ }
    ⟨before.pending, before.failed, before.responded, by simp, by simp, ?_, ?_, ?_⟩ rfl
  · rintro _ ⟨⟩
    exact Nat.le_refl 1
  · rintro _ ⟨⟩ opened
    simp [Transport.State.initial] at opened
  · rintro _ ⟨⟩ - responded
    simp [unanswered] at responded

/-- The timeout answers a request exactly when nothing was answered. -/
theorem accounted_timeout (accounted : state.Accounted) (before : request.Accounted)
    (armed : request.timer = .armed) : (state.timeout index request).Accounted := by
  unfold State.timeout
  split
  · next responded =>
    refine accounted_set accounted { request with timer := .fired }
      ⟨?_, ?_, before.responded, before.early, before.unconstructed, before.single,
        before.opened, before.unopened⟩ rfl
    · simp [responded]
    · simp [responded]
  · next unanswered =>
    obtain ⟨given, reported⟩ := before.pending (by simpa using unanswered) armed
    refine accounted_set accounted _ ?_ rfl
    refine ⟨by simp, fun _ _ => ⟨500, _, _, by simp [given]; rfl, by simp [reported]; rfl⟩, ?_,
      before.early, before.unconstructed, before.single, before.opened, before.unopened⟩
    simp [unanswered]

/-- Every undisturbed step keeps all accounts. -/
theorem accounted_step {event : Event} {next : State} {added : List (Nat × Output)}
    (accounted : state.Accounted) (undisturbed : Undisturbed state event)
    (stepped : (manager codec).step state event = some (next, added)) : next.Accounted := by
  cases step_taken stepped with
  | connect connectionId opening =>
    apply accounted_connect accounted connectionId
    rintro message rfl
    exact undisturbed.elim
  | refuse message standing handshaking => exact undisturbed.elim
  | construct handshake standing handshaking =>
    have before := accounted _ (List.mem_of_getElem? standing)
    exact accounted_construct accounted before handshaking rfl
  | thrown error standing active =>
    obtain ⟨unconstructed, armed⟩ := undisturbed _ standing
    exact accounted_catchError accounted unconstructed
      (accounted _ (List.mem_of_getElem? standing)) armed
  | @returned index request standing left =>
    obtain ⟨client, registered⟩ := Option.isSome_iff_exists.mp (undisturbed request standing)
    have before := accounted request (List.mem_of_getElem? standing)
    simp only [State.returned, registered]
    refine accounted_set accounted _ ?_ rfl
    exact before.moved rfl rfl rfl rfl rfl (by simp)
  | timeout standing armed =>
    exact accounted_timeout accounted (accounted _ (List.mem_of_getElem? standing)) armed
  | @transport index event _ _ other moved =>
    have timely : ∀ request ∈ state.requests[index]?, ∀ transport ∈ request.transport,
      Timely request transport event := undisturbed
    exact accounted_transportStep accounted timely moved
  | close standing bound moved =>
    exact accounted_transportStep accounted (undisturbed _ standing _ bound) moved
  | closed standing socket => exact accounted
  | disconnected connectionId connected => exact accounted

end Step

/-- In a run of undisturbed handshakes every connect request gets at most one answer and
one error, and exactly one answer once its timeout has fired or was cleared, whatever
the order of its own outcomes and of the other requests. A timeout that is armed can
fire, so every request is answered in the end. -/
theorem connect_answered_once (codec : Codec) {events : List Event} {state : State}
    {outputs : List (Nat × Output)}
    (undisturbed : (manager codec).Meets Undisturbed State.initial events)
    (ran : (manager codec).run State.initial events = some (state, outputs)) :
    ∀ index request, state.requests[index]? = some request → request.AnsweredOnce ∧
      (request.timer = .armed → ((manager codec).step state (.timeout index)).isSome = true) := by
  have accounted : state.Accounted :=
    (manager codec).invariant_meets State.Accounted
      (fun _ _ _ _ held here stepped => accounted_step held here stepped)
      (by simp [State.Accounted, State.initial]) undisturbed ran
  intro index request standing
  constructor
  · exact (accounted request (List.mem_of_getElem? standing)).answeredOnce
  · intro armed
    simp [manager, step, standing, armed]

section Orders

/-- The answers of all requests after a run. -/
def answersAfter (events : List Event) : Option (List (List Answer)) :=
  ((manager Codec.engineIo).run State.initial events).map
    (fun result => result.1.requests.map Request.answers)

/-- A handshake that refuses is answered by the refusal and by the catch block. A socket
closed while its open packet is being encoded refuses, and then accepts. -/
theorem refusal_answered_twice :
    answersAfter [.connect "c".toList (.refused none), .returned 0] =
        some [[.fail 400 (refusalError "undefined".toList),
          .fail 500 (handlingError missingClient)]] ∧
      answersAfter [.connect "c".toList .generated, .construct 0 "{}".toList,
          .transport 0 .doClose, .transport 0 (.encoded 0)] =
        some [[.fail 400 (refusalError Transport.State.notOpened), .success "{}".toList]] := by
  decide +kernel

/-- A handshake that accepts, a request without queries, and a handshake that hangs. -/
def mixedHandshakes : List Event :=
  [.connect "a".toList .generated, .construct 0 "{}".toList,
    .connect "b".toList (.invalid "TypeError".toList), .transport 0 (.encoded 0), .returned 0,
    .connect "c".toList .generated, .timeout 2, .timeout 0, .close 0]

theorem connect_answered_once_mixed : ∃ state outputs,
    (manager Codec.engineIo).run State.initial mixedHandshakes = some (state, outputs) ∧
      ∀ index request, state.requests[index]? = some request → request.AnsweredOnce ∧
        (request.timer = .armed →
          ((manager Codec.engineIo).step state (.timeout index)).isSome = true) := by
  have completed : ((manager Codec.engineIo).run State.initial mixedHandshakes).isSome = true := by
    decide +kernel
  obtain ⟨⟨state, outputs⟩, ran⟩ := Option.isSome_iff_exists.mp completed
  have undisturbed : (manager Codec.engineIo).Meets Undisturbed State.initial mixedHandshakes := by
    decide +kernel
  exact ⟨state, outputs, ran, connect_answered_once Codec.engineIo undisturbed ran⟩

end Orders

end WebPubSub.Connect
