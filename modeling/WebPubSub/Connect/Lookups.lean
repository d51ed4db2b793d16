import WebPubSub.Connect.Candidates

/-!
# What the events of a connection find

A user event and a disconnect look the connection up in two tables: the one of the manager,
into which `handleConnect` writes and from which `cleanup` and `onDisconnected` take, and the
one of the sockets. A connection is in the first from its connect request on, until it is
cleaned up or disconnected, and in the second as long as its socket stands. A request that is
refused, fails or times out is cleaned up at once, also when its socket is made afterwards:
from then on the events of the connection find nothing, and never the socket of another.
-/

namespace WebPubSub.Connect

open Transport (Output)

/-- The calls that touch the queue of candidates, with the cleanups, during an event. -/
def SessionEvent.calls (codec : Codec) (state : State) : SessionEvent → List CandidateCall
  | .manager event => event.calls codec state
  | .userEvent _ => []

/-- Those of a run. -/
def sessionCalls (codec : Codec) (events : List SessionEvent) : List CandidateCall :=
  ((sessions codec).steps State.initial events).flatMap (fun taken => taken.2.calls codec taken.1)

/-- The connection that a connect request is for. -/
def Event.connectsTo : Event → Option Text
  | .connect connectionId _ => some connectionId
  | _ => none

/-- The connection that a client has left. -/
def Event.disconnectsFrom : Event → Option Text
  | .disconnected connectionId => some connectionId
  | _ => none

section Connections

variable {codec : Codec} {state next : State} {index : Nat} {request : Request}

/-- A cleanup takes its connection out of the table of the manager, and no other. -/
theorem connections_cleanup (state : State) (connectionId other : Text) :
    (state.cleanup connectionId).clientConnections other =
      if other = connectionId then none else state.clientConnections other := by
  simp only [State.cleanup, Function.update_apply]

theorem connections_receive (standing : state.requests[index]? = some request)
    (outputs : List Output) (connectionId : Text) :
    (outputs.foldl (State.receive index) state).clientConnections connectionId =
      if .cleanup connectionId ∈ refusals request.connectionId outputs then none
      else state.clientConnections connectionId := by
  induction outputs generalizing state request with
  | nil => rfl
  | cons output outputs inductionHypothesis =>
    have kept : Keeps state (State.receive index state output) := keeps_receive state output
    obtain ⟨after, stands, same⟩ := kept.standing standing
    have named : after.connectionId = request.connectionId := congrArg Prod.fst same
    rw [List.foldl_cons, inductionHypothesis stands, named]
    have split : refusals request.connectionId (output :: outputs) =
        refusals request.connectionId [output] ++ refusals request.connectionId outputs :=
      List.filterMap_append (l := [output])
    rw [split]
    cases output with
    | accept payload =>
      simp [State.receive, standing, State.onAccept, State.put, refusals]
    | refuse errorMessage =>
      have refused : (State.receive index state (.refuse errorMessage)).clientConnections =
          (state.cleanup request.connectionId).clientConnections := by
        simp [State.receive, standing, State.onRefuse, State.put]
      rw [refused, connections_cleanup]
      by_cases own : connectionId = request.connectionId
      · simp [own, refusals]
      · simp [own, refusals]
    | sendToConnection message => simp [State.receive, standing, refusals]
    | drain => simp [State.receive, standing, refusals]

theorem connections_transportStep {event : Transport.Event} {outputs : List (Nat × Output)}
    (stepped : state.transportStep codec index event = some (next, outputs))
    (connectionId : Text) :
    next.clientConnections connectionId =
      if .cleanup connectionId ∈ state.transportCalls codec index event then none
      else state.clientConnections connectionId := by
  obtain ⟨request, transport, moved, given, standing, owned, taken, rfl, -⟩ :=
    transportStep_taken stepped
  have calls : state.transportCalls codec index event = refusals request.connectionId given := by
    simp [State.transportCalls, standing, owned, taken]
  have stands : (state.put index { request with transport := some moved }).requests[index]? =
      some { request with transport := some moved } :=
    List.getElem?_set_self (List.getElem?_eq_some_iff.mp standing).1
  rw [connections_receive stands, calls]
  rfl

/-- The table of the manager after a step: a connection that is cleaned up or disconnected is
not in it, one that comes is in it with its request, and all others stay. -/
theorem connections_step {event : Event} {outputs : List (Nat × Output)}
    (stepped : step codec state event = some (next, outputs)) (connectionId : Text) :
    next.clientConnections connectionId =
      if .cleanup connectionId ∈ event.calls codec state ∨
          event.disconnectsFrom = some connectionId then none
      else if event.connectsTo = some connectionId then some state.requests.length
      else state.clientConnections connectionId := by
  cases step_taken stepped with
  | connect other opening =>
    by_cases own : connectionId = other
    · subst own
      cases opening <;>
        simp [State.connect, State.catchError, State.onRefuse, State.put, Event.calls,
          connections_cleanup, Event.connectsTo, Event.disconnectsFrom, Request.arrived]
    · have apart : ¬other = connectionId := fun same => own same.symm
      cases opening <;>
        simp [State.connect, State.catchError, State.onRefuse, State.put, Event.calls,
          connections_cleanup, Event.connectsTo, Event.disconnectsFrom, Request.arrived, own, apart]
  | refuse message standing handshaking =>
    simp [Event.calls, standing, State.onRefuse, State.put, connections_cleanup,
      Event.connectsTo, Event.disconnectsFrom]
  | construct handshake standing handshaking =>
    simp [Event.calls, State.put, Event.connectsTo, Event.disconnectsFrom]
  | thrown error standing active =>
    simp [Event.calls, standing, State.catchError, State.put, connections_cleanup,
      Event.connectsTo, Event.disconnectsFrom]
  | @returned index request standing left =>
    cases held : state.clients request.connectionId with
    | none =>
      simp [Event.calls, standing, State.returned, held, Option.filter, State.catchError,
        State.put, connections_cleanup, Event.connectsTo, Event.disconnectsFrom]
    | some client =>
      simp [Event.calls, standing, State.returned, held, Option.filter, State.put,
        Event.connectsTo, Event.disconnectsFrom]
  | @timeout index request standing armed =>
    cases responded : request.connectResponded with
    | true =>
      simp [Event.calls, standing, State.timeout, responded, Option.filter, State.put,
        Event.connectsTo, Event.disconnectsFrom]
    | false =>
      simp [Event.calls, standing, State.timeout, responded, Option.filter, State.put,
        connections_cleanup, Event.connectsTo, Event.disconnectsFrom]
  | transport other moved =>
    rw [connections_transportStep moved]
    simp [Event.calls, Event.connectsTo, Event.disconnectsFrom]
  | close standing bound moved =>
    rw [connections_transportStep moved]
    simp [Event.calls, standing, bound, Event.connectsTo, Event.disconnectsFrom]
  | closed standing socket => simp [Event.calls, Event.connectsTo, Event.disconnectsFrom]
  | disconnected other connected =>
    by_cases own : connectionId = other
    · simp [Event.disconnectsFrom, own]
    · simp [Event.calls, Event.connectsTo, Event.disconnectsFrom, own, Ne.symm own]

theorem transportCalls_named {event : Transport.Event} {connectionId : Text}
    (cleaned : .cleanup connectionId ∈ state.transportCalls codec index event) :
    ∃ request : Request, state.requests[index]? = some request ∧
      request.connectionId = connectionId := by
  unfold State.transportCalls at cleaned
  split at cleaned
  · cases cleaned
  · rename_i request standing
    split at cleaned
    · cases cleaned
    · obtain ⟨output, -, found⟩ := List.mem_filterMap.mp cleaned
      cases output with
      | refuse errorMessage =>
        cases found
        exact ⟨request, standing, rfl⟩
      | _ => cases found

/-- The connection of a cleanup is the one that comes, or that of a request. -/
theorem calls_named {event : Event} {connectionId : Text}
    (cleaned : .cleanup connectionId ∈ event.calls codec state) :
    event.connectsTo = some connectionId ∨
      ∃ (index : Nat) (request : Request), state.requests[index]? = some request ∧
        request.connectionId = connectionId := by
  have filtered (index : Nat) (test : Request → Bool)
      (listed : .cleanup connectionId ∈ ((state.requests[index]?).filter test).toList.map
        (fun request => CandidateCall.cleanup request.connectionId)) :
      ∃ (index : Nat) (request : Request), state.requests[index]? = some request ∧
        request.connectionId = connectionId := by
    obtain ⟨request, found, same⟩ := List.mem_map.mp listed
    have standing := (Option.filter_eq_some_iff.mp (Option.mem_toList.mp found)).1
    exact ⟨index, request, standing, CandidateCall.cleanup.inj same⟩
  have plain (index : Nat)
      (listed : .cleanup connectionId ∈ (state.requests[index]?).toList.map
        (fun request => CandidateCall.cleanup request.connectionId)) :
      ∃ (index : Nat) (request : Request), state.requests[index]? = some request ∧
        request.connectionId = connectionId := by
    obtain ⟨request, found, same⟩ := List.mem_map.mp listed
    exact ⟨index, request, Option.mem_toList.mp found, CandidateCall.cleanup.inj same⟩
  cases event with
  | connect other opening =>
    apply Or.inl
    cases opening <;> simp_all [Event.calls, Event.connectsTo]
  | refuse index message => exact Or.inr (plain index cleaned)
  | thrown index error => exact Or.inr (plain index cleaned)
  | returned index => exact Or.inr (filtered index _ cleaned)
  | timeout index => exact Or.inr (filtered index _ cleaned)
  | transport index event => exact Or.inr ⟨index, transportCalls_named cleaned⟩
  | close index =>
    simp only [Event.calls] at cleaned
    split at cleaned
    · cases cleaned
    · exact Or.inr ⟨_, transportCalls_named cleaned⟩
  | construct index handshake => cases cleaned
  | closed index => cases cleaned
  | disconnected other => cases cleaned

end Connections

/-! ## Runs -/

section Runs

variable {codec : Codec} {state next : State} {events : List SessionEvent}

theorem sessionCalls_concat {outputs : List SessionOutput} {event : SessionEvent}
    {added : List SessionOutput}
    (ran : (sessions codec).run State.initial events = some (state, outputs))
    (stepped : (sessions codec).step state event = some (next, added)) :
    sessionCalls codec (events ++ [event]) =
      sessionCalls codec events ++ event.calls codec state := by
  rw [sessionCalls, (sessions codec).steps_append ran, List.flatMap_append]
  simp only [Machine.steps, stepped, List.flatMap_cons, List.flatMap_nil, List.append_nil]
  rfl

/-- The service has reported the client of a connection as gone. -/
def Departed (events : List SessionEvent) (connectionId : Text) : Prop :=
  .manager (.disconnected connectionId) ∈ events

/-- Where the table of the manager stands after a run. -/
structure Listed (codec : Codec) (events : List SessionEvent) (state : State) : Prop where
  known : ∀ connectionId index, state.clientConnections connectionId = some index →
    connectionId ∈ (connects events).map Prod.fst
  cleaned : ∀ connectionId, .cleanup connectionId ∈ sessionCalls codec events →
    connectionId ∈ (connects events).map Prod.fst
  departed : ∀ connectionId, Departed events connectionId →
    connectionId ∈ (connects events).map Prod.fst
  table : ((connects events).map Prod.fst).Nodup → ∀ connectionId index,
    state.clientConnections connectionId = some index ↔
      (∃ opening, (connects events)[index]? = some (connectionId, opening)) ∧
        .cleanup connectionId ∉ sessionCalls codec events ∧ ¬Departed events connectionId

theorem listed_initial : Listed codec [] State.initial := by
  constructor
  · intro connectionId index found
    cases found
  · intro connectionId cleaned
    cases cleaned
  · intro connectionId departed
    cases departed
  · intro _ connectionId index
    simp [State.initial, connects]

/-- A user event changes no table. -/
theorem Listed.userEvent {outputs : List SessionOutput} (held : Listed codec events state)
    (ran : (sessions codec).run State.initial events = some (state, outputs)) (name : Text) :
    Listed codec (events ++ [.userEvent name]) state := by
  have calls : sessionCalls codec (events ++ [.userEvent name]) = sessionCalls codec events := by
    rw [sessionCalls_concat ran rfl]
    exact List.append_nil _
  have same : connects (events ++ [.userEvent name]) = connects events := by
    simp [connects]
  have departed (connectionId : Text) :
      Departed (events ++ [.userEvent name]) connectionId ↔ Departed events connectionId := by
    simp [Departed]
  constructor
  · rw [same]
    exact held.known
  · rw [calls, same]
    exact held.cleaned
  · simp only [departed, same]
    exact held.departed
  · simp only [calls, same, departed]
    exact held.table

/-- The connect requests with one more event of the manager. -/
theorem connects_concat (events : List SessionEvent) (event : Event) :
    (∃ connectionId opening, event.connectsTo = some connectionId ∧
      connects (events ++ [.manager event]) = connects events ++ [(connectionId, opening)]) ∨
    (event.connectsTo = none ∧ connects (events ++ [.manager event]) = connects events) := by
  cases event with
  | connect connectionId opening =>
    exact Or.inl ⟨connectionId, opening, rfl, connects_append events _⟩
  | _ => exact Or.inr ⟨rfl, (connects_append events _).trans (List.append_nil _)⟩

/-- A connection of the requests with one more is one of them before, or the last. -/
theorem listed_concat (entries : List (Text × Opening)) (other : Text) (opening : Opening)
    (connectionId : Text) (index : Nat) :
    (∃ held, (entries ++ [(other, opening)])[index]? = some (connectionId, held)) ↔
      (∃ held, entries[index]? = some (connectionId, held)) ∨
        (index = entries.length ∧ other = connectionId) := by
  constructor
  · rintro ⟨held, listed⟩
    rcases Ledger.getElem?_concat_cases listed with ⟨last, same⟩ | old
    · exact Or.inr ⟨last, (congrArg Prod.fst same).symm⟩
    · exact Or.inl ⟨held, old⟩
  · rintro (⟨held, old⟩ | ⟨rfl, rfl⟩)
    · exact ⟨held, Ledger.getElem?_append_of_some old _⟩
    · exact ⟨opening, List.getElem?_concat_length⟩

/-- Every event of the manager keeps to this. -/
theorem Listed.manager {outputs : List SessionOutput} {event : Event}
    {added : List (Nat × Output)} (held : Listed codec events state)
    (agreed : Agreed (connects events) state)
    (ran : (sessions codec).run State.initial events = some (state, outputs))
    (stepped : step codec state event = some (next, added)) :
    Listed codec (events ++ [.manager event]) next := by
  have calls : sessionCalls codec (events ++ [.manager event]) =
      sessionCalls codec events ++ event.calls codec state := by
    have taken : (sessions codec).step state (.manager event) = some (next,
        added.map (fun output => .transport output.1 output.2)) := by
      simp [sessions, stepped]
    exact sessionCalls_concat ran taken
  have departed (connectionId : Text) : Departed (events ++ [.manager event]) connectionId ↔
      Departed events connectionId ∨ event.disconnectsFrom = some connectionId := by
    cases event <;> simp [Departed, Event.disconnectsFrom, eq_comm]
  have earlier {connectionId : Text} (before : connectionId ∈ (connects events).map Prod.fst) :
      connectionId ∈ (connects (events ++ [.manager event])).map Prod.fst := by
    rw [connects_append, List.map_append]
    exact List.mem_append_left _ before
  have comes {connectionId : Text} (coming : event.connectsTo = some connectionId) :
      connectionId ∈ (connects (events ++ [.manager event])).map Prod.fst := by
    rcases connects_concat events event with ⟨other, opening, same, whole⟩ | ⟨none, -⟩
    · obtain rfl : other = connectionId := Option.some.inj (same.symm.trans coming)
      rw [whole]
      simp
    · rw [none] at coming
      cases coming
  constructor
  case known =>
    intro connectionId index found
    rw [connections_step stepped] at found
    split at found
    · cases found
    · split at found
      · rename_i coming
        exact comes coming
      · exact earlier (held.known connectionId index found)
  case cleaned =>
    intro connectionId cleaned
    rw [calls, List.mem_append] at cleaned
    rcases cleaned with before | now
    · exact earlier (held.cleaned connectionId before)
    · rcases calls_named now with coming | ⟨index, request, standing, rfl⟩
      · exact comes coming
      · obtain ⟨opening, listed⟩ := agreed.made standing
        exact earlier (List.mem_map.mpr ⟨_, List.mem_of_getElem? listed, rfl⟩)
  case departed =>
    intro connectionId gone
    rcases (departed connectionId).mp gone with before | now
    · exact earlier (held.departed connectionId before)
    · cases step_taken stepped with
      | disconnected other connected =>
        obtain rfl : other = connectionId := Option.some.inj now
        exact earlier (held.known other _ connected)
      | _ => cases now
  case table =>
    intro distinct connectionId index
    rw [calls, departed, connections_step stepped, List.mem_append]
    by_cases taken : .cleanup connectionId ∈ event.calls codec state ∨
        event.disconnectsFrom = some connectionId
    · rw [if_pos taken]
      refine iff_of_false (by simp) ?_
      rintro ⟨-, uncleaned, stays⟩
      rcases taken with now | now
      · exact uncleaned (Or.inr now)
      · exact stays (Or.inr now)
    obtain ⟨uncleaned, stays⟩ := not_or.mp taken
    rw [if_neg taken, or_iff_left uncleaned, or_iff_left stays]
    rcases connects_concat events event with ⟨other, opening, same, whole⟩ | ⟨none, whole⟩
    · rw [whole, List.map_append, List.map_singleton] at distinct
      have fresh : other ∉ (connects events).map Prod.fst := fun before =>
        (List.disjoint_of_nodup_append distinct) before List.mem_cons_self
      by_cases own : other = connectionId
      · subst own
        rw [if_pos same, agreed.counted, whole]
        have quiet : .cleanup other ∉ sessionCalls codec events ∧ ¬Departed events other :=
          ⟨fun cleaned => fresh (held.cleaned other cleaned),
            fun gone => fresh (held.departed other gone)⟩
        have unlisted : ¬∃ held, (connects events)[index]? = some (other, held) := by
          rintro ⟨held, old⟩
          exact fresh (List.mem_map.mpr ⟨_, List.mem_of_getElem? old, rfl⟩)
        rw [and_iff_left quiet, listed_concat, or_iff_right unlisted, and_iff_left rfl,
          Option.some.injEq, eq_comm]
      · rw [if_neg (by rw [same]; simpa using own),
          held.table distinct.of_append_left connectionId index, whole, listed_concat,
          or_iff_left (fun last => own last.2)]
    · rw [whole] at distinct ⊢
      rw [if_neg (by simp [none])]
      exact held.table distinct connectionId index

/-- The table of sockets holds placed sockets only. -/
def OnlyPlaced (events : List SessionEvent) (state : State) : Prop :=
  ∀ connectionId index, state.clients connectionId = some index →
    placed index connectionId events = true

theorem OnlyPlaced.keep (held : OnlyPlaced events state) {event : SessionEvent}
    (clients : next.clients = state.clients)
    (same : ∀ index connectionId, placed index connectionId (events ++ [event]) =
      placed index connectionId events) : OnlyPlaced (events ++ [event]) next := by
  intro connectionId index found
  rw [clients] at found
  rw [same]
  exact held connectionId index found

theorem OnlyPlaced.manager {event : Event} {added : List (Nat × Output)}
    (held : OnlyPlaced events state) (agreed : Agreed (connects events) state)
    (stepped : step codec state event = some (next, added)) :
    OnlyPlaced (events ++ [.manager event]) next := by
  cases step_taken stepped with
  | connect connectionId opening =>
    have clients_same := (connect_spec agreed.queue connectionId opening).2.1
    exact held.keep clients_same (placed_append · · events _)
  | refuse message standing handshaking => exact held.keep rfl (placed_append · · events _)
  | @construct made request handshake standing handshaking =>
    intro connectionId index found
    rw [placed_append, Bool.or_eq_true, decide_eq_true_eq]
    by_cases own : connectionId = sidKey request.sid
    · subst own
      exact Or.inr (by simpa using found)
    · simp only [Function.update_of_ne own] at found
      exact Or.inl (held connectionId index found)
  | thrown error standing active => exact held.keep rfl (placed_append · · events _)
  | returned standing left =>
    exact held.keep (keeps_returned standing).clients (placed_append · · events _)
  | timeout standing armed =>
    exact held.keep (keeps_timeout standing).clients (placed_append · · events _)
  | transport other moved =>
    exact held.keep (keeps_transportStep moved).clients (placed_append · · events _)
  | close standing bound moved =>
    exact held.keep (keeps_transportStep moved).clients (placed_append · · events _)
  | @closed closing request standing socket =>
    intro connectionId index found
    have before := clients_fewer (sidKey request.sid) connectionId index found
    rw [placed_append, Bool.and_eq_true, decide_eq_true_eq]
    refine ⟨held connectionId index before, ?_⟩
    -- its own socket was under its own id, which the table holds no more
    rintro rfl
    obtain ⟨other, stands, rfl, -⟩ := agreed.table connectionId closing before
    obtain rfl : request = other := Option.some.inj (standing.symm.trans stands)
    have key : sidKey request.sid = request.connectionId := by
      rw [agreed.sockets closing request standing socket]
      rfl
    simp [key] at found
  | disconnected other connected =>
    intro connectionId index found
    have before := clients_fewer other connectionId index found
    rw [placed_append, Bool.and_eq_true, decide_eq_true_eq]
    refine ⟨held connectionId index before, ?_⟩
    rintro rfl
    simp at found

end Runs

/-- The events of a connection find a socket: that of its own connect request, which stands,
for a connection that was neither cleaned up nor left. -/
def Findable (codec : Codec) (events : List SessionEvent) (connectionId : Text) (index : Nat) :
    Prop :=
  (∃ opening, (connects events)[index]? = some (connectionId, opening)) ∧
    placed index connectionId events = true ∧
    .cleanup connectionId ∉ sessionCalls codec events ∧ ¬Departed events connectionId

/-- The sockets and the tables at the end of a run, and the user events in it. -/
structure SessionIds (codec : Codec) (events : List SessionEvent) (outputs : List SessionOutput)
    (state : State) : Prop where
  /-- No candidate is left. -/
  queue : state.candidateSids = []
  /-- The handshake of a request that asked for an id got its connection id. -/
  generated : ∀ (index : Nat) (connectionId : Text) (opening : Opening),
    (connects events)[index]? = some (connectionId, opening) →
    ∃ request : Request, state.requests[index]? = some request ∧
      request.connectionId = connectionId ∧
      request.sid = if opening.generates then some connectionId else none
  /-- No two sockets share an id. -/
  unique : ∀ (index other : Nat) (first second : Request),
    state.requests[index]? = some first → state.requests[other]? = some second →
    first.transport.isSome = true → second.transport.isSome = true →
    first.sid = second.sid → index = other
  /-- The table of sockets has the standing sockets, each under the id of its connection. -/
  sockets : ∀ (connectionId : Text) (index : Nat), state.clients connectionId = some index ↔
    (∃ opening, (connects events)[index]? = some (connectionId, opening)) ∧
      placed index connectionId events = true
  /-- The table of the manager has the connections that were neither cleaned up nor left. -/
  connections : ∀ (connectionId : Text) (index : Nat),
    state.clientConnections connectionId = some index ↔
      (∃ opening, (connects events)[index]? = some (connectionId, opening)) ∧
        .cleanup connectionId ∉ sessionCalls codec events ∧ ¬Departed events connectionId
  /-- So a user event goes to the socket of its connection, exactly as long as it can. -/
  finds : ∀ (connectionId : Text) (index : Nat),
    state.userEvent connectionId = .delivered connectionId index ↔
      Findable codec events connectionId index
  /-- And every one that went to a socket went to this one. -/
  delivered : ∀ (connectionId : Text) (index : Nat),
    .delivered connectionId index ∈ outputs →
    ∃ opening, (connects events)[index]? = some (connectionId, opening)

/-- A user event finds what both tables have. -/
theorem userEvent_delivered_iff (state : State) (connectionId : Text) (index : Nat) :
    state.userEvent connectionId = .delivered connectionId index ↔
      (∃ listed, state.clientConnections connectionId = some listed) ∧
        state.clients connectionId = some index := by
  unfold State.userEvent
  split
  · rename_i unlisted
    simp [unlisted]
  · rename_i listed standing
    simp [listed, standing]
  · rename_i listed absent
    simp [absent]

/-- What runs keep. -/
structure SessionRun (codec : Codec) (events : List SessionEvent) (outputs : List SessionOutput)
    (state : State) : Prop where
  agreed : Agreed (connects events) state
  placed : Placed events state
  only : OnlyPlaced events state
  listed : Listed codec events state
  delivered : ∀ (connectionId : Text) (index : Nat), .delivered connectionId index ∈ outputs →
    ∃ opening, (connects events)[index]? = some (connectionId, opening)

theorem session_run (codec : Codec) {events : List SessionEvent} {state : State}
    {outputs : List SessionOutput}
    (ran : (sessions codec).run State.initial events = some (state, outputs)) :
    SessionRun codec events outputs state := by
  refine (sessions codec).run_induction (SessionRun codec) ?_ ?_ ran
  · refine ⟨initial_agreed, ⟨?_, ?_⟩, ?_, listed_initial, ?_⟩
    · intro index connectionId there
      cases there
    · intro _ index request standing
      cases standing
    · intro connectionId index found
      cases found
    · intro connectionId index given
      cases given
  · intro before given state event next added began held stepped
    obtain ⟨agreed, placed, only, listed, delivered⟩ := held
    have later (connectionId : Text) (index : Nat) (opening : Opening)
        (listed : (connects before)[index]? = some (connectionId, opening)) :
        (connects (before ++ [event]))[index]? = some (connectionId, opening) := by
      rw [connects_append]
      exact Ledger.getElem?_append_of_some listed _
    cases event with
    | manager event =>
      obtain ⟨⟨after, raw⟩, moved, result⟩ := Option.map_eq_some_iff.mp stepped
      obtain ⟨rfl, rfl⟩ := Prod.mk.inj result
      constructor
      case agreed =>
        rw [connects_append]
        exact agreed_step agreed moved
      case placed => exact placed_step agreed placed moved
      case only => exact only.manager agreed moved
      case listed => exact listed.manager agreed began moved
      case delivered =>
        intro connectionId index found
        cases List.mem_append.mp found with
        | inl old =>
          obtain ⟨opening, listed⟩ := delivered connectionId index old
          exact ⟨opening, later _ _ _ listed⟩
        | inr fresh =>
          obtain ⟨output, -, same⟩ := List.mem_map.mp fresh
          cases same
    | userEvent name =>
      obtain ⟨rfl, rfl⟩ := Prod.mk.inj (Option.some.inj stepped)
      have none : connects [.userEvent name] = [] := rfl
      constructor
      case agreed =>
        rw [connects_append, none, List.append_nil]
        exact agreed
      case placed => exact placed.keep (Keeps.refl state) (placed_append · · before _) none
      case only => exact only.keep rfl (placed_append · · before _)
      case listed => exact listed.userEvent began name
      case delivered =>
        intro connectionId index found
        rw [connects_append, none, List.append_nil]
        cases List.mem_append.mp found with
        | inl old => exact delivered connectionId index old
        | inr fresh =>
          have given := List.mem_singleton.mp fresh
          unfold State.userEvent at given
          split at given
          · cases given
          · rename_i held
            cases given
            obtain ⟨request, standing, rfl, -⟩ := agreed.table _ _ held
            exact agreed.made standing
          · cases given

/-- Two handshakes at once, a third that is refused, and a timeout among their events. -/
def crossedSessions : List SessionEvent :=
  [.manager (.connect "a".toList .generated), .manager (.connect "b".toList (.refused none)),
    .manager (.connect "c".toList .generated), .manager (.construct 2 "{}".toList),
    .manager (.construct 0 "{}".toList), .userEvent "c".toList, .manager (.timeout 0),
    .manager (.returned 1), .manager (.returned 2), .userEvent "b".toList]

/-- The request times out before its socket is made. -/
def lateSocket : List SessionEvent :=
  [.manager (.connect "a".toList .generated), .manager (.timeout 0),
    .manager (.construct 0 "{}".toList), .userEvent "a".toList]

end WebPubSub.Connect
