import WebPubSub.Library.Ledger
import WebPubSub.Library.Machine
import WebPubSub.Connect.Manager

/-!
# The ids of the sockets

The id of a connection goes to the handshake through the queue `_candidateSids`, and the
events of the connection find their socket through the tables of the manager and of
engine.io. This is the manager with its user events: `handleUserEvent` looks the socket up
and emits the packets on its transport. The part of a connect request up to the call of
`generateId` is one step, so the queue is seen only between such parts.

The queue is empty between two steps. A candidate is therefore taken by the handshake it
was put there for, and every cleanup finds nothing that belongs to another request.
-/

namespace WebPubSub.Connect

open Transport (Output)

/-- What happens around the manager, with its user events. -/
inductive SessionEvent where
  | manager (event : Event)
  | userEvent (connectionId : Text)

/-- What the manager and its user events do. -/
inductive SessionOutput where
  | transport (index : Nat) (output : Output)
  /-- The packets of a user event go to the socket of a request. -/
  | delivered (connectionId : Text) (index : Nat)
  /-- The manager has no such connection. -/
  | unknown (connectionId : Text)
  /-- `onUserEvent` throws for want of a socket. -/
  | failed (connectionId : Text)

/-- `handleUserEvent`. -/
def State.userEvent (state : State) (connectionId : Text) : SessionOutput :=
  match state.clientConnections connectionId, state.clients connectionId with
  | none, _ => .unknown connectionId
  | some _, some index => .delivered connectionId index
  | some _, none => .failed connectionId

/-- The manager of one server, with its user events. -/
def sessions (codec : Codec) : Machine State SessionEvent SessionOutput where
  step state
    | .manager event => (step codec state event).map (fun result =>
        (result.1, result.2.map (fun output => .transport output.1 output.2)))
    | .userEvent connectionId => some (state, [state.userEvent connectionId])

/-- The connect requests of a run. -/
def connects (events : List SessionEvent) : List (Text × Opening) :=
  events.filterMap (fun
    | .manager (.connect connectionId opening) => some (connectionId, opening)
    | _ => none)

/-- The handshake asks for an id. -/
def Opening.generates : Opening → Bool
  | .generated => true
  | _ => false

/-! ## What a step keeps -/

/-- What never changes of a request that has a socket or none. -/
def Request.identity (request : Request) : Text × Option Text × Bool :=
  (request.connectionId, request.sid, request.transport.isSome)

/-- The requests are the same but for their answers and timers, no handshake begins, the
table of sockets is left alone, and an empty queue stays empty. -/
structure Keeps (state next : State) : Prop where
  queue : state.candidateSids = [] → next.candidateSids = []
  clients : next.clients = state.clients
  identities : next.requests.map Request.identity = state.requests.map Request.identity
  handshaking : ∀ (index : Nat) (request : Request), next.requests[index]? = some request →
    request.handling = .handshaking →
      ∃ before : Request, state.requests[index]? = some before ∧ before.handling = .handshaking

theorem Keeps.refl (state : State) : Keeps state state := by
  constructor
  · exact id
  · rfl
  · rfl
  · intro index request standing handshaking
    exact ⟨request, standing, handshaking⟩

theorem Keeps.trans {state middle next : State} (first : Keeps state middle)
    (second : Keeps middle next) : Keeps state next := by
  constructor
  · intro empty
    exact second.queue (first.queue empty)
  · rw [second.clients, first.clients]
  · rw [second.identities, first.identities]
  · intro index request standing handshaking
    obtain ⟨before, held, waited⟩ := second.handshaking index request standing handshaking
    exact first.handshaking index before held waited

section Keeps

variable {state : State} {index : Nat} {request : Request}

/-- Replacing a request by one with the same identity. -/
theorem keeps_put (standing : state.requests[index]? = some request) {changed : Request}
    (same : changed.identity = request.identity)
    (waits : changed.handling = .handshaking → request.handling = .handshaking) :
    Keeps state (state.put index changed) := by
  constructor
  · exact id
  · rfl
  · apply List.ext_getElem?
    intro other
    simp only [State.put, List.getElem?_map, List.getElem?_set]
    split
    · rename_i here
      subst here
      split
      · rw [standing, Option.map_some, Option.map_some, same]
      · rename_i outside
        exact absurd (List.getElem?_eq_some_iff.mp standing).1 outside
    · rfl
  · intro other result found handshaking
    simp only [State.put, List.getElem?_set] at found
    split at found
    · rename_i here
      subst here
      split at found
      · cases found
        exact ⟨request, standing, waits handshaking⟩
      · cases found
    · exact ⟨result, found, handshaking⟩

/-- The cleanup of a request finds an empty queue empty. -/
theorem keeps_cleanup (connectionId : Text) : Keeps state (state.cleanup connectionId) := by
  constructor
  · intro empty
    simp [State.cleanup, empty]
  · rfl
  · rfl
  · intro other result found handshaking
    exact ⟨result, found, handshaking⟩

/-- So does replacing a request after a cleanup. -/
theorem keeps_cleanup_put (standing : state.requests[index]? = some request) {changed : Request}
    (connectionId : Text) (same : changed.identity = request.identity)
    (waits : changed.handling = .handshaking → request.handling = .handshaking) :
    Keeps state ((state.cleanup connectionId).put index changed) := by
  have stands : (state.cleanup connectionId).requests[index]? = some request := standing
  exact (keeps_cleanup connectionId).trans (keeps_put stands same waits)

theorem keeps_catchError (standing : state.requests[index]? = some request) {other : Request}
    (same : other.identity = request.identity) (error : Text) :
    Keeps state (state.catchError index other error) := by
  apply keeps_cleanup_put standing
  · exact same
  · intro handshaking
    cases handshaking

theorem keeps_onAccept (standing : state.requests[index]? = some request) (payload : Text) :
    Keeps state (state.onAccept index request payload) :=
  keeps_put standing rfl id

theorem keeps_onRefuse (standing : state.requests[index]? = some request) {other : Request}
    (same : other.identity = request.identity)
    (waits : other.handling = .handshaking → request.handling = .handshaking)
    (message : Option Text) : Keeps state (state.onRefuse index other message) :=
  keeps_cleanup_put standing other.connectionId same waits

theorem keeps_receive (state : State) (output : Output) :
    Keeps state (State.receive index state output) := by
  unfold State.receive
  split
  · rename_i standing
    exact keeps_onAccept standing _
  · rename_i standing
    exact keeps_onRefuse standing rfl id _
  · exact Keeps.refl state

theorem keeps_receiveAll (state : State) (outputs : List Output) :
    Keeps state (outputs.foldl (State.receive index) state) := by
  induction outputs generalizing state with
  | nil => exact Keeps.refl state
  | cons output outputs inductionHypothesis =>
    exact (keeps_receive state output).trans (inductionHypothesis _)

theorem keeps_transportStep {codec : Codec} {event : Transport.Event} {next : State}
    {outputs : List (Nat × Output)}
    (stepped : state.transportStep codec index event = some (next, outputs)) :
    Keeps state next := by
  obtain ⟨request, transport, moved, given, standing, owned, -, rfl, -⟩ :=
    transportStep_taken stepped
  have put : Keeps state (state.put index { request with transport := some moved }) := by
    apply keeps_put standing
    · simp [Request.identity, owned]
    · exact id
  exact put.trans (keeps_receiveAll _ _)

theorem keeps_returned (standing : state.requests[index]? = some request) :
    Keeps state (state.returned index request) := by
  unfold State.returned
  split
  · apply keeps_put standing
    · rfl
    · intro handshaking
      cases handshaking
  · exact keeps_catchError standing rfl _

theorem keeps_timeout (standing : state.requests[index]? = some request) :
    Keeps state (state.timeout index request) := by
  unfold State.timeout
  split
  · exact keeps_put standing rfl id
  · exact keeps_cleanup_put standing request.connectionId rfl id

/-- A request stands where it stood, with the same identity. -/
theorem Keeps.standing {next : State} (keeps : Keeps state next)
    (standing : state.requests[index]? = some request) :
    ∃ after : Request, next.requests[index]? = some after ∧ after.identity = request.identity := by
  have same := congrArg (fun identities => identities[index]?) keeps.identities
  simp only [List.getElem?_map, standing, Option.map_some] at same
  exact Option.map_eq_some_iff.mp same

theorem Keeps.stood {next : State} (keeps : Keeps state next)
    (standing : next.requests[index]? = some request) :
    ∃ before : Request, state.requests[index]? = some before ∧
      before.identity = request.identity := by
  have same := congrArg (fun identities => identities[index]?) keeps.identities
  simp only [List.getElem?_map, standing, Option.map_some] at same
  exact Option.map_eq_some_iff.mp same.symm

end Keeps

/-! ## Which socket has which id -/

/-- The sockets have the ids of their connections, and so has the table of sockets. -/
structure Agreed (requested : List (Text × Opening)) (state : State) : Prop where
  queue : state.candidateSids = []
  counted : state.requests.length = requested.length
  opened : ∀ (index : Nat) (connectionId : Text) (opening : Opening),
    requested[index]? = some (connectionId, opening) →
    ∃ request : Request, state.requests[index]? = some request ∧
      request.connectionId = connectionId ∧
      request.sid = if opening.generates then some connectionId else none
  waiting : ∀ (index : Nat) (request : Request), state.requests[index]? = some request →
    request.handling = .handshaking → request.sid = some request.connectionId
  sockets : ∀ (index : Nat) (request : Request), state.requests[index]? = some request →
    request.transport.isSome = true → request.sid = some request.connectionId
  table : ∀ key index, state.clients key = some index →
    ∃ request : Request, state.requests[index]? = some request ∧ request.connectionId = key ∧
      request.transport.isSome = true

theorem initial_agreed : Agreed [] State.initial := by
  constructor
  · rfl
  · rfl
  · intro index connectionId opening found
    cases found
  · intro index request standing
    cases standing
  · intro index request standing
    cases standing
  · intro key index found
    cases found

section Agreed

variable {requested : List (Text × Opening)} {state next : State} {index : Nat} {request : Request}

/-- What keeps the requests keeps the agreement. -/
theorem Agreed.keep (agreed : Agreed requested state) (keeps : Keeps state next) :
    Agreed requested next := by
  have parts {first second : Request} (same : first.identity = second.identity) :
      first.connectionId = second.connectionId ∧ first.sid = second.sid ∧
        first.transport.isSome = second.transport.isSome := by
    simpa [Request.identity] using same
  constructor
  · exact keeps.queue agreed.queue
  · have lengths := congrArg List.length keeps.identities
    rw [List.length_map, List.length_map] at lengths
    rw [lengths, agreed.counted]
  · intro index connectionId opening found
    obtain ⟨request, standing, named, sid⟩ := agreed.opened index connectionId opening found
    obtain ⟨after, stands, same⟩ := keeps.standing standing
    obtain ⟨sameId, sameSid, -⟩ := parts same
    exact ⟨after, stands, sameId.trans named, sameSid.trans sid⟩
  · intro index request standing handshaking
    obtain ⟨before, stood, same⟩ := keeps.stood standing
    obtain ⟨other, held, waited⟩ := keeps.handshaking index request standing handshaking
    obtain rfl : before = other := Option.some.inj (stood.symm.trans held)
    obtain ⟨sameId, sameSid, -⟩ := parts same
    rw [← sameId, ← sameSid]
    exact agreed.waiting index before stood waited
  · intro index request standing socket
    obtain ⟨before, stood, same⟩ := keeps.stood standing
    obtain ⟨sameId, sameSid, sameSocket⟩ := parts same
    rw [← sameId, ← sameSid]
    exact agreed.sockets index before stood (sameSocket.trans socket)
  · intro key index found
    rw [keeps.clients] at found
    obtain ⟨request, standing, named, socket⟩ := agreed.table key index found
    obtain ⟨after, stands, same⟩ := keeps.standing standing
    obtain ⟨sameId, -, sameSocket⟩ := parts same
    exact ⟨after, stands, sameId.trans named, sameSocket.trans socket⟩

/-- A table of sockets with fewer entries. -/
theorem Agreed.fewer (agreed : Agreed requested state) {clients : Text → Option Nat}
    {connections : Text → Option Nat}
    (fewer : ∀ key index, clients key = some index → state.clients key = some index) :
    Agreed requested { state with clients := clients, clientConnections := connections } := by
  obtain ⟨queue, counted, opened, waiting, sockets, table⟩ := agreed
  refine ⟨queue, counted, opened, waiting, sockets, ?_⟩
  intro key index found
  exact table key index (fewer key index found)

theorem clients_fewer (removed : Text) : ∀ key index,
    Function.update state.clients removed none key = some index →
      state.clients key = some index := by
  intro key index found
  by_cases same : key = removed
  · subst same
    rw [Function.update_self] at found
    cases found
  · rwa [Function.update_of_ne same] at found

/-- A connect request leaves the queue empty, and the handshake that asked for an id got
the id of its own request. -/
theorem connect_spec (empty : state.candidateSids = []) (connectionId : Text) (opening : Opening) :
    (state.connect connectionId opening).candidateSids = [] ∧
      (state.connect connectionId opening).clients = state.clients ∧
      ∃ request : Request, (state.connect connectionId opening).requests =
          state.requests ++ [request] ∧
        request.identity =
          (connectionId, if opening.generates then some connectionId else none, false) ∧
        (request.handling = .handshaking → opening.generates = true) := by
  cases opening with
  | invalid error =>
    refine ⟨?_, rfl, { Request.arrived connectionId with
      handling := .done, timer := .cleared, errors := [some (handlingError error)]
      answers := [.fail 500 (handlingError error)] }, ?_, rfl, ?_⟩
    · simp [State.connect, State.catchError, State.put, State.cleanup, empty]
    · simp [State.connect, State.catchError, State.put, State.cleanup, Request.arrived]
    · intro handshaking
      cases handshaking
  | refused message =>
    refine ⟨?_, rfl, { Request.arrived connectionId with
      handling := .refused, connectResponded := true, errors := [message]
      answers := [.fail 400 (refusalError (message.getD "undefined".toList))] }, ?_, rfl, ?_⟩
    · simp [State.connect, State.onRefuse, State.put, State.cleanup, empty, lastIndexOf,
        Request.arrived]
    · simp [State.connect, State.onRefuse, State.put, State.cleanup, Request.arrived]
    · intro handshaking
      cases handshaking
  | generated =>
    refine ⟨?_, rfl, { Request.arrived connectionId with sid := some connectionId }, ?_, rfl, ?_⟩
    · simp [State.connect, State.put, empty]
    · simp [State.connect, State.put, empty]
    · intro _
      rfl

theorem agreed_connect (agreed : Agreed requested state) (connectionId : Text) (opening : Opening) :
    Agreed (requested ++ [(connectionId, opening)]) (state.connect connectionId opening) := by
  obtain ⟨queue, clients, request, requests, identity, handshaking⟩ :=
    connect_spec agreed.queue connectionId opening
  obtain ⟨named, sid, noSocket⟩ : request.connectionId = connectionId ∧
      request.sid = (if opening.generates then some connectionId else none) ∧
      request.transport.isSome = false := by
    simpa [Request.identity] using identity
  constructor
  · exact queue
  · rw [requests, List.length_append, List.length_append, agreed.counted]
    rfl
  · intro index other opened found
    rw [requests]
    rcases Ledger.getElem?_concat_cases found with ⟨last, same⟩ | old
    · obtain ⟨rfl, rfl⟩ := Prod.mk.inj same
      refine ⟨request, ?_, named, sid⟩
      rw [last, ← agreed.counted]
      exact List.getElem?_concat_length
    · obtain ⟨held, standing, known⟩ := agreed.opened index other opened old
      exact ⟨held, Ledger.getElem?_append_of_some standing _, known⟩
  · intro index other standing waits
    rw [requests] at standing
    rcases Ledger.getElem?_concat_cases standing with ⟨-, rfl⟩ | old
    · rw [sid, if_pos (handshaking waits), named]
    · exact agreed.waiting index other old waits
  · intro index other standing socket
    rw [requests] at standing
    rcases Ledger.getElem?_concat_cases standing with ⟨-, rfl⟩ | old
    · rw [noSocket] at socket
      cases socket
    · exact agreed.sockets index other old socket
  · intro key index found
    rw [clients] at found
    rw [requests]
    obtain ⟨other, standing, known⟩ := agreed.table key index found
    exact ⟨other, Ledger.getElem?_append_of_some standing _, known⟩

/-- A request whose socket was constructed. -/
def Request.constructed (request : Request) (transport : Transport.State) : Request :=
  { request with handling := .constructed, transport := some transport }

/-- A socket is constructed under the id of its connection. -/
theorem agreed_construct (agreed : Agreed requested state)
    (standing : state.requests[index]? = some request)
    (handshaking : request.handling = .handshaking) (transport : Transport.State) :
    sidKey request.sid = request.connectionId ∧
      Agreed requested { state with
        requests := state.requests.set index (request.constructed transport)
        clients := Function.update state.clients (sidKey request.sid) (some index) } := by
  have sid : request.sid = some request.connectionId :=
    agreed.waiting index request standing handshaking
  have key : sidKey request.sid = request.connectionId := by
    rw [sid]
    rfl
  have here : (state.requests.set index (request.constructed transport))[index]? =
      some (request.constructed transport) := by
    simp [(List.getElem?_eq_some_iff.mp standing).1]
  have elsewhere {other : Nat} (apart : index ≠ other) :
      (state.requests.set index (request.constructed transport))[other]? =
        state.requests[other]? :=
    List.getElem?_set_ne apart
  refine ⟨key, ?_⟩
  constructor
  · exact agreed.queue
  · rw [List.length_set, agreed.counted]
  · intro other connectionId opening found
    obtain ⟨held, stands, named, given⟩ := agreed.opened other connectionId opening found
    by_cases same : index = other
    · subst same
      obtain rfl : request = held := Option.some.inj (standing.symm.trans stands)
      exact ⟨_, here, named, given⟩
    · exact ⟨held, (elsewhere same).trans stands, named, given⟩
  · intro other held found waits
    by_cases same : index = other
    · subst same
      obtain rfl := Option.some.inj (here.symm.trans found)
      cases waits
    · exact agreed.waiting other held ((elsewhere same).symm.trans found) waits
  · intro other held found socket
    by_cases same : index = other
    · subst same
      obtain rfl := Option.some.inj (here.symm.trans found)
      exact sid
    · exact agreed.sockets other held ((elsewhere same).symm.trans found) socket
  · intro name other found
    rw [key] at found
    change Function.update state.clients request.connectionId (some index) name = some other
      at found
    by_cases own : name = request.connectionId
    · subst own
      obtain rfl : index = other := by simpa using found
      exact ⟨_, here, rfl, rfl⟩
    · rw [Function.update_of_ne own] at found
      obtain ⟨held, stands, named, socket⟩ := agreed.table name other found
      have apart : index ≠ other := by
        rintro rfl
        obtain rfl : request = held := Option.some.inj (standing.symm.trans stands)
        exact own named.symm
      exact ⟨held, (elsewhere apart).trans stands, named, socket⟩

/-- The sockets that a step leaves in the table of sockets: all but the one that was closed
or whose connection is gone, and the one that was constructed. -/
theorem agreed_step {codec : Codec} {event : Event} {outputs : List (Nat × Output)}
    (agreed : Agreed requested state)
    (stepped : step codec state event = some (next, outputs)) :
    Agreed (requested ++ connects [.manager event]) next := by
  have keep (keeps : Keeps state next) (none : connects [.manager event] = []) :
      Agreed (requested ++ connects [.manager event]) next := by
    rw [none, List.append_nil]
    exact agreed.keep keeps
  cases step_taken stepped with
  | connect connectionId opening => exact agreed_connect agreed connectionId opening
  | refuse message standing handshaking =>
    apply keep _ rfl
    apply keeps_onRefuse standing
    · rfl
    · intro refused
      cases refused
  | @construct index _ handshake standing handshaking =>
    have none : connects [.manager (.construct index handshake)] = [] := rfl
    rw [none, List.append_nil]
    exact (agreed_construct agreed standing handshaking _).2
  | thrown error standing active => exact keep (keeps_catchError standing rfl error) rfl
  | returned standing left => exact keep (keeps_returned standing) rfl
  | timeout standing armed => exact keep (keeps_timeout standing) rfl
  | transport other moved => exact keep (keeps_transportStep moved) rfl
  | close standing bound moved => exact keep (keeps_transportStep moved) rfl
  | @closed index request standing socket =>
    have none : connects [.manager (.closed index)] = [] := rfl
    rw [none, List.append_nil]
    exact agreed.fewer (clients_fewer (sidKey request.sid))
  | disconnected connectionId connected =>
    have none : connects [.manager (.disconnected connectionId)] = [] := rfl
    rw [none, List.append_nil]
    exact agreed.fewer (clients_fewer connectionId)

end Agreed

/-! ## Runs -/

/-- The socket of a request was constructed, and since then it was not closed, nor its
connection disconnected. -/
def placed (index : Nat) (connectionId : Text) (events : List SessionEvent) : Bool :=
  events.foldl (fun placed event =>
    match event with
    | .manager (.construct other _) => placed || other = index
    | .manager (.closed other) => placed && other ≠ index
    | .manager (.disconnected other) => placed && other ≠ connectionId
    | _ => placed) false

theorem connects_append (first second : List SessionEvent) :
    connects (first ++ second) = connects first ++ connects second :=
  List.filterMap_append

theorem placed_append (index : Nat) (connectionId : Text) (events : List SessionEvent)
    (event : SessionEvent) :
    placed index connectionId (events ++ [event]) =
      match event with
      | .manager (.construct other _) => placed index connectionId events || other = index
      | .manager (.closed other) => placed index connectionId events && other ≠ index
      | .manager (.disconnected other) => placed index connectionId events && other ≠ connectionId
      | _ => placed index connectionId events := by
  rw [placed, List.foldl_append]
  rfl

section Placed

variable {requested : List (Text × Opening)} {state next : State} {index other : Nat}
  {request : Request}

/-- The request at a place was made with its connection id. -/
theorem Agreed.made (agreed : Agreed requested state)
    (standing : state.requests[index]? = some request) :
    ∃ opening, requested[index]? = some (request.connectionId, opening) := by
  have inside : index < requested.length := by
    rw [← agreed.counted]
    exact (List.getElem?_eq_some_iff.mp standing).1
  obtain ⟨⟨connectionId, opening⟩, listed⟩ :
      ∃ entry, requested[index]? = some entry := ⟨_, List.getElem?_eq_getElem inside⟩
  obtain ⟨held, stands, named, -⟩ := agreed.opened index connectionId opening listed
  obtain rfl : request = held := Option.some.inj (standing.symm.trans stands)
  exact ⟨opening, by rw [listed, named]⟩

/-- Requests with one connection id are one request. -/
theorem Agreed.same_request (agreed : Agreed requested state)
    (distinct : (requested.map Prod.fst).Nodup) {second : Request}
    (standing : state.requests[index]? = some request)
    (stands : state.requests[other]? = some second)
    (same : request.connectionId = second.connectionId) : index = other := by
  obtain ⟨opening, listed⟩ := agreed.made standing
  obtain ⟨opened, found⟩ := agreed.made stands
  have first : (requested.map Prod.fst)[index]? = some request.connectionId := by
    rw [List.getElem?_map, listed]
    rfl
  have last : (requested.map Prod.fst)[other]? = some request.connectionId := by
    rw [List.getElem?_map, found, same]
    rfl
  obtain ⟨inside, -⟩ := List.getElem?_eq_some_iff.mp first
  exact (List.getElem?_inj inside distinct).mp (first.trans last.symm)

/-- What the placed sockets of a run are to its last state. -/
structure Placed (events : List SessionEvent) (state : State) : Prop where
  exist : ∀ index connectionId, placed index connectionId events = true →
    index < state.requests.length
  found : ((connects events).map Prod.fst).Nodup → ∀ (index : Nat) (request : Request),
    state.requests[index]? = some request → placed index request.connectionId events = true →
      state.clients request.connectionId = some index

/-- Placed sockets stay where no table of sockets is changed. -/
theorem Placed.keep {events : List SessionEvent} {event : SessionEvent}
    (held : Placed events state) (keeps : Keeps state next)
    (same : ∀ index connectionId, placed index connectionId (events ++ [event]) =
      placed index connectionId events) (none : connects [event] = []) :
    Placed (events ++ [event]) next := by
  constructor
  · intro index connectionId there
    rw [same] at there
    have lengths := congrArg List.length keeps.identities
    rw [List.length_map, List.length_map] at lengths
    rw [lengths]
    exact held.exist index connectionId there
  · intro distinct index request standing there
    rw [same] at there
    rw [connects_append, none, List.append_nil] at distinct
    obtain ⟨before, stood, identity⟩ := keeps.stood standing
    have named : before.connectionId = request.connectionId := congrArg Prod.fst identity
    rw [keeps.clients, ← named]
    exact held.found distinct index before stood (by rw [named, there])

/-- A socket that is taken out of the table is no longer placed. -/
theorem Placed.remove {events : List SessionEvent} {event : SessionEvent}
    (held : Placed events state) {removed : Text} (unmade : connects [event] = [])
    (requests : next.requests = state.requests)
    (clients : next.clients = Function.update state.clients removed none)
    (placed_before : ∀ other connectionId, placed other connectionId (events ++ [event]) = true →
      placed other connectionId events = true)
    (apart : ((connects events).map Prod.fst).Nodup → ∀ (other : Nat) (socketed : Request),
      state.requests[other]? = some socketed →
        placed other socketed.connectionId (events ++ [event]) = true →
          socketed.connectionId ≠ removed) :
    Placed (events ++ [event]) next := by
  constructor
  · intro other connectionId there
    rw [requests]
    exact held.exist other connectionId (placed_before other connectionId there)
  · intro distinct other socketed stands there
    rw [connects_append, unmade, List.append_nil] at distinct
    rw [requests] at stands
    rw [clients, Function.update_of_ne (apart distinct other socketed stands there)]
    exact held.found distinct other socketed stands (placed_before other _ there)

/-- A request that is made has no socket yet. -/
theorem Placed.connect {events : List SessionEvent} (held : Placed events state)
    (empty : state.candidateSids = []) (connectionId : Text) (opening : Opening) :
    Placed (events ++ [.manager (.connect connectionId opening)])
      (state.connect connectionId opening) := by
  obtain ⟨-, clients, fresh, requests, -⟩ := connect_spec empty connectionId opening
  constructor
  · intro index name there
    rw [placed_append] at there
    have inside := held.exist index name there
    rw [requests, List.length_append]
    omega
  · intro distinct index request standing there
    rw [placed_append] at there
    rw [connects_append, List.map_append] at distinct
    have inside := held.exist index request.connectionId there
    rw [requests, List.getElem?_append_left inside] at standing
    rw [clients]
    exact held.found distinct.of_append_left index request standing there

/-- The socket of a handshake is placed under the id of its own request. -/
theorem Placed.construct {events : List SessionEvent} (held : Placed events state)
    (agreed : Agreed (connects events) state) (standing : state.requests[index]? = some request)
    (key : sidKey request.sid = request.connectionId) {changed : Request}
    (same : changed.connectionId = request.connectionId) (handshake : Text) :
    Placed (events ++ [.manager (.construct index handshake)]) { state.put index changed with
      clients := Function.update state.clients (sidKey request.sid) (some index) } := by
  have none : connects [.manager (.construct index handshake)] = [] := rfl
  have inside : index < state.requests.length := (List.getElem?_eq_some_iff.mp standing).1
  constructor
  · intro other name there
    rw [placed_append, Bool.or_eq_true, decide_eq_true_eq] at there
    simp only [State.put, List.length_set]
    cases there with
    | inl before => exact held.exist other name before
    | inr sameIndex => exact sameIndex ▸ inside
  · intro distinct other socketed stands there
    rw [connects_append, none, List.append_nil] at distinct
    rw [placed_append, Bool.or_eq_true, decide_eq_true_eq] at there
    simp only [State.put] at stands ⊢
    rw [key]
    rcases Ledger.getElem?_set_cases stands with ⟨rfl, rfl⟩ | ⟨different, old⟩
    · rw [same, Function.update_self]
    · have before := there.resolve_right (Ne.symm different)
      have apart : socketed.connectionId ≠ request.connectionId := by
        intro named
        exact different (agreed.same_request distinct standing old named.symm).symm
      rw [Function.update_of_ne apart]
      exact held.found distinct other socketed old before

/-- Every step keeps the placed sockets in the table. -/
theorem placed_step {codec : Codec} {events : List SessionEvent} {event : Event}
    {outputs : List (Nat × Output)} (agreed : Agreed (connects events) state)
    (held : Placed events state) (stepped : step codec state event = some (next, outputs)) :
    Placed (events ++ [.manager event]) next := by
  have same_of (plain : ∀ index connectionId,
      placed index connectionId (events ++ [.manager event]) = placed index connectionId events)
      (none : connects [.manager event] = []) (keeps : Keeps state next) :
      Placed (events ++ [.manager event]) next := held.keep keeps plain none
  cases step_taken stepped with
  | connect connectionId opening => exact held.connect agreed.queue connectionId opening
  | refuse message standing handshaking =>
    apply same_of (placed_append · · events _) rfl
    apply keeps_onRefuse standing
    · rfl
    · intro refused
      cases refused
  | @construct index request handshake standing handshaking =>
    have key : sidKey request.sid = request.connectionId :=
      (agreed_construct agreed standing handshaking (Transport.State.initial true)).1
    apply held.construct agreed standing key
    rfl
  | thrown error standing active =>
    exact same_of (placed_append · · events _) rfl (keeps_catchError standing rfl error)
  | returned standing left =>
    exact same_of (placed_append · · events _) rfl (keeps_returned standing)
  | timeout standing armed =>
    exact same_of (placed_append · · events _) rfl (keeps_timeout standing)
  | transport other moved =>
    exact same_of (placed_append · · events _) rfl (keeps_transportStep moved)
  | close standing bound moved =>
    exact same_of (placed_append · · events _) rfl (keeps_transportStep moved)
  | @closed index request standing socket =>
    have key : sidKey request.sid = request.connectionId := by
      rw [agreed.sockets index request standing socket]
      rfl
    apply held.remove
    · rfl
    · rfl
    · rfl
    · intro other name there
      rw [placed_append, Bool.and_eq_true] at there
      exact there.1
    · intro distinct other socketed stands there named
      rw [placed_append, Bool.and_eq_true, decide_eq_true_eq] at there
      rw [key] at named
      exact there.2 (agreed.same_request distinct standing stands named.symm)
  | disconnected connectionId connected =>
    apply held.remove
    · rfl
    · rfl
    · rfl
    · intro other name there
      rw [placed_append, Bool.and_eq_true] at there
      exact there.1
    · intro distinct other socketed stands there named
      rw [placed_append, Bool.and_eq_true, decide_eq_true_eq] at there
      exact there.2 named.symm

end Placed

end WebPubSub.Connect
