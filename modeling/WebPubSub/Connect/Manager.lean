import Mathlib.Logic.Function.Basic
import WebPubSub.Transport.Send

/-!
# Connect requests of the connection manager

`handleConnect` of `web-pubsub-connection-manager.ts` with the parts of
`EIO/index.ts` and `client-connection-context.ts` that it shares its tables and its
response handler with. A request is named by its place in the order of arrival.

The handshake of engine.io is outside the repository. It refuses through its
callback, before or after it has asked for an id; or it asks for an id, constructs a
socket whose transport sends the open packet, and returns; or it throws. Its `clients`
table is kept here because `onConnect` reads it. Timers fire when they like, and the
fields of a request that only describe the client are left out.
-/

namespace WebPubSub.Connect

open Transport (Output)

/-- A call of the connect response handler. -/
inductive Answer where
  | success (openPacketPayload : Text)
  | fail (code : Nat) (message : Text)
deriving DecidableEq, Repr

/-- The thirty-second timeout of a request. -/
inductive Timer where
  | armed | cleared | fired
deriving DecidableEq, Repr

/-- Where the handshake of a request stands. -/
inductive Handling where
  /-- An id has been asked for, and its promise is awaited. -/
  | handshaking
  /-- The callback has refused, and the handshake returns. -/
  | refused
  /-- The socket exists, and the handshake has not returned. -/
  | constructed
  /-- `handleConnect` has ended. -/
  | done
deriving DecidableEq, Repr

/-- A connect request with its context, its response handler and its socket. -/
structure Request where
  connectionId : Text
  handling : Handling
  /-- The id the handshake got, absent when none was a candidate. -/
  sid : Option Text
  connectResponded : Bool
  timer : Timer
  /-- The transport of the socket. -/
  transport : Option Transport.State
  /-- The request whose socket gave `context.transport`. -/
  contextTransport : Option Nat
  /-- The calls of the response handler. -/
  answers : List Answer
  /-- The contexts of the `connection_error` events. -/
  errors : List (Option Text)

/-- A request as it arrives. -/
def Request.arrived (connectionId : Text) : Request where
  connectionId := connectionId
  handling := .handshaking
  sid := none
  connectResponded := false
  timer := .armed
  transport := none
  contextTransport := none
  answers := []
  errors := []

/-- The manager's tables, engine.io's table of sockets, and all requests so far. Both
tables name a request by its place. -/
structure State where
  candidateSids : List Text
  clientConnections : Text → Option Nat
  clients : Text → Option Nat
  requests : List Request

/-- A manager as its constructor leaves it. -/
def State.initial : State := ⟨[], fun _ => none, fun _ => none, []⟩

/-- How the part of `handleConnect` before its first `await` ends. -/
inductive Opening where
  /-- `getEioHandshakeRequest` throws. -/
  | invalid (error : Text)
  /-- The handshake refuses without asking for an id. -/
  | refused (message : Option Text)
  /-- The handshake asks for an id. -/
  | generated

/-- What happens around the manager. -/
inductive Event where
  | connect (connectionId : Text) (opening : Opening)
  /-- The handshake refuses after it has got an id. -/
  | refuse (index : Nat) (message : Option Text)
  /-- The handshake constructs its socket, whose transport sends the open packet. -/
  | construct (index : Nat) (handshake : Text)
  /-- Handshake code throws. -/
  | thrown (index : Nat) (error : Text)
  /-- The handshake returns to `onConnect`. -/
  | returned (index : Nat)
  /-- The timeout fires. -/
  | timeout (index : Nat)
  /-- Something happens to the transport of the socket. -/
  | transport (index : Nat) (event : Transport.Event)
  /-- `ClientConnectionContext.close`. -/
  | close (index : Nat)
  /-- The socket emits `close`. -/
  | closed (index : Nat)
  /-- The service reports a disconnected client. -/
  | disconnected (connectionId : Text)

/-- The message of the catch block and of the timeout. -/
def handlingError (error : Text) : Text :=
  "EIO server cannot handle connect request with error: ".toList ++ error

/-- The message of a refusal. -/
def refusalError (errorMessage : Text) : Text :=
  "EIO server refused connection with error: ".toList ++ errorMessage

/-- The error of `this.clients[connectionId].transport` without such a client. -/
def missingClient : Text :=
  "TypeError: Cannot read properties of undefined (reading 'transport')".toList

/-- `lastIndexOf` of a JavaScript array. -/
def lastIndexOf (sid : Text) (sids : List Text) : Int :=
  if sid ∈ sids then (sids.length : Int) - 1 - sids.reverse.idxOf sid else -1

/-- The property name that an id stands for. -/
def sidKey (sid : Option Text) : Text := sid.getD "undefined".toList

namespace State

/-- Replace the record of a request. -/
def put (state : State) (index : Nat) (request : Request) : State :=
  { state with requests := state.requests.set index request }

/-- The tables after `cleanup`. -/
def cleanup (state : State) (connectionId : Text) : State :=
  { state with
    clientConnections := Function.update state.clientConnections connectionId none
    candidateSids :=
      if lastIndexOf connectionId state.candidateSids = (state.candidateSids.length : Int) - 1 then
        state.candidateSids.drop 1
      else state.candidateSids }

/-- The catch block of `handleConnect`. -/
def catchError (state : State) (index : Nat) (request : Request) (error : Text) : State :=
  let errorMessage := handlingError error
  (state.cleanup request.connectionId).put index { request with
    handling := .done
    timer := if request.timer = .fired then .fired else .cleared
    errors := request.errors ++ [some errorMessage]
    answers := request.answers ++ [.fail 500 errorMessage] }

/-- `onAcceptEioConnection`. -/
def onAccept (state : State) (index : Nat) (request : Request) (payload : Text) : State :=
  state.put index { request with
    answers := request.answers ++ [.success payload]
    connectResponded := true }

/-- `onRefuseEioConnection`, with `cleanup` as its callback. The handshake may give no
message, for its table of messages is not indexed by codes. -/
def onRefuse (state : State) (index : Nat) (request : Request) (errorMessage : Option Text) :
    State :=
  (state.cleanup request.connectionId).put index { request with
    answers := request.answers ++
      [.fail 400 (refusalError (errorMessage.getD "undefined".toList))]
    connectResponded := true
    errors := request.errors ++ [errorMessage] }

/-- One output of the transport of a request reaches the connection context. -/
def receive (index : Nat) (state : State) (output : Output) : State :=
  match state.requests[index]?, output with
  | some request, .accept payload => state.onAccept index request payload
  | some request, .refuse errorMessage => state.onRefuse index request (some errorMessage)
  | _, _ => state

/-- A step of the transport of a request. -/
def transportStep (codec : Codec) (state : State) (index : Nat) (event : Transport.Event) :
    Option (State × List (Nat × Output)) := do
  let request ← state.requests[index]?
  let transport ← request.transport
  let (next, outputs) ← Transport.step codec transport event
  let moved := state.put index { request with transport := some next }
  pure (outputs.foldl (receive index) moved, outputs.map (fun output => (index, output)))

/-- The part of `handleConnect` before its first `await`. -/
def connect (state : State) (connectionId : Text) (opening : Opening) : State :=
  let index := state.requests.length
  let request := Request.arrived connectionId
  let arrived := { state with requests := state.requests ++ [request] }
  let listed := { arrived with
    candidateSids := arrived.candidateSids ++ [connectionId]
    clientConnections := Function.update arrived.clientConnections connectionId (some index) }
  match opening with
  | .invalid error => arrived.catchError index request error
  | .refused message =>
    listed.onRefuse index { request with handling := .refused } message
  | .generated =>
    { listed with candidateSids := listed.candidateSids.drop 1 }.put index
      { request with sid := listed.candidateSids.head? }

/-- `onConnect` after the handshake has returned. -/
def returned (state : State) (index : Nat) (request : Request) : State :=
  match state.clients request.connectionId with
  | some client => state.put index { request with
      handling := .done, contextTransport := some client }
  | none => state.catchError index request missingClient

/-- The callback of the timeout. -/
def timeout (state : State) (index : Nat) (request : Request) : State :=
  if request.connectResponded then state.put index { request with timer := .fired }
  else
    let error := handlingError "Timeout 30000ms".toList
    (state.cleanup request.connectionId).put index { request with
      timer := .fired
      errors := request.errors ++ [some error]
      answers := request.answers ++ [.fail 500 error] }

end State

/-- One event. An event that does not fit the state is refused. -/
def step (codec : Codec) (state : State) : Event → Option (State × List (Nat × Output))
  | .connect connectionId opening => some (state.connect connectionId opening, [])
  | .refuse index message => do
    let request ← state.requests[index]?
    guard (request.handling = .handshaking)
    pure (state.onRefuse index { request with handling := .refused } message, [])
  | .construct index handshake => do
    let request ← state.requests[index]?
    guard (request.handling = .handshaking)
    let (transport, outputs) :=
      (Transport.State.initial true).start [⟨.open, .text handshake⟩]
    let constructed := state.put index { request with
      handling := .constructed, transport := some transport }
    pure ({ constructed with
      clients := Function.update constructed.clients (sidKey request.sid) (some index) },
      outputs.map (fun output => (index, output)))
  | .thrown index error => do
    let request ← state.requests[index]?
    guard (request.handling = .handshaking ∨ request.handling = .constructed)
    pure (state.catchError index request error, [])
  | .returned index => do
    let request ← state.requests[index]?
    guard (request.handling = .refused ∨ request.handling = .constructed)
    pure (state.returned index request, [])
  | .timeout index => do
    let request ← state.requests[index]?
    guard (request.timer = .armed)
    pure (state.timeout index request, [])
  | .transport index event =>
    if event = .close then none else state.transportStep codec index event
  | .close index => do
    let request ← state.requests[index]?
    let client ← request.contextTransport
    state.transportStep codec client .close
  | .closed index => do
    let request ← state.requests[index]?
    guard (request.transport.isSome = true)
    pure ({ state with clients := Function.update state.clients (sidKey request.sid) none }, [])
  | .disconnected connectionId => do
    let _ ← state.clientConnections connectionId
    pure ({ state with
      clientConnections := Function.update state.clientConnections connectionId none
      clients := Function.update state.clients connectionId none }, [])

/-- What a step does with its event, and with which request. -/
inductive Taken (codec : Codec) (state : State) : Event → State → List (Nat × Output) → Prop where
  | connect (connectionId : Text) (opening : Opening) :
      Taken codec state (.connect connectionId opening) (state.connect connectionId opening) []
  | refuse {index : Nat} {request : Request} (message : Option Text)
      (standing : state.requests[index]? = some request)
      (handshaking : request.handling = .handshaking) :
      Taken codec state (.refuse index message)
        (state.onRefuse index { request with handling := .refused } message) []
  | construct {index : Nat} {request : Request} (handshake : Text)
      (standing : state.requests[index]? = some request)
      (handshaking : request.handling = .handshaking) :
      Taken codec state (.construct index handshake)
        (let started := (Transport.State.initial true).start [⟨.open, .text handshake⟩]
        let constructed := state.put index { request with
          handling := .constructed, transport := some started.1 }
        { constructed with
          clients := Function.update constructed.clients (sidKey request.sid) (some index) })
        (((Transport.State.initial true).start [⟨.open, .text handshake⟩]).2.map
          (fun output => (index, output)))
  | thrown {index : Nat} {request : Request} (error : Text)
      (standing : state.requests[index]? = some request)
      (active : request.handling = .handshaking ∨ request.handling = .constructed) :
      Taken codec state (.thrown index error) (state.catchError index request error) []
  | returned {index : Nat} {request : Request}
      (standing : state.requests[index]? = some request)
      (left : request.handling = .refused ∨ request.handling = .constructed) :
      Taken codec state (.returned index) (state.returned index request) []
  | timeout {index : Nat} {request : Request}
      (standing : state.requests[index]? = some request) (armed : request.timer = .armed) :
      Taken codec state (.timeout index) (state.timeout index request) []
  | transport {index : Nat} {event : Transport.Event} {next : State}
      {outputs : List (Nat × Output)} (other : event ≠ .close)
      (moved : state.transportStep codec index event = some (next, outputs)) :
      Taken codec state (.transport index event) next outputs
  | close {index client : Nat} {request : Request} {next : State}
      {outputs : List (Nat × Output)} (standing : state.requests[index]? = some request)
      (bound : request.contextTransport = some client)
      (moved : state.transportStep codec client .close = some (next, outputs)) :
      Taken codec state (.close index) next outputs
  | closed {index : Nat} {request : Request}
      (standing : state.requests[index]? = some request)
      (socket : request.transport.isSome = true) :
      Taken codec state (.closed index)
        { state with clients := Function.update state.clients (sidKey request.sid) none } []
  | disconnected (connectionId : Text) {index : Nat}
      (connected : state.clientConnections connectionId = some index) :
      Taken codec state (.disconnected connectionId)
        { state with
          clientConnections := Function.update state.clientConnections connectionId none
          clients := Function.update state.clients connectionId none } []

/-- An event about a request that stands and fits it. -/
theorem guarded_eq_some {Result : Type} {found : Option Request} {fits : Request → Prop}
    [DecidablePred fits] {result : Request → Result} {taken : Result}
    (stepped : (do
      let request ← found
      guard (fits request)
      pure (result request)) = some taken) :
    ∃ request, found = some request ∧ fits request ∧ result request = taken := by
  simp only [Option.pure_def, Option.bind_eq_bind, Option.bind_eq_some_iff,
    Option.guard_eq_some', Option.some.injEq, exists_const] at stepped
  exact stepped

/-- Every step is one of these. -/
theorem step_taken {codec : Codec} {state next : State} {event : Event}
    {outputs : List (Nat × Output)} (stepped : step codec state event = some (next, outputs)) :
    Taken codec state event next outputs := by
  cases event with
  | connect connectionId opening =>
    obtain ⟨rfl, rfl⟩ := Prod.mk.inj (Option.some.inj stepped)
    exact .connect connectionId opening
  | refuse index message =>
    obtain ⟨request, standing, handshaking, same⟩ := guarded_eq_some stepped
    obtain ⟨rfl, rfl⟩ := Prod.mk.inj same
    exact .refuse message standing handshaking
  | construct index handshake =>
    obtain ⟨request, standing, handshaking, same⟩ := guarded_eq_some stepped
    obtain ⟨rfl, rfl⟩ := Prod.mk.inj same
    exact .construct handshake standing handshaking
  | thrown index error =>
    obtain ⟨request, standing, active, same⟩ := guarded_eq_some stepped
    obtain ⟨rfl, rfl⟩ := Prod.mk.inj same
    exact .thrown error standing active
  | returned index =>
    obtain ⟨request, standing, left, same⟩ := guarded_eq_some stepped
    obtain ⟨rfl, rfl⟩ := Prod.mk.inj same
    exact .returned standing left
  | timeout index =>
    obtain ⟨request, standing, armed, same⟩ := guarded_eq_some stepped
    obtain ⟨rfl, rfl⟩ := Prod.mk.inj same
    exact .timeout standing armed
  | transport index event =>
    obtain ⟨other, moved⟩ := Option.ite_none_left_eq_some.mp stepped
    exact .transport other moved
  | close index =>
    simp only [step, Option.bind_eq_bind, Option.bind_eq_some_iff] at stepped
    obtain ⟨request, standing, client, bound, moved⟩ := stepped
    exact .close standing bound moved
  | closed index =>
    obtain ⟨request, standing, socket, same⟩ := guarded_eq_some stepped
    obtain ⟨rfl, rfl⟩ := Prod.mk.inj same
    exact .closed standing socket
  | disconnected connectionId =>
    obtain ⟨index, connected, same⟩ := Option.bind_eq_some_iff.mp stepped
    obtain ⟨rfl, rfl⟩ := Prod.mk.inj (Option.some.inj same)
    exact .disconnected connectionId connected

/-- A step of a transport, with the request that owns it. -/
theorem transportStep_taken {codec : Codec} {state next : State} {index : Nat}
    {event : Transport.Event} {outputs : List (Nat × Output)}
    (stepped : state.transportStep codec index event = some (next, outputs)) :
    ∃ request transport moved given, state.requests[index]? = some request ∧
      request.transport = some transport ∧
      Transport.step codec transport event = some (moved, given) ∧
      next = given.foldl (State.receive index)
        (state.put index { request with transport := some moved }) ∧
      outputs = given.map (fun output => (index, output)) := by
  simp only [State.transportStep, Option.bind_eq_bind, Option.bind_eq_some_iff,
    Option.pure_def, Option.some.injEq, Prod.mk.injEq] at stepped
  obtain ⟨request, standing, transport, owned, ⟨moved, given⟩, taken, rfl, rfl⟩ := stepped
  exact ⟨request, transport, moved, given, standing, owned, taken, rfl, rfl⟩

/-- The connection manager of one server. -/
def manager (codec : Codec) : Machine State Event (Nat × Output) := ⟨step codec⟩

end WebPubSub.Connect
