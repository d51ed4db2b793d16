import Mathlib.Logic.Function.Basic
import WebPubSub.Library.Machine
import WebPubSub.Tunnel.Invocation

/-!
# The tunnel connection

`TunnelConnection.ts` as a machine: the table of clients, the lock of consistent keys,
the acknowledgement map, the invocations with their bodies, and the deferred callbacks
in the order in which they were scheduled. A step runs without interruption up to the
next `await`.

A client is named by its place in the order of creation; its id is a fresh GUID. An
invocation is named by its place as well, and its ack id is that place plus one. The
service, the sockets and `WebPubSubClient` are outside: they start, fail, stop and
deliver messages at any time, and a stopped client never becomes unstopped. `Math.random`
is a sequence of rational numbers below one. Requests that the service sends through the
tunnel do not touch this state.
-/

namespace WebPubSub.Tunnel

/-- A value of `Math.random`. -/
structure Draw where
  num : Nat
  den : Nat
  below : num < den

/-- `Math.floor(Math.random() * length)`. -/
def Draw.index (draw : Draw) (length : Nat) : Nat := draw.num * length / draw.den

/-- Where the loop of `startConnectionAsync` stands. -/
inductive Starting where
  | attempting | delayed | ended
deriving DecidableEq, Repr

/-- A `WebPubSubTunnelClient` with the call of `startConnectionAsync` that created it.
A client that the service has ordered is retried forever. -/
structure Client where
  started : Bool
  stopped : Bool
  starting : Starting
  retriesForever : Bool
deriving DecidableEq, Repr

/-- The fields of a connection. -/
structure State where
  clients : List Client
  /-- The keys of the map `clients`. -/
  table : List Nat
  stopped : Bool
  keyMapping : Text → Option (Nat × Nat)
  /-- The invocations that have an entry in `_ackMap`. -/
  ackMap : List Nat
  invocations : List Invocation
  deferred : List (Nat × Callback)
  /-- The Reconnect messages whose client was stopped and whose start is due. -/
  reconnecting : Nat
  /-- The exceptions that left a deferred callback. -/
  uncaught : Nat

/-- A connection as its constructor leaves it. -/
def State.initial : State := ⟨[], [], false, fun _ => none, [], [], [], 0, 0⟩

/-- A message of the service. -/
inductive Message where
  | httpResponse (response : HttpResponse)
  | connectionReconnect
  | connectionClose
  | connectionRebalance
  | other

/-- What happens to a connection. -/
inductive Event where
  /-- `runAsync`. -/
  | run
  /-- `startAsync` of a client fulfils. -/
  | started (client : Nat)
  /-- `startAsync` of a client rejects, and `shouldRetry` answers. -/
  | startFailed (client : Nat) (retry : Bool)
  /-- The delay before another attempt is over. -/
  | retried (client : Nat)
  /-- A client emits `stop`. -/
  | clientStopped (client : Nat)
  /-- A message arrives on a client. -/
  | message (client : Nat) (message : Message)
  /-- A Reconnect goes on after it has stopped its client. -/
  | reconnected
  /-- `stop` of the connection. -/
  | stop
  /-- `invokeAsync`, up to the call of `sendAsync`. -/
  | invoke (key : Option Text) (abortable : Bool) (draws : Nat → Draw)
  /-- `sendAsync` of an invocation fulfils. -/
  | sent (call : Nat)
  /-- `sendAsync` of an invocation rejects. -/
  | sendFailed (call : Nat)
  /-- The abort signal of an invocation fires. -/
  | abort (call : Nat)
  /-- The deferred callback that was scheduled first runs. -/
  | tick
  /-- The consumer of a body calls `next`. -/
  | ask (call : Nat)
  /-- A `next` that was resolved goes on. -/
  | wake (call : Nat)

/-- What a connection does to its surroundings. -/
inductive Output where
  /-- `sendAsync` is called for an invocation. -/
  | handed (client call : Nat)
  /-- `invokeAsync` throws for want of a client. -/
  | unavailable
deriving DecidableEq, Repr

namespace State

/-- Whether a client is stopped. -/
def isStopped (state : State) (client : Nat) : Bool :=
  ((state.clients[client]?).map Client.stopped).getD false

/-- Whether a client was started and is not stopped. -/
def isUsable (state : State) (client : Nat) : Bool :=
  ((state.clients[client]?).map (fun client => client.started && !client.stopped)).getD false

/-- Replace the record of a client. -/
def putClient (state : State) (client : Nat) (record : Client) : State :=
  { state with clients := state.clients.set client record }

/-- Replace the record of an invocation. -/
def put (state : State) (call : Nat) (invocation : Invocation) : State :=
  { state with invocations := state.invocations.set call invocation }

/-- `stopConnection`. -/
def stopConnection (state : State) (client : Nat) : State :=
  if client ∈ state.table then
    { state with clients := state.clients.modify client (fun record =>
        { record with stopped := true }) }
  else state

/-- `startConnectionAsync`, up to the first `startAsync`. It throws after `stop`. -/
def startConnection (state : State) (retriesForever : Bool) : State :=
  if state.stopped then state
  else { state with
    clients := state.clients ++ [⟨false, false, .attempting, retriesForever⟩]
    table := state.table ++ [state.clients.length] }

/-- `tryEndLife`. -/
def tryEndLife (state : State) (client : Nat) : State :=
  if state.isStopped client then { state with table := state.table.filter (· ≠ client) } else state

/-- `getRandomKey`. -/
def getRandomKey (state : State) (draw : Draw) : Option Nat :=
  state.table[draw.index state.table.length]?

/-- The loop of `getRandomClient`, from attempt `i` on with some attempts left after it. -/
def getRandomClientFrom (state : State) (draws : Nat → Draw) (i : Nat) : Nat → Option Nat
  | 0 => state.getRandomKey (draws i)
  | left + 1 =>
    match state.getRandomKey (draws i) with
    | none => none
    | some client =>
      if state.isStopped client then getRandomClientFrom state draws (i + 1) left
      else some client

/-- `getRandomClient`, which makes six attempts at most. -/
def getRandomClient (state : State) (draws : Nat → Draw) : Option Nat :=
  getRandomClientFrom state draws 0 5

/-- The client that `getClient` returns. -/
def getClient (state : State) (key : Option Text) (draws : Nat → Draw) : Option Nat :=
  match key.bind state.keyMapping with
  | some (_, client) => some client
  | none => state.getRandomClient draws

/-- The mapping after `getClient`: a mapping to a stopped client is deleted, though that
client is returned. -/
def afterGetClient (state : State) (key : Option Text) : State :=
  match key with
  | none => state
  | some key =>
    match state.keyMapping key with
    | some (_, client) =>
      if state.isStopped client then
        { state with keyMapping := Function.update state.keyMapping key none }
      else state
    | none => state

/-- `lockClient`, when there is a key. -/
def lockClient (state : State) (key : Option Text) (client : Nat) : State :=
  match key with
  | none => state
  | some key =>
    let count := match state.keyMapping key with
      | some (count, _) => count + 1
      | none => 1
    { state with keyMapping := Function.update state.keyMapping key (some (count, client)) }

/-- `releaseClient`, when there is a key. -/
def releaseClient (state : State) (key : Option Text) (client : Nat) : State :=
  match key with
  | none => state
  | some key =>
    match state.keyMapping key with
    | none => state
    | some (count, locked) =>
      if locked ≠ client then state
      else if count - 1 = 0 then
        { state with keyMapping := Function.update state.keyMapping key none }
      else
        { state with keyMapping := Function.update state.keyMapping key (some (count - 1, locked)) }

/-- A response is written to its entity, which defers the callback; the last one also
removes the entry. -/
def receive (state : State) (response : HttpResponse) : State :=
  match response.ackId with
  | 0 => state
  | call + 1 =>
    if call ∈ state.ackMap then
      { state with
        deferred := state.deferred ++ [(call, .ofResponse response)]
        ackMap := if response.notCompleted then state.ackMap
          else state.ackMap.filter (· ≠ call) }
    else state

/-- `processMessage`, up to its first `await`. -/
def processMessage (state : State) (client : Nat) : Message → State
  | .httpResponse response => state.receive response
  | .connectionReconnect =>
    { state.stopConnection client with reconnecting := state.reconnecting + 1 }
  | .connectionClose => state.stopConnection client
  | .connectionRebalance => state.startConnection true
  | .other => state

/-- `invokeAsync` once it has a client, up to the call of `sendAsync`. -/
def hand (state : State) (key : Option Text) (abortable : Bool) (client : Nat) : State :=
  { state with
    ackMap := state.ackMap ++ [state.invocations.length]
    invocations := state.invocations ++ [Invocation.handed key client abortable] }.lockClient
      key client

/-- `invokeAsync`, up to the call of `sendAsync`. An empty key counts as none. -/
def invoke (state : State) (key : Option Text) (abortable : Bool) (draws : Nat → Draw) :
    State × List Output :=
  let key := key.filter (· ≠ [])
  match state.getClient key draws with
  | none => (state.afterGetClient key, [.unavailable])
  | some client => ((state.afterGetClient key).hand key abortable client,
      [.handed client state.invocations.length])

/-- The catch block of `invokeAsync`. -/
def sendFailed (state : State) (call : Nat) (invocation : Invocation) : State :=
  { state.put call { invocation with sending := .failed } with
    ackMap := state.ackMap.filter (· ≠ call) }.releaseClient invocation.key invocation.client

/-- A deferred callback runs. -/
def tick (state : State) (call : Nat) (callback : Callback) (rest : List (Nat × Callback))
    (invocation : Invocation) : State :=
  let (read, threw) := invocation.reader callback
  let next := { state.put call read with
    deferred := rest, uncaught := state.uncaught + if threw then 1 else 0 }
  if invocation.releases callback then next.releaseClient invocation.key invocation.client
  else next

/-- `stop`. -/
def stop (state : State) : State :=
  if state.stopped then state
  else state.table.foldl stopConnection { state with stopped := true }

end State

/-- One event. An event that does not fit the state is refused. -/
def step (state : State) : Event → Option (State × List Output)
  | .run => some ({ state with stopped := false }.startConnection false, [])
  | .started client => do
    let record ← state.clients[client]?
    guard (record.starting = .attempting)
    pure (state.putClient client { record with started := true, starting := .ended }, [])
  | .startFailed client retry => do
    let record ← state.clients[client]?
    guard (record.starting = .attempting ∧ (record.retriesForever = true → retry = true))
    pure (state.putClient client { record with
      starting := if retry then .delayed else .ended }, [])
  | .retried client => do
    let record ← state.clients[client]?
    guard (record.starting = .delayed)
    pure (state.putClient client { record with
      starting := if state.stopped then .ended else .attempting }, [])
  | .clientStopped client => do
    let record ← state.clients[client]?
    pure ((state.putClient client { record with stopped := true }).tryEndLife client, [])
  | .message client message => do
    let _ ← state.clients[client]?
    pure (state.processMessage client message, [])
  | .reconnected => do
    guard (0 < state.reconnecting)
    pure ({ state with reconnecting := state.reconnecting - 1 }.startConnection true, [])
  | .stop => some (state.stop, [])
  | .invoke key abortable draws => some (state.invoke key abortable draws)
  | .sent call => do
    let invocation ← state.invocations[call]?
    guard (invocation.sending = .pending)
    pure (state.put call { invocation with sending := .sent }, [])
  | .sendFailed call => do
    let invocation ← state.invocations[call]?
    guard (invocation.sending = .pending)
    pure (state.sendFailed call invocation, [])
  | .abort call => do
    let invocation ← state.invocations[call]?
    guard (invocation.signal = .waiting)
    pure ({ state.put call { invocation with signal := .aborted } with
      deferred := state.deferred ++ [(call, .aborted)] }, [])
  | .tick =>
    match state.deferred with
    | [] => none
    | (call, callback) :: rest => do
      let invocation ← state.invocations[call]?
      pure (state.tick call callback rest invocation, [])
  | .ask call => do
    let invocation ← state.invocations[call]?
    guard (invocation.hasBody = true)
    let body ← invocation.body.ask
    pure (state.put call { invocation with body := body }, [])
  | .wake call => do
    let invocation ← state.invocations[call]?
    let body ← invocation.body.wake
    pure (state.put call { invocation with body := body }, [])

/-- The machine of one connection. -/
def connection : Machine State Event Output := ⟨step⟩

end WebPubSub.Tunnel
