import WebPubSub.Library.UrlSetters
import WebPubSub.Tunnel.Steps

/-!
# Where the clients of a connection connect to

`getUrl` and `startConnectionAsync` of `TunnelConnection.ts` and `getAccessTokenUrl` of
`WebPubSubTunnelClient.ts`. A client has the URL of the service, for which its token is signed,
and perhaps that of a reverse proxy, which it then connects to instead. The machine is that of
the connection with the addresses of its clients: `runAsync` creates a client with the reverse
proxy, and the orders of the service create clients without one.

A user name, a password and a fragment of an endpoint are left out, as the URLs here have none.
-/

namespace WebPubSub.Tunnel

/-- `ConnectionTarget`. -/
structure ConnectionTarget where
  endpoint : Text
  target : Option Text
  reverseProxyEndpoint : Option Text
deriving DecidableEq

/-- `AzureKeyCredential` or `TokenCredential`. -/
inductive Credential where
  | key (key : Text)
  | token
deriving DecidableEq

/-- What a `TunnelConnection` is created with, and its id. -/
structure Settings where
  id : Text
  endpoint : Text
  credential : Credential
  hub : Text
  reverseProxyEndpoint : Option Text

/-- The two URLs that `getUrl` returns. -/
structure ClientUrl where
  endpoint : Url
  reverseProxyEndpoint : Option Url
deriving DecidableEq

/-- An optional text that JavaScript takes for true. -/
def given (text : Option Text) : Option Text := text.filter (· ≠ [])

def appendPath (pathname append : Text) : Text :=
  if pathname.getLast? = some '/' then pathname ++ append else pathname ++ '/' :: append

/-- The protocol and the path that both URLs get. -/
def tunnelEndpoint (url : Url) : Url :=
  let url := url.setProtocol (if url.scheme = "http".toList then "ws".toList else "wss".toList)
  url.setPathname (appendPath url.pathname "server/tunnel".toList)

/-- The query of the service URL. -/
def addQuery (uriBuilder : Url) (hub : Text) (target : Option Text) : Url :=
  let hubQuery := "hub=".toList ++ Url.encodeURIComponent hub
  let uriBuilder :=
    if uriBuilder.search = [] then uriBuilder.setSearch ('?' :: hubQuery)
    else uriBuilder.setSearch (uriBuilder.search ++ '&' :: hubQuery)
  match given target with
  | some target =>
      uriBuilder.setSearch
        (uriBuilder.search ++ ("&target=".toList ++ Url.encodeURIComponent target))
  | none => uriBuilder

/-- The endpoint of the service for a target. -/
def serviceEndpoint (settings : Settings) (target : ConnectionTarget) : Text :=
  if target.endpoint ≠ [] then target.endpoint else settings.endpoint

/-- `getUrl`, which throws for an endpoint that is no URL. -/
def getUrl (hosts : Url.HostParser) (settings : Settings) (target : ConnectionTarget) :
    Option ClientUrl :=
  (Url.parse hosts (serviceEndpoint settings target)).bind (fun service =>
    let uriBuilder := addQuery (tunnelEndpoint service) settings.hub target.target
    match given target.reverseProxyEndpoint with
    | some endpoint =>
        (Url.parse hosts endpoint).map (fun reverseProxy =>
          ⟨uriBuilder, some ((tunnelEndpoint reverseProxy).setSearch uriBuilder.search)⟩)
    | none => some ⟨uriBuilder, none⟩)

/-- A token: signed with a key for an audience, or fetched for a scope. -/
inductive Token where
  | signed (key subject audience : Text)
  | fetched (scope : Text)
deriving DecidableEq

/-- The token of `getAccessTokenUrl`. -/
def getToken (endpoint : Url) (userId : Text) : Credential → Token
  | .key key => .signed key userId endpoint.href
  | .token => .fetched "https://webpubsub.azure.com/.default".toList

/-- The URL that a client connects to, before its token. -/
def ClientUrl.connected (url : ClientUrl) : Url := url.reverseProxyEndpoint.getD url.endpoint

/-- `getAccessTokenUrl`, with the texts of tokens left open. -/
def getAccessTokenUrl (print : Token → Text) (url : ClientUrl) (credential : Credential)
    (userId : Text) : Text :=
  url.connected.href ++ "&access_token=".toList ++
    Url.encodeURIComponent (print (getToken url.endpoint userId credential))

/-! ## The machine -/

/-- A `WebPubSubTunnelClient`, with the whole target that it was created for. -/
structure TunnelClient where
  url : ClientUrl
  userId : Text
  target : ConnectionTarget
deriving DecidableEq

/-- The texts of a Reconnect or a Rebalance message. -/
structure Order where
  targetId : Text
  endpoint : Text
deriving DecidableEq

def Order.target (order : Order) : ConnectionTarget := ⟨order.endpoint, some order.targetId, none⟩

/-- A connection with all clients that it has created, and the orders of the Reconnect messages
whose start is due. -/
structure Addressed where
  connection : State
  clients : List TunnelClient
  reconnects : List Order

def Addressed.initial : Addressed := ⟨State.initial, [], []⟩

inductive AddressedEvent where
  /-- `runAsync`. -/
  | run
  /-- A Reconnect message arrives on a client. -/
  | reconnect (client : Nat) (order : Order)
  /-- The Reconnect that came first goes on after it has stopped its client. -/
  | reconnected
  /-- A Rebalance message arrives on a client. -/
  | rebalance (client : Nat) (order : Order)
  /-- Anything else that happens to a connection. -/
  | other (event : Event)

/-- Whether an event has a form of its own here. -/
def Event.startsClient : Event → Bool
  | .run => true
  | .reconnected => true
  | .message _ .connectionReconnect => true
  | .message _ .connectionRebalance => true
  | _ => false

/-- The event of the connection. -/
def AddressedEvent.plain : AddressedEvent → Event
  | .run => .run
  | .reconnect client _ => .message client .connectionReconnect
  | .reconnected => .reconnected
  | .rebalance client _ => .message client .connectionRebalance
  | .other event => event

namespace Addressed

variable (hosts : Url.HostParser) (settings : Settings)

/-- `startConnectionAsync`, up to the first `startAsync`. It throws after `stop` and when `getUrl`
does. -/
def startConnection (state : Addressed) (target : ConnectionTarget) (retriesForever : Bool) :
    Addressed :=
  if state.connection.stopped then state
  else
    match getUrl hosts settings target with
    | some url => { state with
        connection := state.connection.startConnection retriesForever
        clients := state.clients ++ [⟨url, settings.id, target⟩] }
    | none => state

/-- The target of `runAsync`. -/
def ownTarget : ConnectionTarget := ⟨settings.endpoint, none, settings.reverseProxyEndpoint⟩

def step (state : Addressed) : AddressedEvent → Option (Addressed × List Output)
  | .run =>
      some (startConnection hosts settings
        { state with connection := { state.connection with stopped := false } }
        (ownTarget settings) false, [])
  | .reconnect client order => do
      let _ ← state.connection.clients[client]?
      pure ({ state with
        connection := state.connection.processMessage client .connectionReconnect
        reconnects := state.reconnects ++ [order] }, [])
  | .reconnected =>
      match state.reconnects with
      | [] => none
      | order :: rest =>
        some (startConnection hosts settings { state with
          connection := { state.connection with reconnecting := state.connection.reconnecting - 1 }
          reconnects := rest } order.target true, [])
  | .rebalance client order => do
      let _ ← state.connection.clients[client]?
      pure (startConnection hosts settings state order.target true, [])
  | .other event =>
      if event.startsClient then none
      else (Tunnel.step state.connection event).map (fun result =>
        ({ state with connection := result.1 }, result.2))

/-- The machine of a connection with addresses. -/
def machine : Machine Addressed AddressedEvent Output := ⟨step hosts settings⟩

/-! ## The machine of the connection -/

/-- Where a step creates a client, its endpoints are URLs. -/
def Parses (state : Addressed) : AddressedEvent → Prop
  | .run => (getUrl hosts settings (ownTarget settings)).isSome
  | .reconnected => ∀ order ∈ state.reconnects.head?, (getUrl hosts settings order.target).isSome
  | .rebalance _ order => (getUrl hosts settings order.target).isSome
  | _ => True

variable {hosts settings}

theorem startConnection_connection {state : Addressed} {target : ConnectionTarget}
    (parsed : (getUrl hosts settings target).isSome) (retriesForever : Bool) :
    (startConnection hosts settings state target retriesForever).connection =
      state.connection.startConnection retriesForever := by
  obtain ⟨url, found⟩ := Option.isSome_iff_exists.mp parsed
  unfold startConnection State.startConnection
  rw [found]
  split <;> rfl

/-- A Reconnect that is due is known to both machines. -/
def Counted (state : Addressed) : Prop :=
  state.connection.reconnecting = state.reconnects.length

theorem startConnection_counted {state : Addressed} (counted : state.Counted)
    (target : ConnectionTarget) (retriesForever : Bool) :
    (startConnection hosts settings state target retriesForever).Counted := by
  unfold startConnection State.startConnection
  split
  · exact counted
  · split <;> exact counted

theorem stop_reconnecting (state : State) : state.stop.reconnecting = state.reconnecting := by
  have all (clients : List Nat) (state : State) :
      (clients.foldl State.stopConnection state).reconnecting = state.reconnecting := by
    induction clients generalizing state with
    | nil => rfl
    | cons client clients inductionHypothesis =>
      rw [List.foldl_cons, inductionHypothesis, State.stopConnection]
      split <;> rfl
  unfold State.stop
  split
  · rfl
  · exact all _ _

/-- No other event touches the number of Reconnects that are due. -/
theorem step_reconnecting {state next : State} {event : Event} {added : List Output}
    (other : event.startsClient = false)
    (stepped : Tunnel.step state event = some (next, added)) :
    next.reconnecting = state.reconnecting := by
  rcases step_side stepped with ⟨kind, -⟩ | side
  case inr => exact congrArg (fun side => side.2.2.2) side
  cases event with
  | run => cases other
  | reconnected => cases other
  | started client =>
    simp [Tunnel.step, Option.bind_eq_some_iff] at stepped
    obtain ⟨-, -, -, rfl, -⟩ := stepped
    rfl
  | startFailed client retry =>
    simp [Tunnel.step, Option.bind_eq_some_iff] at stepped
    obtain ⟨-, -, -, rfl, -⟩ := stepped
    rfl
  | retried client =>
    simp [Tunnel.step, Option.bind_eq_some_iff] at stepped
    obtain ⟨-, -, -, rfl, -⟩ := stepped
    rfl
  | clientStopped client =>
    simp [Tunnel.step, Option.bind_eq_some_iff] at stepped
    obtain ⟨-, -, rfl, -⟩ := stepped
    unfold State.tryEndLife
    split <;> rfl
  | message client message =>
    simp [Tunnel.step, Option.bind_eq_some_iff] at stepped
    obtain ⟨-, rfl, -⟩ := stepped
    cases message with
    | httpResponse response => exact kind.elim
    | connectionReconnect => cases other
    | connectionClose =>
      unfold State.processMessage State.stopConnection
      dsimp only
      split <;> rfl
    | connectionRebalance => cases other
    | other => rfl
  | stop =>
    obtain ⟨rfl, -⟩ := Prod.mk.inj (Option.some.inj stepped)
    exact stop_reconnecting state
  | invoke _ _ _ | sent _ | sendFailed _ | abort _ | tick | ask _ | wake _ => exact kind.elim

/-- A step whose endpoints are URLs is a step of the connection. -/
theorem step_connection {state next : Addressed} {event : AddressedEvent} {added : List Output}
    (counted : state.Counted) (parsed : Parses hosts settings state event)
    (stepped : (machine hosts settings).step state event = some (next, added)) :
    Tunnel.connection.step state.connection event.plain = some (next.connection, added) ∧
      next.Counted := by
  simp only [machine, step] at stepped
  cases event with
  | run =>
    obtain ⟨rfl, rfl⟩ := Prod.mk.inj (Option.some.inj stepped)
    constructor
    · rw [startConnection_connection parsed]
      rfl
    · apply startConnection_counted
      exact counted
  | reconnect client order =>
    simp [Option.bind_eq_some_iff] at stepped
    obtain ⟨⟨record, standing⟩, rfl, rfl⟩ := stepped
    constructor
    · simp [Tunnel.connection, Tunnel.step, AddressedEvent.plain, standing]
    · have one : state.connection.reconnecting + 1 = (state.reconnects ++ [order]).length := by
        rw [List.length_append, counted]
        rfl
      exact one
  | reconnected =>
    cases due : state.reconnects with
    | nil =>
      rw [due] at stepped
      cases stepped
    | cons order rest =>
      rw [due] at stepped
      obtain ⟨rfl, rfl⟩ := Prod.mk.inj (Option.some.inj stepped)
      have number : state.connection.reconnecting = rest.length + 1 := by
        rw [counted, due]
        rfl
      have found : (getUrl hosts settings order.target).isSome := parsed order (by rw [due]; rfl)
      constructor
      · rw [startConnection_connection found]
        simp [Tunnel.connection, Tunnel.step, AddressedEvent.plain, number]
      · apply startConnection_counted
        have left : state.connection.reconnecting - 1 = rest.length := by omega
        exact left
  | rebalance client order =>
    simp [Option.bind_eq_some_iff] at stepped
    obtain ⟨⟨record, standing⟩, rfl, rfl⟩ := stepped
    refine ⟨?_, startConnection_counted counted _ _⟩
    rw [startConnection_connection parsed]
    simp [Tunnel.connection, Tunnel.step, AddressedEvent.plain, standing, State.processMessage]
  | other event =>
    dsimp only at stepped
    split at stepped
    · cases stepped
    · rename_i plain
      obtain ⟨result, taken, same⟩ := Option.map_eq_some_iff.mp stepped
      cases same
      refine ⟨taken, ?_⟩
      exact (step_reconnecting (by simpa using plain) taken).trans counted

/-- A run in which all endpoints are URLs is a run of the connection. -/
theorem run_connection {events : List AddressedEvent} {final : Addressed} {outputs : List Output}
    (parsed : (machine hosts settings).Meets (Parses hosts settings) initial events)
    (ran : (machine hosts settings).run initial events = some (final, outputs)) :
    Tunnel.connection.run State.initial (events.map AddressedEvent.plain) =
      some (final.connection, outputs) := by
  have start : initial.Counted ∧ Tunnel.connection.run State.initial [] =
      some (initial.connection, []) := ⟨rfl, rfl⟩
  have both := Machine.run_induction_meets (machine hosts settings)
    (fun events outputs state => state.Counted ∧
      Tunnel.connection.run State.initial (events.map AddressedEvent.plain) =
        some (state.connection, outputs))
    start ?_ parsed ran
  · exact both.2
  · rintro before outputs state event next added - ⟨counted, alike⟩ here stepped
    obtain ⟨taken, kept⟩ := step_connection counted here stepped
    refine ⟨kept, ?_⟩
    rw [List.map_append]
    exact Machine.run_append_of_run _ alike (Machine.run_single _ taken)

end Addressed

end WebPubSub.Tunnel
