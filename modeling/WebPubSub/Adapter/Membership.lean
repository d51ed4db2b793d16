import WebPubSub.Library.Mutex
import WebPubSub.Library.Ledger
import WebPubSub.Adapter.InMemory
import WebPubSub.Adapter.Recipients

/-!
# Room membership, here and at the service

`addAll`, `del` and `delAll` of `web-pubsub-adapter.ts` take the mutex of their
socket, make one service call and then update the in-memory adapter; whatever is
thrown is swallowed and the mutex is released. `addSockets` and `delSockets` take
no mutex: they make one service call with a filter and then let the in-memory
adapter call `join` or `leave`, so `addAll` or `del`, on the sockets it selects.

Each await is a point where other operations may run. An operation is called, gets
its mutex, is answered by the service and resumes, each in one step, and steps of
different operations interleave in any order. A service call takes effect at once
or not at all.

The service is outside the repository. It reads a filter as a test of the
connection's id or of its groups. The groups in which it keeps every connection of
the namespace on its own are a parameter; all others are entered and left through
the adapter's calls. A socket gets an id that was never used before, and a connection
has one socket of the namespace at a time. A connection that comes with another
socket later is still in the groups that it was in.
-/

namespace WebPubSub.Adapter.Membership

/-- The calls of the adapter's methods that change memberships. -/
inductive Call where
  | addAll (id : Text) (rooms : JsSet Text)
  | del (id room : Text)
  | delAll (id : Text)
  | addSockets (opts : BroadcastOptions) (rooms : List Text)
  | delSockets (opts : BroadcastOptions) (rooms : List Text)

/-- The socket whose mutex a call takes. -/
def Call.socket : Call → Option Text
  | .addAll id _ | .del id _ | .delAll id => some id
  | .addSockets _ _ | .delSockets _ _ => none

/-- The calls made to the service: those addressed by a filter, and
`group(name).removeConnection(id)`. -/
inductive Request where
  | addressed (call : ServiceCall)
  | removeConnection (groupName eioSid : Text)
deriving DecidableEq

/-! ## The service -/

/-- The groups that each connection entered through the adapter's calls. -/
abbrev Service := AList (fun _ : Text => List Text)

/-- The text before the id in the filter of `addAll`. -/
def connectionTest : Text := "connectionId eq '".toList

/-- The filter of `addAll`. -/
def connectionFilter (eioSid : Text) : Text := connectionTest ++ eioSid ++ "'".toList

section Effect

variable (kept : List Text)

/-- A call concerns a connection: by its id, or by its groups. -/
def Reached (call : ServiceCall) (connection : Text) (groups : List Text) : Prop :=
  if connectionTest.isPrefixOf call.filter then call.filter = connectionFilter connection
  else call.Reaches {group | group ∈ kept ∨ group ∈ groups}

instance decidableReaches (groups : Set Text) [DecidablePred (· ∈ groups)] :
    (call : ServiceCall) → Decidable (call.Reaches groups)
  | .groupSendToAll group _ filter _ =>
      inferInstanceAs (Decidable (group ∈ groups ∧ (filter = [] ∨ Filter.Selects filter groups)))
  | .sendToAll _ filter _ | .invoke _ filter _ | .addConnectionsToGroups _ filter
  | .removeConnectionsFromGroups _ filter =>
      inferInstanceAs (Decidable (filter = [] ∨ Filter.Selects filter groups))

instance (call : ServiceCall) (connection : Text) (groups : List Text) :
    Decidable (Reached kept call connection groups) :=
  have : DecidablePred (· ∈ {group | group ∈ kept ∨ group ∈ groups}) := fun group =>
    inferInstanceAs (Decidable (group ∈ kept ∨ group ∈ groups))
  inferInstanceAs (Decidable (if connectionTest.isPrefixOf call.filter = true
    then call.filter = connectionFilter connection
    else call.Reaches {group | group ∈ kept ∨ group ∈ groups}))

/-- The groups of a connection after a call. -/
def Request.groupsAfter (request : Request) (connection : Text) (groups : List Text) : List Text :=
  match request with
  | .addressed (.addConnectionsToGroups names filter) =>
      if Reached kept (.addConnectionsToGroups names filter) connection groups then
        groups ++ names.filter (fun name => decide (name ∉ groups))
      else groups
  | .addressed (.removeConnectionsFromGroups names filter) =>
      if Reached kept (.removeConnectionsFromGroups names filter) connection groups then
        groups.filter (fun group => decide (group ∉ names))
      else groups
  | .addressed _ => groups
  | .removeConnection name eioSid =>
      if connection = eioSid then groups.filter (fun group => decide (group ≠ name)) else groups

/-- A call takes effect on every connection at once. -/
def Request.apply (request : Request) (service : Service) : Service where
  entries := service.entries.map (Sigma.map id (request.groupsAfter kept))
  nodupKeys := List.NodupKeys.map₂ _ _ service.nodupKeys

/-- A connection gets a socket. One that had a socket before keeps its groups. -/
def establish (service : Service) (connection : Text) : Service :=
  service.insert connection ((service.lookup connection).getD [])

/-- The connections whose groups differ. -/
def changes (before after : Service) : List Text :=
  before.keys.filter (fun connection => before.lookup connection ≠ after.lookup connection)

@[simp]
theorem lookup_apply (request : Request) (service : Service) (connection : Text) :
    (request.apply kept service).lookup connection =
      (service.lookup connection).map (request.groupsAfter kept connection) :=
  List.dlookup_map₂ connection

end Effect

/-! ## The operations -/

/-- How far an operation has come. A finished one has been answered or refused. -/
inductive Phase where
  | waiting
  | calling (request : Request)
  | answered (ok : Bool)
  | finished (ok : Bool)
deriving DecidableEq

/-- A call of a method, with the connections that its service call has changed.
The code never learns which these are. -/
structure Operation where
  call : Call
  phase : Phase
  changed : List Text

/-- The adapter with its namespace, and the service. Operations are numbered in the
order of their calls. `known` has every id that was ever given to a socket. -/
structure State where
  sockets : AList (fun _ : Text => Text)
  known : AList (fun _ : Text => Text)
  memory : InMemory
  roomOperationLock : AList (fun _ : Text => Mutex Nat)
  operations : List Operation
  service : Service

/-- A namespace without sockets, and an adapter that was never called. -/
def State.initial : State := ⟨∅, ∅, .empty, ∅, [], ∅⟩

/-- What can happen. `connect` puts a socket into the namespace. A disconnect calls
`delAll` and takes the socket out of the namespace, before anything else runs. -/
inductive Event where
  | connect (id eioSid : Text)
  | call (call : Call)
  | disconnect (id : Text)
  | locked (number : Nat)
  | answered (number : Nat) (ok : Bool)
  | resumed (number : Nat)

/-- A service call together with the operation that makes it. -/
abbrev Output := Nat × Request

section Steps

variable (super : InMemoryAdapter) (base64url : Base64Url) (nsp : Text)
  (getSingleEioEncodedPayload : SioPacket Unit → Option Text) (kept : List Text)

/-- The service call of a method, from what `_getEioSid` found. `addAll` and `del`
throw when it found nothing; the broadcast of `delAll` swallows what the encoder
throws. -/
def Call.request (call : Call) (eioSid : Option Text) : Option Request :=
  match call with
  | .addAll _ rooms => eioSid.map (fun eioSid =>
      .addressed (.addConnectionsToGroups
        (rooms.elements.map (fun room => getGroupName base64url nsp (some room)))
        (connectionFilter eioSid)))
  | .del _ room => eioSid.map (fun eioSid =>
      .removeConnection (getGroupName base64url nsp (some room)) eioSid)
  | .delAll id =>
      (broadcast base64url nsp getSingleEioEncodedPayload
        { type := .disconnect, nsp := [], data := () }
        { rooms := .single id, except := none }).map .addressed
  | .addSockets opts rooms => some (.addressed (Adapter.addSockets base64url nsp opts rooms))
  | .delSockets opts rooms => some (.addressed (Adapter.delSockets base64url nsp opts rooms))

/-- The mutex of a socket, created when it is first asked for. -/
def State.lock (state : State) (id : Text) : Mutex Nat :=
  (state.roomOperationLock.lookup id).getD .free

/-- Replace the mutex of a socket. -/
def State.setLock (state : State) (id : Text) (mutex : Mutex Nat) : State :=
  { state with roomOperationLock := state.roomOperationLock.insert id mutex }

/-- A method is called: its operation gets the next number. `_getLock` asks for the
mutex of the socket at once. -/
def State.enter (state : State) (call : Call) (phase : Phase) : State :=
  let number := state.operations.length
  let entered := { state with operations := state.operations ++ [⟨call, phase, []⟩] }
  match call.socket with
  | some id => entered.setLock id ((state.lock id).acquire number)
  | none => entered

/-- An operation moves on. -/
def State.amend (state : State) (number : Nat) (operation : Operation) : State :=
  { state with operations := state.operations.set number operation }

/-- A method ends, and its mutex is released in any case. -/
def State.finish (state : State) (number : Nat) (operation : Operation) (ok : Bool)
    (memory : InMemory) : State :=
  let finished := { state.amend number { operation with phase := .finished ok } with
    memory := memory }
  match operation.call.socket with
  | some id => finished.setLock id ((finished.lock id).release)
  | none => finished

/-- The update of the in-memory adapter after the service call. The debug output of
`addAll` looks the connection up once more, and throws when the socket has left;
`delAll` swallows a failure inside `broadcast`. -/
def Call.update (call : Call) (ok connected : Bool) (memory : InMemory) : InMemory :=
  match call with
  | .addAll id rooms => if ok && connected then super.addAll memory id rooms else memory
  | .del id room => if ok then super.del memory id room else memory
  | .delAll id => super.delAll memory id
  | .addSockets _ _ | .delSockets _ _ => memory

/-- The calls that `super.addSockets` and `super.delSockets` make, through `join` and
`leave` of the selected sockets. -/
def Call.triggered (call : Call) (ok : Bool) (memory : InMemory) (connected : List Text) :
    List Call :=
  match call with
  | .addSockets opts rooms =>
      if ok then (super.apply memory connected opts).map (fun id => .addAll id (.ofList rooms))
      else []
  | .delSockets opts rooms =>
      if ok then (super.apply memory connected opts).flatMap (fun id => rooms.map (.del id))
      else []
  | _ => []

/-- Several methods are called one after the other. -/
def State.enterAll (state : State) (calls : List Call) : State :=
  calls.foldl (fun state call => state.enter call .waiting) state

/-- The connection of an operation's socket is still in the namespace. -/
def State.connected (state : State) (call : Call) : Bool :=
  call.socket.any (fun id => decide (id ∈ state.sockets))

/-- One event. -/
def step (state : State) : Event → Option (State × List Output)
  | .connect id eioSid =>
      if id ∉ state.known ∧
          ∀ other ∈ state.sockets.keys, state.sockets.lookup other ≠ some eioSid then
        some ({ state with
          sockets := state.sockets.insert id eioSid
          known := state.known.insert id eioSid
          service := establish state.service eioSid }, [])
      else none
  | .call call =>
      match call.socket with
      | some _ => some (state.enter call .waiting, [])
      | none => do
          let request ← call.request base64url nsp getSingleEioEncodedPayload none
          some (state.enter call (.calling request), [(state.operations.length, request)])
  | .disconnect id =>
      if id ∈ state.sockets then
        some ({ state.enter (.delAll id) .waiting with sockets := state.sockets.erase id }, [])
      else none
  | .locked number => do
      let operation ← state.operations[number]?
      let id ← operation.call.socket
      if operation.phase = .waiting ∧ (state.lock id).holder = some number then
        match operation.call.request base64url nsp getSingleEioEncodedPayload
            (state.sockets.lookup id), operation.call with
        | some request, _ =>
            some (state.amend number { operation with phase := .calling request },
              [(number, request)])
        | none, .delAll _ =>
            some (state.amend number { operation with phase := .answered false }, [])
        | none, _ => some (state.finish number operation false state.memory, [])
      else none
  | .answered number ok => do
      let operation ← state.operations[number]?
      match operation.phase with
      | .calling request =>
          let service := if ok then request.apply kept state.service else state.service
          some ({ state.amend number
            { operation with phase := .answered ok, changed := changes state.service service }
            with service := service }, [])
      | _ => none
  | .resumed number => do
      let operation ← state.operations[number]?
      match operation.phase with
      | .answered ok =>
          let finished := state.finish number operation ok
            (operation.call.update super ok (state.connected operation.call) state.memory)
          some (finished.enterAll
            (operation.call.triggered super ok state.memory state.sockets.keys), [])
      | _ => none

/-- The adapter and the service as a machine; its outputs are the service calls. -/
def machine : Machine State Event Output where
  step := step super base64url nsp getSingleEioEncodedPayload kept

/-! ## What a step can do -/

/-- Every way to take a step, with all that it checked. -/
inductive Step (state : State) : Event → State → List Output → Prop
  | connect (id eioSid : Text) (newId : id ∉ state.known)
      (single : ∀ other, state.sockets.lookup other ≠ some eioSid) :
      Step state (.connect id eioSid)
        { state with
          sockets := state.sockets.insert id eioSid
          known := state.known.insert id eioSid
          service := establish state.service eioSid } []
  | callSocket (call : Call) (id : Text) (own : call.socket = some id) :
      Step state (.call call) (state.enter call .waiting) []
  | callBulk (call : Call) (request : Request) (bulk : call.socket = none)
      (asked : call.request base64url nsp getSingleEioEncodedPayload none = some request) :
      Step state (.call call) (state.enter call (.calling request))
        [(state.operations.length, request)]
  | disconnect (id : Text) (present : id ∈ state.sockets) :
      Step state (.disconnect id)
        { state.enter (.delAll id) .waiting with sockets := state.sockets.erase id } []
  | lockedAsks (number : Nat) (operation : Operation) (id : Text) (request : Request)
      (found : state.operations[number]? = some operation)
      (own : operation.call.socket = some id) (waited : operation.phase = .waiting)
      (turn : (state.lock id).holder = some number)
      (asked : operation.call.request base64url nsp getSingleEioEncodedPayload
        (state.sockets.lookup id) = some request) :
      Step state (.locked number)
        (state.amend number { operation with phase := .calling request }) [(number, request)]
  | lockedSilent (number : Nat) (operation : Operation) (id : Text)
      (found : state.operations[number]? = some operation)
      (leaving : operation.call = .delAll id) (waited : operation.phase = .waiting)
      (turn : (state.lock id).holder = some number) :
      Step state (.locked number)
        (state.amend number { operation with phase := .answered false }) []
  | lockedThrows (number : Nat) (operation : Operation) (id : Text)
      (found : state.operations[number]? = some operation)
      (own : operation.call.socket = some id) (waited : operation.phase = .waiting)
      (turn : (state.lock id).holder = some number) (staying : ∀ id, operation.call ≠ .delAll id)
      (unfound : operation.call.request base64url nsp getSingleEioEncodedPayload
        (state.sockets.lookup id) = none) :
      Step state (.locked number) (state.finish number operation false state.memory) []
  | answered (number : Nat) (ok : Bool) (operation : Operation) (request : Request)
      (found : state.operations[number]? = some operation)
      (called : operation.phase = .calling request) (service : Service)
      (effect : service = if ok then request.apply kept state.service else state.service) :
      Step state (.answered number ok)
        { state.amend number
          { operation with phase := .answered ok, changed := changes state.service service }
          with service := service } []
  | resumed (number : Nat) (ok : Bool) (operation : Operation)
      (found : state.operations[number]? = some operation)
      (answer : operation.phase = .answered ok) :
      Step state (.resumed number)
        ((state.finish number operation ok
            (operation.call.update super ok (state.connected operation.call) state.memory)).enterAll
          (operation.call.triggered super ok state.memory state.sockets.keys)) []

/-- A completed step is one of these. -/
theorem step_inv {state next : State} {event : Event} {outputs : List Output}
    (stepped : (machine super base64url nsp getSingleEioEncodedPayload kept).step state event =
      some (next, outputs)) :
    Step super base64url nsp getSingleEioEncodedPayload kept state event next outputs := by
  cases event with
  | connect id eioSid =>
    simp only [machine, step, Option.ite_none_right_eq_some, Option.some.injEq,
      Prod.mk.injEq] at stepped
    obtain ⟨⟨newId, single⟩, rfl, rfl⟩ := stepped
    refine .connect id eioSid newId (fun other found => single other ?_ found)
    exact AList.mem_keys.mp (AList.lookup_isSome.mp (by rw [found]; rfl))
  | call call =>
    cases own : call.socket with
    | some id =>
      obtain ⟨rfl, rfl⟩ := by simpa [machine, step, own] using stepped
      exact .callSocket call id own
    | none =>
      simp only [machine, step, own, Option.bind_eq_bind, Option.bind_eq_some_iff,
        Option.some.injEq, Prod.mk.injEq] at stepped
      obtain ⟨request, asked, rfl, rfl⟩ := stepped
      exact .callBulk call request own asked
  | disconnect id =>
    simp only [machine, step, Option.ite_none_right_eq_some, Option.some.injEq,
      Prod.mk.injEq] at stepped
    obtain ⟨present, rfl, rfl⟩ := stepped
    exact .disconnect id present
  | locked number =>
    simp only [machine, step, Option.bind_eq_bind, Option.bind_eq_some_iff,
      Option.ite_none_right_eq_some] at stepped
    obtain ⟨operation, found, id, own, ⟨waited, turn⟩, moved⟩ := stepped
    split at moved
    case h_1 _ request asked =>
      obtain ⟨rfl, rfl⟩ := by simpa using moved
      exact .lockedAsks number operation id request found own waited turn asked
    case h_2 other _ leaving =>
      obtain ⟨rfl, rfl⟩ := by simpa using moved
      obtain rfl : other = id := by simpa [leaving, Call.socket] using own
      exact .lockedSilent number operation other found leaving waited turn
    case h_3 unfound staying =>
      obtain ⟨rfl, rfl⟩ := by simpa using moved
      exact .lockedThrows number operation id found own waited turn
        (fun other leaving => staying other leaving) unfound
  | answered number ok =>
    simp only [machine, step, Option.bind_eq_bind, Option.bind_eq_some_iff] at stepped
    obtain ⟨operation, found, moved⟩ := stepped
    split at moved
    case h_1 request called =>
      obtain ⟨rfl, rfl⟩ := by simpa using moved
      exact .answered number ok operation request found called _ rfl
    case h_2 => simp at moved
  | resumed number =>
    simp only [machine, step, Option.bind_eq_bind, Option.bind_eq_some_iff] at stepped
    obtain ⟨operation, found, moved⟩ := stepped
    split at moved
    case h_1 ok answer =>
      obtain ⟨rfl, rfl⟩ := by simpa using moved
      exact .resumed number ok operation found answer
    case h_2 => simp at moved

end Steps

end WebPubSub.Adapter.Membership
