import WebPubSub.Library.Ledger
import WebPubSub.Tunnel.Connection

/-!
# The kinds of steps of a connection

Starting, stopping and replacing clients does not touch the records of requests, and
the steps of requests do not touch the clients. Every result about requests follows
from the kinds of steps listed here, without looking at the clients again.
-/

namespace WebPubSub.Tunnel

namespace State

/-- What the connection keeps about requests. -/
def ledger (state : State) :
    (Text → Option (Nat × Nat)) × List Nat × List Invocation × List (Nat × Callback) :=
  (state.keyMapping, state.ackMap, state.invocations, state.deferred)

/-- What the connection keeps about clients. -/
def side (state : State) : List Client × List Nat × Bool × Nat :=
  (state.clients, state.table, state.stopped, state.reconnecting)

/-- No client is unstopped on the way from one state to another. -/
def StopsOnly (state next : State) : Prop :=
  ∀ client, state.isStopped client = true → next.isStopped client = true

theorem stopsOnly_refl (state : State) : state.StopsOnly state := fun _ stopped => stopped

theorem StopsOnly.trans {first second third : State} (before : first.StopsOnly second)
    (after : second.StopsOnly third) : first.StopsOnly third :=
  fun client stopped => after client (before client stopped)

/-- Stopping a client changes no request. -/
theorem stopConnection_ledger (state : State) (client : Nat) :
    (state.stopConnection client).ledger = state.ledger := by
  unfold stopConnection
  split <;> rfl

/-- Starting a client changes no request. -/
theorem startConnection_ledger (state : State) (retriesForever : Bool) :
    (state.startConnection retriesForever).ledger = state.ledger := by
  unfold startConnection
  split <;> rfl

/-- The end of a client changes no request. -/
theorem tryEndLife_ledger (state : State) (client : Nat) :
    (state.tryEndLife client).ledger = state.ledger := by
  unfold tryEndLife
  split <;> rfl

/-- Stopping several clients changes no request. -/
theorem foldl_stopConnection_ledger (clients : List Nat) (state : State) :
    (clients.foldl stopConnection state).ledger = state.ledger := by
  induction clients generalizing state with
  | nil => rfl
  | cons client clients inductionHypothesis =>
    rw [List.foldl_cons, inductionHypothesis, stopConnection_ledger]

/-- Stopping the connection changes no request. -/
theorem stop_ledger (state : State) : state.stop.ledger = state.ledger := by
  unfold stop
  split
  · rfl
  · exact foldl_stopConnection_ledger _ _

/-- Replacing a record by one that is stopped if it was. -/
theorem putClient_stopsOnly {state : State} {client : Nat} {record other : Client}
    (standing : state.clients[client]? = some record)
    (kept : record.stopped = true → other.stopped = true) :
    state.StopsOnly (state.putClient client other) := by
  intro index stopped
  obtain ⟨inside, -⟩ := List.getElem?_eq_some_iff.mp standing
  by_cases same : index = client
  · subst same
    simp only [isStopped, standing, Option.map_some, Option.getD_some] at stopped
    simp [isStopped, putClient, inside, kept stopped]
  · simpa [isStopped, putClient, List.getElem?_set_ne (Ne.symm same)] using stopped

/-- A client that is stopped stays stopped when another is. -/
theorem stopConnection_stopsOnly (state : State) (client : Nat) :
    state.StopsOnly (state.stopConnection client) := by
  intro index stopped
  unfold stopConnection
  split
  · by_cases same : client = index
    · subst same
      cases standing : state.clients[client]? with
      | none => simp [isStopped, standing] at stopped
      | some record => simp [isStopped, standing]
    · simpa [isStopped, same] using stopped
  · exact stopped

/-- A new client starts none of those that are stopped. -/
theorem startConnection_stopsOnly (state : State) (retriesForever : Bool) :
    state.StopsOnly (state.startConnection retriesForever) := by
  intro index stopped
  unfold startConnection
  split
  · exact stopped
  · cases standing : state.clients[index]? with
    | none => simp [isStopped, standing] at stopped
    | some record =>
      obtain ⟨inside, -⟩ := List.getElem?_eq_some_iff.mp standing
      simpa [isStopped, List.getElem?_append_left inside] using stopped

theorem tryEndLife_stopsOnly (state : State) (client : Nat) :
    state.StopsOnly (state.tryEndLife client) := by
  intro index stopped
  unfold tryEndLife
  split <;> exact stopped

/-- A client that is stopped stays stopped when several are. -/
theorem foldl_stopConnection_stopsOnly (clients : List Nat) (state : State) :
    state.StopsOnly (clients.foldl stopConnection state) := by
  induction clients generalizing state with
  | nil => exact stopsOnly_refl state
  | cons client clients inductionHypothesis =>
    exact (stopConnection_stopsOnly state client).trans (inductionHypothesis _)

theorem stop_stopsOnly (state : State) : state.StopsOnly state.stop := by
  unfold stop
  split
  · exact stopsOnly_refl state
  · exact foldl_stopConnection_stopsOnly _ { state with stopped := true }

/-- The three operations on consistent keys change the mapping only. -/
theorem lockClient_eq (state : State) (key : Option Text) (client : Nat) :
    state.lockClient key client =
      { state with keyMapping := (state.lockClient key client).keyMapping } := by
  cases key <;> rfl

/-- Releasing a key changes the mapping only. -/
theorem releaseClient_eq (state : State) (key : Option Text) (client : Nat) :
    state.releaseClient key client =
      { state with keyMapping := (state.releaseClient key client).keyMapping } := by
  unfold releaseClient
  split
  · rfl
  · split
    · rfl
    · split
      · rfl
      · split <;> rfl

/-- Getting a client changes the mapping only. -/
theorem afterGetClient_eq (state : State) (key : Option Text) :
    state.afterGetClient key =
      { state with keyMapping := (state.afterGetClient key).keyMapping } := by
  unfold afterGetClient
  split
  · rfl
  · split
    · split <;> rfl
    · rfl

/-- A client that is not stopped is in the table. -/
def Listed (state : State) : Prop :=
  ∀ client < state.clients.length, state.isStopped client = false → client ∈ state.table

/-- A step that keeps the number of clients and the table, and unstops none. -/
theorem Listed.of_stopsOnly {state next : State} (listed : state.Listed)
    (stops : state.StopsOnly next) (same : next.clients.length = state.clients.length)
    (table : next.table = state.table) : next.Listed := by
  intro client inside live
  rw [table]
  apply listed client (same ▸ inside)
  by_contra stopped
  simp [stops client (by simpa using stopped)] at live

/-- Stopping a client takes nothing from the table. -/
theorem stopConnection_table (state : State) (client : Nat) :
    (state.stopConnection client).clients.length = state.clients.length ∧
      (state.stopConnection client).table = state.table := by
  unfold stopConnection
  split <;> simp

theorem foldl_stopConnection_table (clients : List Nat) (state : State) :
    (clients.foldl stopConnection state).clients.length = state.clients.length ∧
      (clients.foldl stopConnection state).table = state.table := by
  induction clients generalizing state with
  | nil => exact ⟨rfl, rfl⟩
  | cons client clients inductionHypothesis =>
    obtain ⟨length, table⟩ := stopConnection_table state client
    obtain ⟨lengths, tables⟩ := inductionHypothesis (state.stopConnection client)
    exact ⟨lengths.trans length, tables.trans table⟩

/-- Every client that is live stays in the table. -/
theorem Listed.stopConnection {state : State} (listed : state.Listed) (client : Nat) :
    (state.stopConnection client).Listed :=
  listed.of_stopsOnly (stopConnection_stopsOnly state client) (stopConnection_table state client).1
    (stopConnection_table state client).2

theorem Listed.stop {state : State} (listed : state.Listed) : state.stop.Listed := by
  refine listed.of_stopsOnly (stop_stopsOnly state) ?_ ?_
  · unfold State.stop
    split
    · rfl
    · exact (foldl_stopConnection_table _ _).1
  · unfold State.stop
    split
    · rfl
    · exact (foldl_stopConnection_table _ _).2

/-- A client that is created is put into the table. -/
theorem Listed.startConnection {state : State} (listed : state.Listed) (retriesForever : Bool) :
    (state.startConnection retriesForever).Listed := by
  unfold State.startConnection
  split
  · exact listed
  · intro client inside live
    by_cases fresh : client = state.clients.length
    · simp [fresh]
    · have before : client < state.clients.length := by
        simp only [List.length_append, List.length_singleton] at inside
        omega
      refine List.mem_append_left _ (listed client before ?_)
      simpa [isStopped, List.getElem?_append_left before] using live

/-- A record may be replaced by one that is not started again. -/
theorem Listed.putClient {state : State} (listed : state.Listed) {client : Nat}
    {record other : Client} (standing : state.clients[client]? = some record)
    (kept : record.stopped = true → other.stopped = true) : (state.putClient client other).Listed :=
  listed.of_stopsOnly (putClient_stopsOnly standing kept) (List.length_set ..) rfl

/-- Only a stopped client is taken out of the table. -/
theorem Listed.tryEndLife {state : State} (listed : state.Listed) (client : Nat) :
    (state.tryEndLife client).Listed := by
  unfold State.tryEndLife
  split
  · next stopped =>
    intro other inside live
    refine List.mem_filter.mpr ⟨listed other inside live, ?_⟩
    have different : other ≠ client := by
      rintro rfl
      exact absurd (stopped.symm.trans live) (by simp)
    simp [different]
  · exact listed

section Frames

variable (state : State) (key : Option Text) (abortable : Bool) (client call : Nat)
  (callback : Callback) (rest : List (Nat × Callback)) (invocation : Invocation)
  (response : HttpResponse)

@[simp] theorem releaseClient_invocations :
    (state.releaseClient key client).invocations = state.invocations := by
  rw [releaseClient_eq]

@[simp] theorem releaseClient_ackMap :
    (state.releaseClient key client).ackMap = state.ackMap := by
  rw [releaseClient_eq]

@[simp] theorem releaseClient_deferred :
    (state.releaseClient key client).deferred = state.deferred := by
  rw [releaseClient_eq]

@[simp] theorem afterGetClient_invocations :
    (state.afterGetClient key).invocations = state.invocations := by
  rw [afterGetClient_eq]

@[simp] theorem afterGetClient_ackMap :
    (state.afterGetClient key).ackMap = state.ackMap := by
  rw [afterGetClient_eq]

@[simp] theorem afterGetClient_deferred :
    (state.afterGetClient key).deferred = state.deferred := by
  rw [afterGetClient_eq]

/-- A request that is handed over is the last. -/
@[simp] theorem hand_invocations : (state.hand key abortable client).invocations =
    state.invocations ++ [.handed key client abortable] := by
  unfold hand
  rw [lockClient_eq]

/-- Its entity is found by its number. -/
@[simp] theorem hand_ackMap : (state.hand key abortable client).ackMap =
    state.ackMap ++ [state.invocations.length] := by
  unfold hand
  rw [lockClient_eq]

@[simp] theorem hand_deferred : (state.hand key abortable client).deferred = state.deferred := by
  unfold hand
  rw [lockClient_eq]

/-- A send that fails is recorded at its request. -/
@[simp] theorem sendFailed_invocations : (state.sendFailed call invocation).invocations =
    state.invocations.set call { invocation with sending := .failed } := by
  unfold sendFailed
  rw [releaseClient_invocations]
  rfl

/-- A send that fails takes back the entity. -/
@[simp] theorem sendFailed_ackMap : (state.sendFailed call invocation).ackMap =
    state.ackMap.filter (· ≠ call) := by
  unfold sendFailed
  rw [releaseClient_ackMap]

@[simp] theorem sendFailed_deferred :
    (state.sendFailed call invocation).deferred = state.deferred := by
  unfold sendFailed
  rw [releaseClient_deferred]
  rfl

/-- A callback changes the record of its own request. -/
@[simp] theorem tick_invocations : (state.tick call callback rest invocation).invocations =
    state.invocations.set call (invocation.reader callback).1 := by
  unfold tick
  dsimp only
  split
  · rw [releaseClient_invocations]
    rfl
  · rfl

@[simp] theorem tick_ackMap : (state.tick call callback rest invocation).ackMap =
    state.ackMap := by
  unfold tick
  dsimp only
  split
  · rw [releaseClient_ackMap]
    rfl
  · rfl

/-- A callback runs once. -/
@[simp] theorem tick_deferred : (state.tick call callback rest invocation).deferred = rest := by
  unfold tick
  dsimp only
  split
  · rw [releaseClient_deferred]
  · rfl

/-- A response is scheduled and changes no record yet. -/
@[simp] theorem receive_invocations : (state.receive response).invocations =
    state.invocations := by
  unfold receive
  split
  · rfl
  · split <;> rfl

/-- The steps of requests leave the clients alone. -/
theorem releaseClient_side : (state.releaseClient key client).side = state.side := by
  rw [releaseClient_eq]
  rfl

/-- A send that fails changes no client. -/
theorem sendFailed_side : (state.sendFailed call invocation).side = state.side := by
  unfold sendFailed
  rw [releaseClient_side]
  rfl

/-- A callback changes no client. -/
theorem tick_side : (state.tick call callback rest invocation).side = state.side := by
  unfold tick
  dsimp only
  split
  · rw [releaseClient_side]
    rfl
  · rfl

theorem receive_side : (state.receive response).side = state.side := by
  unfold receive
  split
  · rfl
  · split <;> rfl

theorem afterGetClient_side : (state.afterGetClient key).side = state.side := by
  rw [afterGetClient_eq]
  rfl

theorem hand_side : (state.hand key abortable client).side = state.side := by
  unfold hand
  rw [lockClient_eq]
  rfl

/-- A call changes no client. -/
theorem invoke_side (draws : Nat → Draw) :
    (state.invoke key abortable draws).1.side = state.side := by
  unfold invoke
  dsimp only
  split
  · rw [afterGetClient_side]
  · rw [hand_side, afterGetClient_side]

end Frames

end State

/-- The events that concern clients only. -/
def Event.OfClients : Event → Prop
  | .message _ (.httpResponse _) | .invoke _ _ _ | .sent _ | .sendFailed _ | .abort _ | .tick
  | .ask _ | .wake _ => False
  | _ => True

/-- The kinds of steps, as far as requests are concerned. -/
inductive Change (state : State) : Event → List Output → State → Prop where
  /-- Only clients change. -/
  | clients {event : Event} {next : State} (kind : event.OfClients)
      (ledger : next.ledger = state.ledger) (stops : state.StopsOnly next)
      (listed : state.Listed → next.Listed) :
      Change state event [] next
  /-- A response arrives on some client. -/
  | response (client : Nat) (response : HttpResponse) :
      Change state (.message client (.httpResponse response)) [] (state.receive response)
  | invoked (key : Option Text) (abortable : Bool) (draws : Nat → Draw) :
      Change state (.invoke key abortable draws) (state.invoke key abortable draws).2
        (state.invoke key abortable draws).1
  | sent (call : Nat) (invocation : Invocation)
      (standing : state.invocations[call]? = some invocation)
      (sending : invocation.sending = .pending) :
      Change state (.sent call) [] (state.put call { invocation with sending := .sent })
  | sendFailed (call : Nat) (invocation : Invocation)
      (standing : state.invocations[call]? = some invocation)
      (sending : invocation.sending = .pending) :
      Change state (.sendFailed call) [] (state.sendFailed call invocation)
  | aborted (call : Nat) (invocation : Invocation)
      (standing : state.invocations[call]? = some invocation)
      (signal : invocation.signal = .waiting) :
      Change state (.abort call) [] { state.put call { invocation with signal := .aborted } with
        deferred := state.deferred ++ [(call, .aborted)] }
  | ticked (call : Nat) (callback : Callback) (rest : List (Nat × Callback))
      (invocation : Invocation) (scheduled : state.deferred = (call, callback) :: rest)
      (standing : state.invocations[call]? = some invocation) :
      Change state .tick [] (state.tick call callback rest invocation)
  | asked (call : Nat) (invocation : Invocation) (body : Iteration (List UInt8))
      (standing : state.invocations[call]? = some invocation)
      (hasBody : invocation.hasBody = true) (asked : invocation.body.ask = some body) :
      Change state (.ask call) [] (state.put call { invocation with body := body })
  | woken (call : Nat) (invocation : Invocation) (body : Iteration (List UInt8))
      (standing : state.invocations[call]? = some invocation)
      (woken : invocation.body.wake = some body) :
      Change state (.wake call) [] (state.put call { invocation with body := body })

/-- Every step is of one of these kinds. -/
theorem step_change {state next : State} {event : Event} {added : List Output}
    (stepped : connection.step state event = some (next, added)) :
    Change state event added next := by
  simp only [connection] at stepped
  cases event with
  | run =>
    obtain ⟨rfl, rfl⟩ := Prod.mk.inj (Option.some.inj stepped)
    exact .clients trivial (State.startConnection_ledger { state with stopped := false } false)
      (State.startConnection_stopsOnly { state with stopped := false } false)
      (fun listed =>
        (show State.Listed { state with stopped := false } from listed).startConnection false)
  | started client =>
    simp [step, Option.bind_eq_some_iff] at stepped
    obtain ⟨record, standing, -, rfl, rfl⟩ := stepped
    exact .clients trivial rfl (State.putClient_stopsOnly standing id) (fun listed =>
      listed.putClient standing id)
  | startFailed client retry =>
    simp [step, Option.bind_eq_some_iff] at stepped
    obtain ⟨record, standing, -, rfl, rfl⟩ := stepped
    exact .clients trivial rfl (State.putClient_stopsOnly standing id) (fun listed =>
      listed.putClient standing id)
  | retried client =>
    simp [step, Option.bind_eq_some_iff] at stepped
    obtain ⟨record, standing, -, rfl, rfl⟩ := stepped
    exact .clients trivial rfl (State.putClient_stopsOnly standing id) (fun listed =>
      listed.putClient standing id)
  | clientStopped client =>
    simp [step, Option.bind_eq_some_iff] at stepped
    obtain ⟨record, standing, rfl, rfl⟩ := stepped
    refine .clients trivial (State.tryEndLife_ledger _ _) ?_ (fun listed =>
      (listed.putClient standing (fun _ => rfl)).tryEndLife client)
    exact (State.putClient_stopsOnly standing (fun _ => rfl)).trans
      (State.tryEndLife_stopsOnly _ _)
  | message client message =>
    simp [step, Option.bind_eq_some_iff] at stepped
    obtain ⟨-, rfl, rfl⟩ := stepped
    cases message with
    | httpResponse response => exact .response client response
    | connectionReconnect =>
      exact .clients trivial (State.stopConnection_ledger state client)
        (State.stopConnection_stopsOnly state client) (fun listed => listed.stopConnection client)
    | connectionClose =>
      exact .clients trivial (State.stopConnection_ledger state client)
        (State.stopConnection_stopsOnly state client) (fun listed => listed.stopConnection client)
    | connectionRebalance =>
      exact .clients trivial (State.startConnection_ledger state true)
        (State.startConnection_stopsOnly state true) (fun listed => listed.startConnection true)
    | other => exact .clients trivial rfl (State.stopsOnly_refl state) id
  | reconnected =>
    simp [step, Option.bind_eq_some_iff] at stepped
    obtain ⟨-, rfl, rfl⟩ := stepped
    exact .clients trivial (State.startConnection_ledger { state with
        reconnecting := state.reconnecting - 1 } true)
      (State.startConnection_stopsOnly { state with reconnecting := state.reconnecting - 1 } true)
      (fun listed => (show State.Listed { state with
        reconnecting := state.reconnecting - 1 } from listed).startConnection true)
  | stop =>
    obtain ⟨rfl, rfl⟩ := Prod.mk.inj (Option.some.inj stepped)
    exact .clients trivial (State.stop_ledger state) (State.stop_stopsOnly state)
      (fun listed => listed.stop)
  | invoke key abortable draws =>
    have invoked := Option.some.inj stepped
    have kind : Change state _ _ _ := .invoked key abortable draws
    rwa [invoked] at kind
  | sent call =>
    simp [step, Option.bind_eq_some_iff] at stepped
    obtain ⟨invocation, standing, sending, rfl, rfl⟩ := stepped
    exact .sent call invocation standing sending
  | sendFailed call =>
    simp [step, Option.bind_eq_some_iff] at stepped
    obtain ⟨invocation, standing, sending, rfl, rfl⟩ := stepped
    exact .sendFailed call invocation standing sending
  | abort call =>
    simp [step, Option.bind_eq_some_iff] at stepped
    obtain ⟨invocation, standing, signal, rfl, rfl⟩ := stepped
    exact .aborted call invocation standing signal
  | tick =>
    simp only [step] at stepped
    split at stepped
    · cases stepped
    · next call callback rest scheduled =>
      simp [Option.bind_eq_some_iff] at stepped
      obtain ⟨invocation, standing, rfl, rfl⟩ := stepped
      exact .ticked call callback rest invocation scheduled standing
  | ask call =>
    simp [step, Option.bind_eq_some_iff] at stepped
    obtain ⟨invocation, standing, hasBody, body, asked, rfl, rfl⟩ := stepped
    exact .asked call invocation body standing hasBody asked
  | wake call =>
    simp [step, Option.bind_eq_some_iff] at stepped
    obtain ⟨invocation, standing, body, woken, rfl, rfl⟩ := stepped
    exact .woken call invocation body standing woken

/-- A step that does not concern clients leaves them, and one that does keeps live clients in
the table. -/
theorem step_side {state next : State} {event : Event} {added : List Output}
    (stepped : connection.step state event = some (next, added)) :
    (event.OfClients ∧ (state.Listed → next.Listed)) ∨ next.side = state.side := by
  cases step_change stepped with
  | clients kind ledger stops listed => exact Or.inl ⟨kind, listed⟩
  | response client response => exact Or.inr (State.receive_side state response)
  | invoked key abortable draws => exact Or.inr (State.invoke_side state key abortable draws)
  | sent call invocation standing sending => exact Or.inr rfl
  | sendFailed call invocation standing sending =>
    exact Or.inr (State.sendFailed_side state call invocation)
  | aborted call invocation standing signal => exact Or.inr rfl
  | ticked call callback rest invocation scheduled standing =>
    exact Or.inr (State.tick_side state call callback rest invocation)
  | asked call invocation body standing hasBody asked => exact Or.inr rfl
  | woken call invocation body standing woken => exact Or.inr rfl

end WebPubSub.Tunnel
