import WebPubSub.Library.Ledger
import WebPubSub.Library.Machine

/-!
# The sockets of one sync client

`start` of `WebPubSubSyncClient` looks at `_ws` before it fetches its url and installs the new
socket after that; `stop` closes the socket it finds, and every socket writes the fields of
the client when it opens, closes or has a message. This is one client with every socket it
has created, each named by its place in the order of creation.

A fetch that ends in an error leaves no trace but that it is over. Messages are named by what
the client does with them; what they carry is left to the protocol of the documents.
-/

namespace WebPubSub.Sync.Lifecycle

/-- `readyState` of a socket. -/
inductive Socket where
  | connecting
  | opened
  | closing
  | closed
  deriving DecidableEq

/-- Neither `close` was called nor has the socket closed. -/
def Socket.live : Socket → Bool
  | .connecting => true
  | .opened => true
  | .closing => false
  | .closed => false

/-- What the client finds in a message. -/
inductive Received where
  /-- A system event, or a message for another client. -/
  | skipped
  | step1
  | step2
  | update
  | queryAwareness
  | awareness

/-- What the client sends. -/
inductive Sent where
  | joinGroup
  | init
  | sync
  | awareness

/-- The calls of the user, the ends of their fetches, the events of the sockets and the
timer. -/
inductive Event where
  | start
  | fetched
  | fetchFailed
  /-- The awareness of the client may have no local state. -/
  | onopen (index : Nat) (localState : Bool)
  | onmessage (index : Nat) (message : Received)
  | onclose (index : Nat)
  | stop
  | resync

/-- A message on a socket, or the exception of a socket that is not yet open. -/
inductive Output where
  | sent (index : Nat) (message : Sent)
  | thrown (index : Nat)

/-- The fields of a client, its sockets and the fetches under way. -/
structure State where
  /-- `_ws`. -/
  ws : Option Nat
  wsConnected : Bool
  synced : Bool
  sockets : List Socket
  /-- The calls of `start` that wait for their url. -/
  fetching : Nat
  /-- The last call was `stop`; no field of the source. -/
  stopped : Bool

def State.initial : State := ⟨none, false, false, [], 0, false⟩

/-- What belongs to the socket in use. -/
def State.current (state : State) : Option Nat × Bool × Bool :=
  (state.ws, state.wsConnected, state.synced)

/-- A socket of the client is live. -/
def State.live (state : State) (index : Nat) : Prop :=
  ∃ socket, state.sockets[index]? = some socket ∧ socket.live = true

/-- `client.ws?.send` for each message in turn: a closing socket drops it, and a socket that
is not yet open throws. -/
def State.send (state : State) (messages : List Sent) : List Output :=
  match state.ws with
  | some index =>
    if state.wsConnected then
      match state.sockets[index]? with
      | some .opened => messages.map (.sent index)
      | some .connecting => if messages.isEmpty then [] else [.thrown index]
      | _ => []
    else []
  | none => []

/-- The call of `start` up to its fetch. -/
def State.start (state : State) : State :=
  if state.wsConnected || state.ws.isSome then { state with stopped := false }
  else { state with fetching := state.fetching + 1, stopped := false }

/-- The rest of `start`: a new socket. -/
def State.fetched (state : State) : State :=
  { state with
    fetching := state.fetching - 1
    sockets := state.sockets ++ [.connecting]
    ws := some state.sockets.length
    wsConnected := false
    synced := false }

def State.onopen (state : State) (index : Nat) : State :=
  { state with sockets := state.sockets.set index .opened, wsConnected := true }

/-- `readMessage`, and the messages it answers. -/
def State.onmessage (state : State) : Received → State × List Sent
  | .step1 => (state, [.sync])
  | .step2 => ({ state with synced := true }, [])
  | .queryAwareness => (state, [.sync])
  | .skipped => (state, [])
  | .update => (state, [])
  | .awareness => (state, [])

def State.onclose (state : State) (index : Nat) : State :=
  { state with
    sockets := state.sockets.set index .closed
    ws := none
    wsConnected := false
    synced := if state.wsConnected then false else state.synced }

/-- `close` of a socket. -/
def Socket.close : Socket → Socket
  | .connecting => .closing
  | .opened => .closing
  | .closing => .closing
  | .closed => .closed

def State.stop (state : State) : State :=
  match state.ws with
  | some index => { state with
      sockets := state.sockets.modify index Socket.close
      stopped := true }
  | none => { state with stopped := true }

/-- One client. A connecting socket opens, an open one has messages until it is closed, and
a socket that is not closed may close. -/
def lifecycle : Machine State Event Output where
  step state
    | .start => some (state.start, [])
    | .fetched => if 0 < state.fetching then some (state.fetched, []) else none
    | .fetchFailed =>
      if 0 < state.fetching then some ({ state with fetching := state.fetching - 1 }, []) else none
    | .onopen index localState =>
      match state.sockets[index]? with
      | some .connecting =>
        let next := state.onopen index
        some (next, next.send (if localState then [.joinGroup, .init, .awareness]
          else [.joinGroup, .init]))
      | _ => none
    | .onmessage index message =>
      match state.sockets[index]? with
      | some .opened | some .closing =>
        let (next, answers) := state.onmessage message
        some (next, next.send answers)
      | _ => none
    | .onclose index =>
      match state.sockets[index]? with
      | some .connecting | some .opened | some .closing => some (state.onclose index, [])
      | _ => none
    | .stop => some (state.stop, [])
    | .resync => some (state, if state.ws.isSome then state.send [.sync] else [])

/-- The socket of an event. -/
def Event.socket : Event → Option Nat
  | .onopen index _ => some index
  | .onmessage index _ => some index
  | .onclose index => some index
  | _ => none

/-- The sockets of a client are in order: at most one is live, none is after a stop with no
fetch under way, and the events of an older one leave the fields of the client alone. -/
structure Orderly (state : State) : Prop where
  single : ∀ first second, state.live first → state.live second → first = second
  older : ∀ event next outputs index, event.socket = some index →
    index + 1 < state.sockets.length → lifecycle.step state event = some (next, outputs) →
      next.current = state.current
  ended : state.stopped = true → state.fetching = 0 → ∀ index, ¬ state.live index

/-- A fetch ends with a socket only when every older socket is closed and the last call was
not a stop. -/
def Awaited (state : State) : Event → Prop
  | .fetched => state.stopped = false ∧ ∀ socket ∈ state.sockets, socket = .closed
  | _ => True

instance (state : State) (event : Event) : Decidable (Awaited state event) := by
  cases event <;> unfold Awaited <;> infer_instance

/-! ## The socket in use -/

/-- Every socket but the last is closed; the last is the one in use until it closes, and no
socket is live after a stop. -/
structure Held (state : State) : Prop where
  retired : ∀ index socket, state.sockets[index]? = some socket →
    index + 1 < state.sockets.length → socket = .closed
  used : ∀ index socket, state.sockets[index]? = some socket → socket ≠ .closed →
    state.ws = some index
  stopped : state.stopped = true → ∀ socket ∈ state.sockets, socket.live = false

theorem initial_held : Held State.initial := by
  constructor
  · intro index socket standing
    cases standing
  · intro index socket standing
    cases standing
  · intro stopped
    cases stopped

section Steps

variable {state : State}

/-- A socket that is not closed is the last, and the only one. -/
theorem Held.last (held : Held state) {index : Nat} {socket : Socket}
    (standing : state.sockets[index]? = some socket) (stands : socket ≠ .closed) :
    ∀ other after, state.sockets[other]? = some after → other ≠ index →
      other + 1 < state.sockets.length ∧ after = .closed := by
  intro other after found apart
  have bounded : index < state.sockets.length := (List.getElem?_eq_some_iff.mp standing).1
  have within : other < state.sockets.length := (List.getElem?_eq_some_iff.mp found).1
  have final : ¬ index + 1 < state.sockets.length := by
    intro older
    exact stands (held.retired index socket standing older)
  have older : other + 1 < state.sockets.length := by omega
  exact ⟨older, held.retired other after found older⟩

/-- The last socket changes, and stays in use until it is closed. -/
theorem Held.change (held : Held state) {index : Nat} {before after : Socket}
    (standing : state.sockets[index]? = some before) (stands : before ≠ .closed)
    {ws : Option Nat} {wsConnected synced stopped : Bool}
    (uses : after ≠ .closed → ws = state.ws)
    (rests : stopped = true → after.live = false) :
    Held ⟨ws, wsConnected, synced, state.sockets.set index after, state.fetching, stopped⟩ := by
  have others (other : Nat) (socket : Socket) (apart : other ≠ index)
      (found : state.sockets[other]? = some socket) : socket = .closed :=
    (held.last standing stands other socket found apart).2
  constructor
  · intro other socket found older
    rcases Ledger.getElem?_set_cases found with ⟨rfl, rfl⟩ | ⟨apart, old⟩
    · rw [List.length_set] at older
      exact absurd (held.retired other before standing older) stands
    · exact others other socket apart old
  · intro other socket found remains
    rcases Ledger.getElem?_set_cases found with ⟨rfl, rfl⟩ | ⟨apart, old⟩
    · exact (uses remains).trans (held.used other before standing stands)
    · exact absurd (others other socket apart old) remains
  · intro stops socket member
    obtain ⟨other, found⟩ := List.mem_iff_getElem?.mp member
    rcases Ledger.getElem?_set_cases found with ⟨-, rfl⟩ | ⟨apart, old⟩
    · exact rests stops
    · rw [others other socket apart old]
      rfl

/-- What does not touch the sockets keeps them. -/
theorem Held.same (held : Held state) {wsConnected synced stopped : Bool} {fetching : Nat}
    (rests : stopped = true → state.stopped = true) :
    Held ⟨state.ws, wsConnected, synced, state.sockets, fetching, stopped⟩ := by
  constructor
  · exact held.retired
  · exact held.used
  · intro stops
    exact held.stopped (rests stops)

/-- A new socket takes the place of closed ones. -/
theorem fetched_held (awaited : Awaited state .fetched) :
    Held state.fetched := by
  obtain ⟨going, closed⟩ := awaited
  have cases (index : Nat) (socket : Socket) (found : state.fetched.sockets[index]? = some socket) :
      index = state.sockets.length ∨ socket = .closed := by
    rcases Ledger.getElem?_concat_cases found with ⟨last, -⟩ | old
    · exact Or.inl last
    · exact Or.inr (closed socket (List.mem_of_getElem? old))
  constructor
  · intro index socket found older
    have length : state.fetched.sockets.length = state.sockets.length + 1 := by
      simp [State.fetched]
    exact (cases index socket found).resolve_left (by omega)
  · intro index socket found remains
    have last := (cases index socket found).resolve_right remains
    rw [last]
    rfl
  · intro stopped
    have still : state.stopped = true := stopped
    rw [going] at still
    cases still

/-- A closed socket is not live, and close leaves it closed. -/
theorem close_spec (socket : Socket) :
    socket.close.live = false ∧ (socket.close = .closed ↔ socket = .closed) := by
  cases socket with
  | connecting => simp [Socket.close, Socket.live]
  | opened => simp [Socket.close, Socket.live]
  | closing => simp [Socket.close, Socket.live]
  | closed => simp [Socket.close, Socket.live]

/-- The stop closes the socket in use. -/
theorem Held.stop (held : Held state) : Held state.stop := by
  unfold State.stop
  split
  · rename_i index inUse
    -- each socket after the stop comes from the one at its place
    have origin (other : Nat) (socket : Socket)
        (found : (state.sockets.modify index Socket.close)[other]? = some socket) :
        ∃ before, state.sockets[other]? = some before ∧
          socket = if index = other then before.close else before := by
      rw [List.getElem?_modify] at found
      obtain ⟨before, standing, same⟩ := Option.map_eq_some_iff.mp found
      exact ⟨before, standing, same.symm⟩
    constructor
    · intro other socket found older
      rw [List.length_modify] at older
      obtain ⟨before, standing, rfl⟩ := origin other socket found
      have closed := held.retired other before standing older
      split
      · exact (close_spec before).2.mpr closed
      · exact closed
    · intro other socket found remains
      obtain ⟨before, standing, rfl⟩ := origin other socket found
      apply held.used other before standing
      rintro rfl
      simp [Socket.close] at remains
    · intro _ socket member
      obtain ⟨other, found⟩ := List.mem_iff_getElem?.mp member
      obtain ⟨before, standing, rfl⟩ := origin other socket found
      split
      · exact (close_spec before).1
      · rename_i apart
        by_cases closed : before = .closed
        · rw [closed]
          rfl
        · have used := held.used other before standing closed
          rw [inUse] at used
          exact absurd (Option.some.inj used) apart
  · rename_i none
    constructor
    · exact held.retired
    · exact held.used
    · intro _ socket member
      obtain ⟨index, found⟩ := List.mem_iff_getElem?.mp member
      by_cases closed : socket = .closed
      · rw [closed]
        rfl
      · rw [held.used index socket found closed] at none
        cases none

/-- Every step that meets the condition keeps the sockets in order. -/
theorem Held.step (held : Held state) {event : Event} {next : State} {outputs : List Output}
    (awaited : Awaited state event) (stepped : lifecycle.step state event = some (next, outputs)) :
    Held next := by
  cases event with
  | start =>
    cases stepped
    unfold State.start
    split
    · exact held.same (by simp)
    · exact held.same (by simp)
  | fetched =>
    simp only [lifecycle] at stepped
    split at stepped
    · cases stepped
      exact fetched_held awaited
    · cases stepped
  | fetchFailed =>
    simp only [lifecycle] at stepped
    split at stepped
    · cases stepped
      exact held.same id
    · cases stepped
  | onopen index localState =>
    simp only [lifecycle] at stepped
    split at stepped
    · rename_i connecting
      cases stepped
      apply held.change connecting
      · simp
      · intro _
        rfl
      · intro stopped
        cases held.stopped stopped _ (List.mem_of_getElem? connecting)
    · cases stepped
  | onmessage index message =>
    simp only [lifecycle] at stepped
    have same : Held (state.onmessage message).1 := by
      cases message with
      | step2 => exact held.same id
      | skipped => exact held
      | step1 => exact held
      | update => exact held
      | queryAwareness => exact held
      | awareness => exact held
    split at stepped
    · cases stepped
      exact same
    · cases stepped
      exact same
    · cases stepped
  | onclose index =>
    simp only [lifecycle] at stepped
    have closes {before : Socket} (standing : state.sockets[index]? = some before)
        (stands : before ≠ .closed) : Held (state.onclose index) := by
      apply held.change standing stands
      · intro remains
        exact absurd rfl remains
      · intro _
        rfl
    split at stepped
    · rename_i standing
      cases stepped
      exact closes standing (by simp)
    · rename_i standing
      cases stepped
      exact closes standing (by simp)
    · rename_i standing
      cases stepped
      exact closes standing (by simp)
    · cases stepped
  | stop =>
    cases stepped
    exact held.stop
  | resync =>
    cases stepped
    exact held

end Steps

/-- A closed socket has no events. -/
theorem event_socket {state next : State} {event : Event} {outputs : List Output} {index : Nat}
    (named : event.socket = some index)
    (stepped : lifecycle.step state event = some (next, outputs)) :
    ∃ socket, state.sockets[index]? = some socket ∧ socket ≠ .closed := by
  cases event with
  | onopen other localState =>
    cases named
    simp only [lifecycle] at stepped
    split at stepped
    · rename_i connecting
      exact ⟨_, connecting, by simp⟩
    · cases stepped
  | onmessage other message =>
    cases named
    simp only [lifecycle] at stepped
    split at stepped
    · rename_i standing
      exact ⟨_, standing, by simp⟩
    · rename_i standing
      exact ⟨_, standing, by simp⟩
    · cases stepped
  | onclose other =>
    cases named
    simp only [lifecycle] at stepped
    split at stepped
    · rename_i standing
      exact ⟨_, standing, by simp⟩
    · rename_i standing
      exact ⟨_, standing, by simp⟩
    · rename_i standing
      exact ⟨_, standing, by simp⟩
    · cases stepped
  | start => cases named
  | fetched => cases named
  | fetchFailed => cases named
  | stop => cases named
  | resync => cases named

/-- Sockets in order keep the client in order. -/
theorem Held.orderly {state : State} (held : Held state) : Orderly state := by
  constructor
  · rintro first second ⟨socket, found, live⟩ ⟨other, stood, lives⟩
    have standing : socket ≠ .closed := by
      rintro rfl
      cases live
    have stands : other ≠ .closed := by
      rintro rfl
      cases lives
    have used := held.used first socket found standing
    rw [held.used second other stood stands] at used
    exact (Option.some.inj used).symm
  · intro event next outputs index named older stepped
    obtain ⟨socket, found, remains⟩ := event_socket named stepped
    exact absurd (held.retired index socket found older) remains
  · rintro stopped - index ⟨socket, found, live⟩
    rw [held.stopped stopped socket (List.mem_of_getElem? found)] at live
    cases live

/-- A new socket beside one that is not closed, or after a stop as the last of the fetches,
leaves the client out of order. -/
theorem fetched_disorderly {state : State} (ends : state.stopped = true → state.fetching = 1)
    (unawaited : ¬ Awaited state .fetched) : ¬ Orderly state.fetched := by
  intro orderly
  cases stopped : state.stopped with
  | true =>
    have last : state.fetched.fetching = 0 := by
      simp [State.fetched, ends stopped]
    apply orderly.ended stopped last state.sockets.length
    exact ⟨.connecting, by simp [State.fetched], rfl⟩
  | false =>
    have beside : ∃ socket ∈ state.sockets, socket ≠ .closed := by
      by_contra none
      apply unawaited
      refine ⟨stopped, ?_⟩
      intro socket member
      by_contra remains
      exact none ⟨socket, member, remains⟩
    obtain ⟨socket, member, remains⟩ := beside
    obtain ⟨index, standing⟩ := List.mem_iff_getElem?.mp member
    have bounded : index < state.sockets.length := (List.getElem?_eq_some_iff.mp standing).1
    have found : state.fetched.sockets[index]? = some socket := by
      exact Ledger.getElem?_append_of_some standing _
    -- the older socket closes and takes the new one from the client
    have closes : lifecycle.step state.fetched (.onclose index) =
        some (state.fetched.onclose index, []) := by
      simp only [lifecycle, found]
      cases socket with
      | connecting => rfl
      | opened => rfl
      | closing => rfl
      | closed => exact absurd rfl remains
    have older : index + 1 < state.fetched.sockets.length := by
      simp only [State.fetched, List.length_append, List.length_singleton]
      omega
    have same := orderly.older _ _ _ index rfl older closes
    cases congrArg Prod.fst same

/-- In every run whose fetches end only with every older socket closed and after a start, the
client is in order in every state. The first fetch to end otherwise breaks the order, unless
it ends after a stop with another one under way. -/
theorem lifecycle_orderly {events : List Event} {state : State} {outputs : List Output}
    (awaited : lifecycle.Meets Awaited State.initial events)
    (ran : lifecycle.run State.initial events = some (state, outputs)) :
    Orderly state ∧ ∀ next added, lifecycle.step state .fetched = some (next, added) →
      (state.stopped = true → state.fetching = 1) → ¬ Awaited state .fetched →
        ¬ Orderly next := by
  have held : Held state := by
    apply Machine.run_induction_meets lifecycle (fun _ _ state => Held state) _ _ awaited ran
    · exact initial_held
    · intro before outputs state event next added _ held meets stepped
      exact held.step meets stepped
  constructor
  · exact held.orderly
  · intro next added stepped ends unawaited
    simp only [lifecycle] at stepped
    split at stepped
    · cases stepped
      exact fetched_disorderly ends unawaited
    · cases stepped

/-- A start that is stopped once its socket is there, and a second start after that. -/
theorem lifecycle_orderly_restarted :
    ∃ state outputs, lifecycle.run State.initial [.start, .fetched, .onopen 0 true, .stop, .start,
        .onclose 0, .start, .fetched, .onopen 1 true, .onmessage 1 .step2, .stop] =
          some (state, outputs) ∧
      state.sockets = [.closed, .closing] ∧ Orderly state := by
  let events : List Event := [.start, .fetched, .onopen 0 true, .stop, .start, .onclose 0, .start,
    .fetched, .onopen 1 true, .onmessage 1 .step2, .stop]
  have awaited : lifecycle.Meets Awaited State.initial events := by decide +kernel
  have completes : (lifecycle.run State.initial events).isSome = true := by decide +kernel
  have sockets : (lifecycle.run State.initial events).all (fun result =>
      result.1.sockets = [.closed, .closing]) = true := by decide +kernel
  obtain ⟨⟨state, outputs⟩, ran⟩ := Option.isSome_iff_exists.mp completes
  rw [ran, Option.all_some, decide_eq_true_eq] at sockets
  exact ⟨state, outputs, ran, sockets, (lifecycle_orderly awaited ran).1⟩

/-- Two calls of `start` in one fetch make two live sockets, of which the older one takes the
newer one from the client; a stop in a fetch leaves its socket live. -/
theorem lifecycle_disorderly :
    (∃ state outputs, lifecycle.run State.initial [.start, .start, .fetched, .fetched] =
        some (state, outputs) ∧ state.live 0 ∧ state.live 1 ∧
      ∃ next, lifecycle.step state (.onclose 0) = some (next, []) ∧
        state.ws = some 1 ∧ next.ws = none ∧ next.live 1) ∧
    ∃ state outputs, lifecycle.run State.initial [.start, .stop, .fetched] =
        some (state, outputs) ∧ state.stopped = true ∧ state.fetching = 0 ∧ state.live 0 := by
  constructor
  · refine ⟨_, _, rfl, ⟨_, rfl, rfl⟩, ⟨_, rfl, rfl⟩, _, rfl, rfl, rfl, ⟨_, rfl, rfl⟩⟩
  · refine ⟨_, _, rfl, rfl, rfl, ⟨_, rfl, rfl⟩⟩

end WebPubSub.Sync.Lifecycle
