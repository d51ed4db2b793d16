import WebPubSub.Adapter.Membership

/-!
# Turns at the mutex

The unfinished operations of a socket, in the order of their calls, are exactly the
queue of its mutex, and only the one that holds the mutex has gone past waiting for
it. So the operations of one socket run one after the other in call order, and
whatever an operation meets, the mutex it took is handed on when it ends.

Beside the turns stand the identities: a socket keeps the connection it came with,
no two sockets share one, and an operation that awaits the service has asked for
the connection of its own socket.
-/

namespace WebPubSub.Adapter.Membership

/-- The operation has ended. -/
def Phase.isFinished : Phase → Bool
  | .finished _ => true
  | _ => false

/-- An unfinished operation of a socket. -/
def Operation.pending (id : Text) (operation : Operation) : Bool :=
  decide (operation.call.socket = some id) && !operation.phase.isFinished

/-! ## The parts of a state -/

namespace State

variable (state : State)

@[simp]
theorem operations_enter (call : Call) (phase : Phase) :
    (state.enter call phase).operations = state.operations ++ [⟨call, phase, []⟩] := by
  rw [enter]
  cases call.socket <;> rfl

@[simp]
theorem memory_enter (call : Call) (phase : Phase) :
    (state.enter call phase).memory = state.memory := by
  rw [enter]
  cases call.socket <;> rfl

@[simp]
theorem sockets_enter (call : Call) (phase : Phase) :
    (state.enter call phase).sockets = state.sockets := by
  rw [enter]
  cases call.socket <;> rfl

@[simp]
theorem known_enter (call : Call) (phase : Phase) :
    (state.enter call phase).known = state.known := by
  rw [enter]
  cases call.socket <;> rfl

@[simp]
theorem service_enter (call : Call) (phase : Phase) :
    (state.enter call phase).service = state.service := by
  rw [enter]
  cases call.socket <;> rfl

@[simp]
theorem lock_setLock (id other : Text) (mutex : Mutex Nat) :
    (state.setLock id mutex).lock other = if other = id then mutex else state.lock other := by
  by_cases same : other = id
  · subst same
    simp [lock, setLock]
  · simp [lock, setLock, same, AList.lookup_insert_ne same]

/-- Entering asks for the mutex of the call's socket and for no other. -/
theorem tickets_enter (call : Call) (phase : Phase) (id : Text) :
    ((state.enter call phase).lock id).tickets = (state.lock id).tickets ++
      (if call.socket = some id then [state.operations.length] else []) := by
  rw [enter]
  cases own : call.socket with
  | none => exact (List.append_nil _).symm
  | some other =>
    by_cases same : id = other
    · subst same
      simp
    · have different : ¬ some other = some id := fun equal => same (Option.some.inj equal).symm
      rw [lock_setLock, if_neg same, if_neg different, List.append_nil]
      rfl

@[simp]
theorem operations_amend (number : Nat) (operation : Operation) :
    (state.amend number operation).operations = state.operations.set number operation := rfl

@[simp]
theorem sockets_amend (number : Nat) (operation : Operation) :
    (state.amend number operation).sockets = state.sockets := rfl

@[simp]
theorem known_amend (number : Nat) (operation : Operation) :
    (state.amend number operation).known = state.known := rfl

@[simp]
theorem operations_finish (number : Nat) (operation : Operation) (ok : Bool) (memory : InMemory) :
    (state.finish number operation ok memory).operations =
      state.operations.set number { operation with phase := .finished ok } := by
  rw [finish]
  cases operation.call.socket <;> rfl

@[simp]
theorem memory_finish (number : Nat) (operation : Operation) (ok : Bool) (memory : InMemory) :
    (state.finish number operation ok memory).memory = memory := by
  rw [finish]
  cases operation.call.socket <;> rfl

@[simp]
theorem sockets_finish (number : Nat) (operation : Operation) (ok : Bool) (memory : InMemory) :
    (state.finish number operation ok memory).sockets = state.sockets := by
  rw [finish]
  cases operation.call.socket <;> rfl

@[simp]
theorem known_finish (number : Nat) (operation : Operation) (ok : Bool) (memory : InMemory) :
    (state.finish number operation ok memory).known = state.known := by
  rw [finish]
  cases operation.call.socket <;> rfl

@[simp]
theorem service_finish (number : Nat) (operation : Operation) (ok : Bool) (memory : InMemory) :
    (state.finish number operation ok memory).service = state.service := by
  rw [finish]
  cases operation.call.socket <;> rfl

/-- Finishing releases the mutex of the call's socket and no other. -/
theorem tickets_finish (number : Nat) (operation : Operation) (ok : Bool) (memory : InMemory)
    (id : Text) :
    ((state.finish number operation ok memory).lock id).tickets =
      if operation.call.socket = some id then (state.lock id).tickets.tail
      else (state.lock id).tickets := by
  rw [finish]
  cases own : operation.call.socket with
  | none => rfl
  | some other =>
    by_cases same : id = other
    · subst same
      simp only [lock_setLock, if_true, Mutex.tickets_release]
      rfl
    · have different : ¬ some other = some id := fun equal => same (Option.some.inj equal).symm
      rw [lock_setLock, if_neg same, if_neg different]
      rfl

/-- The operations that several calls add. -/
theorem operations_enterAll (calls : List Call) :
    (state.enterAll calls).operations =
      state.operations ++ calls.map (fun call => ⟨call, .waiting, []⟩) := by
  induction calls generalizing state with
  | nil => simp [enterAll]
  | cons call rest inductionHypothesis =>
    have unfolded : state.enterAll (call :: rest) = (state.enter call .waiting).enterAll rest := rfl
    rw [unfolded, inductionHypothesis, operations_enter, List.map_cons, List.append_assoc]
    rfl

/-- Calling methods changes nothing but the operations and the mutexes. -/
theorem enterAll_frame (calls : List Call) :
    (state.enterAll calls).memory = state.memory ∧ (state.enterAll calls).sockets = state.sockets ∧
      (state.enterAll calls).known = state.known ∧
      (state.enterAll calls).service = state.service := by
  induction calls generalizing state with
  | nil => exact ⟨rfl, rfl, rfl, rfl⟩
  | cons call rest inductionHypothesis =>
    have unfolded : state.enterAll (call :: rest) = (state.enter call .waiting).enterAll rest := rfl
    rw [unfolded]
    simpa using inductionHypothesis (state.enter call .waiting)

@[simp]
theorem memory_enterAll (calls : List Call) : (state.enterAll calls).memory = state.memory :=
  (state.enterAll_frame calls).1

@[simp]
theorem sockets_enterAll (calls : List Call) : (state.enterAll calls).sockets = state.sockets :=
  (state.enterAll_frame calls).2.1

@[simp]
theorem known_enterAll (calls : List Call) : (state.enterAll calls).known = state.known :=
  (state.enterAll_frame calls).2.2.1

@[simp]
theorem service_enterAll (calls : List Call) : (state.enterAll calls).service = state.service :=
  (state.enterAll_frame calls).2.2.2

end State

/-- The calls that a bulk operation makes are `addAll` and `del`. -/
theorem triggered_cases {call made : Call} {ok : Bool} {memory : InMemory}
    {connected : List Text} (member : made ∈ call.triggered super ok memory connected) :
    ok = true ∧ ((∃ opts rooms id, call = .addSockets opts rooms ∧
        id ∈ super.apply memory connected opts ∧ made = .addAll id (.ofList rooms)) ∨
      ∃ opts rooms id room, call = .delSockets opts rooms ∧
        id ∈ super.apply memory connected opts ∧ room ∈ rooms ∧ made = .del id room) := by
  cases ok with
  | false => cases call <;> simp [Call.triggered] at member
  | true =>
    refine ⟨rfl, ?_⟩
    cases call with
    | addSockets opts rooms =>
      simp only [Call.triggered, if_true, List.mem_map] at member
      obtain ⟨id, selected, rfl⟩ := member
      exact Or.inl ⟨opts, rooms, id, rfl, selected, rfl⟩
    | delSockets opts rooms =>
      simp only [Call.triggered, if_true, List.mem_flatMap, List.mem_map] at member
      obtain ⟨id, selected, room, listed, rfl⟩ := member
      exact Or.inr ⟨opts, rooms, id, room, rfl, selected, listed, rfl⟩
    | addAll id rooms => simp [Call.triggered] at member
    | del id room => simp [Call.triggered] at member
    | delAll id => simp [Call.triggered] at member

/-- So each of them takes the mutex of a socket. -/
theorem triggered_socket {call made : Call} {ok : Bool} {memory : InMemory}
    {connected : List Text} (member : made ∈ call.triggered super ok memory connected) :
    ∃ id, made.socket = some id := by
  obtain ⟨-, ⟨opts, rooms, id, rfl, -, rfl⟩ | ⟨opts, rooms, id, room, rfl, -, -, rfl⟩⟩ :=
    triggered_cases member
  · exact ⟨id, rfl⟩
  · exact ⟨id, rfl⟩

/-! ## Turns -/

/-- The queue of every mutex is the list of the unfinished operations of its socket; an
unfinished operation past its wait holds the mutex; and all operations of the socket
before one that is past its wait have ended. -/
structure Turns (state : State) : Prop where
  queue : ∀ id, (state.lock id).tickets =
    Ledger.selected (Operation.pending id) state.operations
  turn : ∀ (number : Nat) (operation : Operation) (id : Text),
    state.operations[number]? = some operation →
    operation.call.socket = some id → operation.phase ≠ .waiting →
    operation.phase.isFinished = false → (state.lock id).holder = some number
  order : ∀ (number : Nat) (operation : Operation) (other : Nat) (earlier : Operation) (id : Text),
    state.operations[number]? = some operation →
    operation.call.socket = some id → operation.phase ≠ .waiting →
    state.operations[other]? = some earlier → earlier.call.socket = some id → other < number →
    earlier.phase.isFinished = true

theorem turns_initial : Turns State.initial where
  queue _ := rfl
  turn _ _ _ found := by simp [State.initial] at found
  order _ _ _ _ _ found := by simp [State.initial] at found

namespace Turns

variable {state : State}

/-- Before the holder of a mutex, every operation of the socket has ended. -/
theorem ended_before (turns : Turns state) {number : Nat} {id : Text}
    (held : (state.lock id).holder = some number) {other : Nat} {earlier : Operation}
    (before : other < number) (found : state.operations[other]? = some earlier)
    (own : earlier.call.socket = some id) : earlier.phase.isFinished = true := by
  by_contra unfinished
  have first : (Ledger.selected (Operation.pending id) state.operations).head? = some number := by
    rw [← turns.queue, ← Mutex.holder_eq_head]
    exact held
  have member : other ∈ Ledger.selected (Operation.pending id) state.operations := by
    rw [Ledger.mem_selected]
    exact ⟨earlier, found, by simp [Operation.pending, own, unfinished]⟩
  have least := Ledger.head_le _ _ first member
  omega

/-- After the holder of a mutex, every operation of the socket still waits. -/
theorem waits_after (turns : Turns state) {number : Nat} {holder : Operation} {id : Text}
    (located : state.operations[number]? = some holder) (holds : holder.call.socket = some id)
    (pending : holder.phase.isFinished = false) {other : Nat} {later : Operation}
    (beyond : number < other) (found : state.operations[other]? = some later)
    (own : later.call.socket = some id) : later.phase = .waiting := by
  by_contra past
  have ended := turns.order other later number holder id found own past located holds beyond
  rw [pending] at ended
  contradiction

/-- A call joins the queue of its socket. -/
theorem enter (turns : Turns state) (call : Call) (phase : Phase)
    (begins : phase.isFinished = false) (waits : phase = .waiting ∨ call.socket = none) :
    Turns (state.enter call phase) := by
  have cases (number : Nat) (operation : Operation) (id : Text)
      (found : (state.operations ++ [⟨call, phase, []⟩])[number]? = some operation)
      (own : operation.call.socket = some id) :
      state.operations[number]? = some operation ∨
        number = state.operations.length ∧ operation.phase = .waiting := by
    rcases Ledger.getElem?_concat_cases found with ⟨last, rfl⟩ | old
    · cases waits with
      | inl waiting => exact Or.inr ⟨last, waiting⟩
      | inr bulk => simp [bulk] at own
    · exact Or.inl old
  constructor
  case queue =>
    intro id
    rw [State.tickets_enter, State.operations_enter, Ledger.selected_append, turns.queue]
    simp [Operation.pending, begins]
  case turn =>
    intro number operation id found own past unfinished
    rw [State.operations_enter] at found
    rcases cases number operation id found own with old | ⟨-, waiting⟩
    · have held := turns.turn number operation id old own past unfinished
      rw [Mutex.holder_eq_head] at held ⊢
      rw [State.tickets_enter, List.head?_append, held]
      rfl
    · exact absurd waiting past
  case order =>
    intro number operation other earlier id found own past before ownEarlier less
    rw [State.operations_enter] at found before
    rcases cases number operation id found own with old | ⟨-, waiting⟩
    · have bound := (List.getElem?_eq_some_iff.mp old).1
      rw [List.getElem?_append_left (by omega)] at before
      exact turns.order number operation other earlier id old own past before ownEarlier less
    · exact absurd waiting past

theorem enterAll (turns : Turns state) (calls : List Call) : Turns (state.enterAll calls) := by
  induction calls generalizing state with
  | nil => exact turns
  | cons call rest inductionHypothesis =>
    exact inductionHypothesis (turns.enter call .waiting rfl (Or.inl rfl))

/-- After an operation whose turn it is has moved on or ended, the order still holds. -/
theorem order_set (turns : Turns state) {number : Nat} {old : Operation}
    (found : state.operations[number]? = some old) (pending : old.phase.isFinished = false)
    (operation : Operation) (same : operation.call = old.call)
    (held : ∀ id, old.call.socket = some id → (state.lock id).holder = some number)
    {later other : Nat} {moved earlier : Operation} {id : Text}
    (located : (state.operations.set number operation)[later]? = some moved)
    (own : moved.call.socket = some id) (past : moved.phase ≠ .waiting)
    (before : (state.operations.set number operation)[other]? = some earlier)
    (ownEarlier : earlier.call.socket = some id) (less : other < later) :
    earlier.phase.isFinished = true := by
  rcases Ledger.getElem?_set_cases located with ⟨rfl, rfl⟩ | ⟨-, old⟩
  · rcases Ledger.getElem?_set_cases before with ⟨rfl, -⟩ | ⟨-, old⟩
    · exact absurd less (Nat.lt_irrefl _)
    · exact turns.ended_before (held id (same ▸ own)) less old ownEarlier
  · rcases Ledger.getElem?_set_cases before with ⟨rfl, rfl⟩ | ⟨-, standing⟩
    · have waiting := turns.waits_after found (same ▸ ownEarlier) pending less old own
      exact absurd waiting past
    · exact turns.order later moved other earlier id old own past standing ownEarlier less

/-- An operation whose turn it is moves on. -/
theorem amend (turns : Turns state) {number : Nat} {old : Operation}
    (found : state.operations[number]? = some old) (pending : old.phase.isFinished = false)
    (operation : Operation) (same : operation.call = old.call)
    (continues : operation.phase.isFinished = false)
    (held : ∀ id, old.call.socket = some id → (state.lock id).holder = some number) :
    Turns (state.amend number operation) where
  queue id := by
    have kept : Operation.pending id operation = Operation.pending id old := by
      simp [Operation.pending, same, pending, continues]
    rw [State.operations_amend, Ledger.selected_set_of_same _ found kept]
    exact turns.queue id
  turn other entry id located own past unfinished := by
    rcases Ledger.getElem?_set_cases located with ⟨rfl, rfl⟩ | ⟨-, old⟩
    · exact held id (same ▸ own)
    · exact turns.turn other entry id old own past unfinished
  order _ _ _ _ _ located own past before ownEarlier less :=
    turns.order_set found pending operation same held located own past before ownEarlier less

/-- An operation whose turn it is ends and hands the mutex on. -/
theorem finish (turns : Turns state) {number : Nat} {operation : Operation}
    (found : state.operations[number]? = some operation)
    (pending : operation.phase.isFinished = false)
    (held : ∀ id, operation.call.socket = some id → (state.lock id).holder = some number)
    (ok : Bool) (memory : InMemory) : Turns (state.finish number operation ok memory) where
  queue id := by
    have ended : Operation.pending id { operation with phase := .finished ok } = false := by
      simp [Operation.pending, Phase.isFinished]
    rw [State.tickets_finish, State.operations_finish]
    by_cases own : operation.call.socket = some id
    · have first : (Ledger.selected (Operation.pending id) state.operations).head? =
          some number := by
        rw [← turns.queue, ← Mutex.holder_eq_head]
        exact held id own
      rw [if_pos own, turns.queue, Ledger.selected_set_of_head _ _ _ ended first]
    · have other : Operation.pending id operation = false := by simp [Operation.pending, own]
      rw [if_neg own, turns.queue, Ledger.selected_set_of_same _ found (ended.trans other.symm)]
  turn other entry id located own past unfinished := by
    rw [State.operations_finish] at located
    rcases Ledger.getElem?_set_cases located with ⟨-, rfl⟩ | ⟨here, old⟩
    · simp [Phase.isFinished] at unfinished
    · have kept := turns.turn other entry id old own past unfinished
      have different : operation.call.socket ≠ some id := by
        intro same
        exact here (Option.some.inj (kept.symm.trans (held id same)))
      rw [Mutex.holder_eq_head] at kept ⊢
      rw [State.tickets_finish, if_neg different]
      exact kept
  order _ _ _ _ _ located own past before ownEarlier less := by
    rw [State.operations_finish] at located before
    exact turns.order_set found pending { operation with phase := .finished ok } rfl held located
      own past before ownEarlier less

section Run

variable {super : InMemoryAdapter} {base64url : Base64Url} {nsp : Text}
  {getSingleEioEncodedPayload : SioPacket Unit → Option Text} {kept : List Text}

/-- Every step keeps the turns. -/
theorem step (turns : Turns state) {event : Event} {next : State} {outputs : List Output}
    (stepped : Step super base64url nsp getSingleEioEncodedPayload kept state event next outputs) :
    Turns next := by
  cases stepped with
  | connect id eioSid newId single => exact ⟨turns.queue, turns.turn, turns.order⟩
  | callSocket call id own => exact turns.enter call .waiting rfl (Or.inl rfl)
  | callBulk call request bulk asked => exact turns.enter call (.calling request) rfl (Or.inr bulk)
  | disconnect id present =>
    have entered := turns.enter (.delAll id) .waiting rfl (Or.inl rfl)
    exact ⟨entered.queue, entered.turn, entered.order⟩
  | lockedAsks number operation id request found own waited held asked =>
    have pending : operation.phase.isFinished = false := by rw [waited]; rfl
    apply turns.amend found pending
    · rfl
    · rfl
    · intro other same
      rw [own] at same
      exact Option.some.inj same ▸ held
  | lockedSilent number operation id found leaving waited held =>
    have pending : operation.phase.isFinished = false := by rw [waited]; rfl
    apply turns.amend found pending
    · rfl
    · rfl
    · intro other same
      rw [leaving] at same
      exact Option.some.inj same ▸ held
  | lockedThrows number operation id found own waited held staying unfound =>
    apply turns.finish found (by rw [waited]; rfl)
    intro other same
    rw [own] at same
    exact Option.some.inj same ▸ held
  | answered number ok operation request found called service effect =>
    have pending : operation.phase.isFinished = false := by rw [called]; rfl
    have moved : Turns (state.amend number
        { operation with phase := .answered ok, changed := changes state.service service }) := by
      apply turns.amend found pending
      · rfl
      · rfl
      · intro id own
        exact turns.turn number operation id found own (by rw [called]; nofun) pending
    exact ⟨moved.queue, moved.turn, moved.order⟩
  | resumed number ok operation found answer =>
    have pending : operation.phase.isFinished = false := by rw [answer]; rfl
    apply enterAll
    apply turns.finish found pending
    intro id own
    exact turns.turn number operation id found own (by rw [answer]; nofun) pending

/-- In every reachable state the turns hold. -/
theorem reachable (reached : (machine super base64url nsp getSingleEioEncodedPayload kept).Reachable
    State.initial state) : Turns state :=
  Machine.invariant_reachable _ Turns
    (fun _ _ _ _ turns stepped => turns.step
      (step_inv super base64url nsp getSingleEioEncodedPayload kept stepped)) turns_initial reached

end Run

end Turns

end WebPubSub.Adapter.Membership
