import Mathlib.Data.List.Perm.Subperm
import WebPubSub.Reliable.Publisher

/-!
# What is published

The program sends a number again until it is acked, and the service executes a number once for
each connection. The numbers are published in order and each once, except the first: a
connection that is lost before its connected message is not recovered but made anew, and what
was sent on it may be executed again. No number but the first can be under way then, since the
client reads the connected message before any ack.

All this is said of runs with fewer publications than a `ulong` has numbers, in which the `ackId`
does not begin again.
-/

namespace WebPubSub.Reliable

/-- The entity of the call that is under way. -/
def Call.entity? : Call → Option Nat
  | .ready => none
  | .sending entity | .waiting entity => some entity

namespace Publisher

/-- The numbers that were executed on a connection. -/
def executedOn (publisher : Publisher) (session : Nat) : List Nat :=
  (publisher.executed.filter (fun entry => entry.1 = session)).map Prod.snd

/-- On the present connection the numbers up to `count` were executed, and the program has
reached the last of them or the one behind it. -/
structure Ordered (publisher : Publisher) (count : Nat) : Prop where
  consistent : publisher.system.Consistent
  quiet : publisher.system.Quiet
  first : publisher.system.client.initialized = false → publisher.ackId = 1
  low : publisher.ackId ≤ count + 1
  high : count ≤ publisher.ackId
  current : publisher.executedOn publisher.session = List.range' 1 count
  before : ∀ entry ∈ publisher.executed, 1 ≤ entry.1 ∧ entry.1 ≤ publisher.session ∧
    (entry.1 < publisher.session → entry.2 = 1)
  nodup : publisher.executed.Nodup
  requests : ∀ request ∈ publisher.requests, 1 ≤ request.1 ∧ request.1 ≤ publisher.session ∧
    1 ≤ request.2 ∧ request.2 ≤ publisher.ackId ∧
      (request.1 < publisher.session → request.2 = 1)
  acks : ∀ sent ∈ publisher.system.down, ∀ ackId success,
    ackOf sent.text = some (some (ackId, success)) → ackId ≤ count
  cache : ∀ entry ∈ publisher.system.client.cache,
    entry.2 < publisher.system.client.entities.length
  call : ∀ entity, publisher.call.entity? = some entity → 1 ≤ publisher.session ∧
    entity < publisher.system.client.entities.length ∧
    (∀ entry ∈ publisher.system.client.cache, entry.2 = entity → entry.1 = publisher.ackId) ∧
    ∀ success : Bool,
      publisher.system.client.entities[entity]? = some (some (Completion.result success)) →
        publisher.system.client.initialized = true ∧ publisher.ackId ≤ count
  positive : 1 ≤ publisher.ackId

theorem ordered_initial : initial.Ordered 0 where
  consistent := System.consistent_initial
  quiet := fun _ listed => absurd listed List.not_mem_nil
  first := fun _ => rfl
  low := Nat.le_refl 1
  high := Nat.zero_le 1
  current := rfl
  before := fun _ listed => absurd listed List.not_mem_nil
  nodup := List.nodup_nil
  requests := fun _ listed => absurd listed List.not_mem_nil
  acks := fun _ listed => absurd listed List.not_mem_nil
  cache := fun _ listed => absurd listed List.not_mem_nil
  call := fun _ given => absurd given (by simp [initial, Call.entity?])
  positive := Nat.le_refl 1

variable {publisher : Publisher} {count : Nat}

theorem mem_executedOn {session ackId : Nat} :
    ackId ∈ publisher.executedOn session ↔ (session, ackId) ∈ publisher.executed := by
  simp [executedOn]

/-! ## The transport -/

/-- A step of the transport on the same connection. -/
theorem Ordered.moved (ordered : publisher.Ordered count) {next : System} {texts : List Text}
    (moved : Moved publisher.system next texts) (consistent : next.Consistent) :
    ({ publisher with system := next } : Publisher).Ordered count where
  consistent := consistent
  quiet := moved.quiet
  first := by
    intro fresh
    refine ordered.first (Bool.eq_false_iff.mpr (fun known => ?_))
    exact absurd (fresh.symm.trans (moved.initialized known)) (by decide)
  low := ordered.low
  high := ordered.high
  current := ordered.current
  before := ordered.before
  nodup := ordered.nodup
  requests := ordered.requests
  acks := by
    intro sent listed ackId success read
    exact ordered.acks sent (moved.acks sent listed (isAck_of_ackOf sent.parse_text read))
      ackId success read
  cache := fun entry listed => moved.length ▸ ordered.cache entry (moved.cache entry listed)
  call := by
    intro entity given
    obtain ⟨made, known, own, answered⟩ := ordered.call entity given
    refine ⟨made, moved.length ▸ known,
      fun entry listed => own entry (moved.cache entry listed), ?_⟩
    intro success told
    obtain ⟨initialized, reached⟩ := answered success (moved.results entity success told)
    exact ⟨moved.initialized initialized, reached⟩
  positive := ordered.positive

/-- A new connection. Nothing but the first number has been sent then. -/
theorem Ordered.opened (ordered : publisher.Ordered count) {next : System} {texts : List Text}
    (fresh : publisher.system.client.initialized = false)
    (moved : Moved publisher.system next texts) (consistent : next.Consistent)
    (empty : ∀ sent ∈ next.down, isAck sent.json = false) :
    ({ publisher with system := next, session := publisher.session + 1 } :
      Publisher).Ordered 0 := by
  have one : publisher.ackId = 1 := ordered.first fresh
  have same := ordered.moved moved consistent
  exact {
    consistent := consistent
    quiet := moved.quiet
    first := fun _ => one
    low := one.le
    high := Nat.zero_le _
    current := by
      show (publisher.executed.filter (fun entry => entry.1 = publisher.session + 1)).map
        Prod.snd = []
      rw [List.map_eq_nil_iff, List.filter_eq_nil_iff]
      intro entry listed later
      have bounded := (ordered.before entry listed).2.1
      have reached := of_decide_eq_true later
      omega
    before := by
      intro entry listed
      obtain ⟨least, most, earlier⟩ := ordered.before entry listed
      refine ⟨least, Nat.le_succ_of_le most, fun _ => ?_⟩
      rcases Nat.lt_or_eq_of_le most with less | equal
      · exact earlier less
      · have executed : entry.2 ∈ publisher.executedOn publisher.session :=
          mem_executedOn.mpr (equal ▸ listed)
        rw [ordered.current, List.mem_range'_1] at executed
        have bound := ordered.high
        omega
    nodup := ordered.nodup
    requests := by
      intro request listed
      obtain ⟨least, most, positive, reached, -⟩ := ordered.requests request listed
      exact ⟨least, Nat.le_succ_of_le most, positive, reached, fun _ => by omega⟩
    acks := by
      intro sent listed ackId success read
      exact absurd ((isAck_of_ackOf sent.parse_text read).symm.trans (empty sent listed))
        (by decide)
    cache := same.cache
    call := by
      intro entity given
      obtain ⟨-, known, own, -⟩ := same.call entity given
      obtain ⟨-, -, -, answered⟩ := ordered.call entity given
      refine ⟨Nat.le_add_left 1 _, known, own, ?_⟩
      intro success told
      obtain ⟨initialized, -⟩ := answered success (moved.results entity success told)
      exact absurd (fresh.symm.trans initialized) (by decide)
    positive := ordered.positive }

/-! ## The client -/

/-- A change of the client outside what it has read. The entities of the cache are there, and a
result of the call that is under way is one of a number that was executed. -/
theorem Ordered.client (ordered : publisher.Ordered count) {client : Client}
    (alike : publisher.system.client.Alike client)
    (phase : client.phase = publisher.system.client.phase)
    (cache : ∀ entry ∈ client.cache, entry ∈ publisher.system.client.cache)
    (length : client.entities.length = publisher.system.client.entities.length)
    (results : ∀ entity, publisher.call.entity? = some entity → ∀ success : Bool,
      client.entities[entity]? = some (some (Completion.result success)) →
        publisher.system.client.entities[entity]? = some (some (Completion.result success)) ∨
          publisher.system.client.initialized = true ∧ publisher.ackId ≤ count) :
    ({ publisher with system := { publisher.system with client := client } } :
      Publisher).Ordered count where
  consistent := ordered.consistent.keep alike phase
  quiet := ordered.quiet
  first := fun fresh => ordered.first (alike.initialized ▸ fresh)
  low := ordered.low
  high := ordered.high
  current := ordered.current
  before := ordered.before
  nodup := ordered.nodup
  requests := ordered.requests
  acks := ordered.acks
  cache := fun entry listed => length ▸ ordered.cache entry (cache entry listed)
  call := by
    intro entity given
    obtain ⟨made, known, own, answered⟩ := ordered.call entity given
    refine ⟨made, length ▸ known, fun entry listed => own entry (cache entry listed), ?_⟩
    intro success told
    rcases results entity given success told with before | ⟨initialized, reached⟩
    · obtain ⟨initialized, reached⟩ := answered success before
      exact ⟨alike.initialized.trans initialized, reached⟩
    · exact ⟨alike.initialized.trans initialized, reached⟩
  positive := ordered.positive

/-- An ack of a number that was executed. -/
theorem Ordered.handleAck (ordered : publisher.Ordered count) {ackId : Nat} (success : Bool)
    (reached : ackId ≤ count) (known : publisher.system.client.initialized = true) :
    ({ publisher with
        system := { publisher.system with
          client := publisher.system.client.handleAck ackId success } } :
      Publisher).Ordered count := by
  cases found : publisher.system.client.cache.lookup ackId with
  | none =>
    have same : publisher.system.client.handleAck ackId success = publisher.system.client := by
      simp only [Client.handleAck, found]
    rw [same]
    exact ordered
  | some entity =>
    have listed : (ackId, entity) ∈ publisher.system.client.cache := by
      obtain ⟨earlier, later, split, -⟩ := List.lookup_eq_some_iff.mp found
      rw [split]
      exact List.mem_append_right _ List.mem_cons_self
    have shape : publisher.system.client.handleAck ackId success =
        { publisher.system.client with
          cache := publisher.system.client.cache.filter (fun entry => entry.1 ≠ ackId) }.complete
            entity (.result success) := by
      simp only [Client.handleAck, found]
    rw [shape]
    refine ordered.client ⟨rfl, rfl, rfl, rfl⟩ rfl
      (fun entry kept => (List.mem_filter.mp kept).1) (List.length_modify _ _ _) ?_
    intro called given other told
    rw [Client.entities_complete] at told
    by_cases same : called = entity
    · -- The entity of the call stands in the cache under the number of the call.
      subst same
      obtain ⟨-, -, own, -⟩ := ordered.call called given
      have number : ackId = publisher.ackId := own _ listed rfl
      exact Or.inr ⟨known, number ▸ reached⟩
    · rw [if_neg same] at told
      exact Or.inl told

theorem received_initialized (publisher : Publisher) (text : Text) :
    (publisher.received text).system.client.initialized = publisher.system.client.initialized := by
  unfold received
  split
  · split
    · rfl
    · rfl
    · simp only [Client.handleAck]
      split <;> rfl
  · rfl

/-- A text that is handed over. -/
theorem Ordered.received (ordered : publisher.Ordered count) {text : Text}
    (executed : ∀ ackId success, ackOf text = some (some (ackId, success)) →
      ackId ≤ count ∧ publisher.system.client.initialized = true) :
    (publisher.received text).Ordered count := by
  unfold Publisher.received
  split
  · split
    · exact {
        ordered with
        consistent := ordered.consistent.drop false
        acks := fun _ listed => absurd listed List.not_mem_nil }
    · exact ordered
    · rename_i ackId success read
      obtain ⟨reached, known⟩ := executed ackId success read
      exact ordered.handleAck success reached known
  · exact ordered

/-- The texts of one step. -/
theorem Ordered.foldl_received {texts : List Text} (ordered : publisher.Ordered count)
    (executed : ∀ text ∈ texts, ∀ ackId success, ackOf text = some (some (ackId, success)) →
      ackId ≤ count ∧ publisher.system.client.initialized = true) :
    (texts.foldl Publisher.received publisher).Ordered count := by
  induction texts generalizing publisher with
  | nil => exact ordered
  | cons text texts inductionHypothesis =>
    obtain ⟨here, later⟩ := List.forall_mem_cons.mp executed
    refine inductionHypothesis (ordered.received here) ?_
    intro other listed ackId success read
    obtain ⟨reached, known⟩ := later other listed ackId success read
    exact ⟨reached, (received_initialized _ _).trans known⟩

/-- What is handed over executes nothing. -/
theorem foldl_received_executed (texts : List Text) (publisher : Publisher) :
    (texts.foldl received publisher).executed = publisher.executed := by
  induction texts generalizing publisher with
  | nil => rfl
  | cons text texts inductionHypothesis =>
    rw [List.foldl_cons, inductionHypothesis, received]
    split
    · split <;> rfl
    · rfl

/-! ## The service -/

/-- An answer to a request whose number was executed on the present connection, or to one of
another connection. -/
theorem Ordered.answer (ordered : publisher.Ordered count) {session ackId : Nat} (success : Bool)
    (reached : session = publisher.session → ackId ≤ count) :
    (publisher.answer session ackId success).Ordered count := by
  unfold Publisher.answer
  split
  · rename_i present
    exact {
      ordered with
      consistent := ordered.consistent.notice _
      quiet := ordered.quiet
      acks := by
        intro sent listed read told given
        rcases List.mem_append.mp listed with before | same
        · exact ordered.acks sent before read told given
        · obtain rfl := List.mem_singleton.mp same
          rw [ackId_of_ackOf given]
          exact reached present.1 }
  · exact ordered

/-- A request that is no longer under way. -/
theorem Ordered.erased (ordered : publisher.Ordered count) (index : Nat) :
    ({ publisher with requests := publisher.requests.eraseIdx index } : Publisher).Ordered count :=
  { ordered with
    requests := fun request listed =>
      ordered.requests request (List.mem_of_mem_eraseIdx listed) }

/-- A number that is executed on the present connection is the next one. -/
theorem Ordered.execute (ordered : publisher.Ordered count) {session ackId : Nat}
    (asked : 1 ≤ session ∧ session ≤ publisher.session ∧ 1 ≤ ackId ∧ ackId ≤ publisher.ackId ∧
      (session < publisher.session → ackId = 1))
    (new : (session, ackId) ∉ publisher.executed) :
    ∃ later, (session = publisher.session → ackId ≤ later) ∧
      ({ publisher with executed := publisher.executed ++ [(session, ackId)] } :
        Publisher).Ordered later := by
  obtain ⟨least, most, positive, reached, earlier⟩ := asked
  have before : ∀ entry ∈ publisher.executed ++ [(session, ackId)], 1 ≤ entry.1 ∧
      entry.1 ≤ publisher.session ∧ (entry.1 < publisher.session → entry.2 = 1) := by
    intro entry listed
    rcases List.mem_append.mp listed with known | same
    · exact ordered.before entry known
    · obtain rfl := List.mem_singleton.mp same
      exact ⟨least, most, earlier⟩
  have nodup : (publisher.executed ++ [(session, ackId)]).Nodup := by
    refine List.nodup_append'.mpr ⟨ordered.nodup, List.nodup_singleton _, ?_⟩
    exact List.disjoint_singleton.mpr new
  by_cases present : session = publisher.session
  · subst present
    have unexecuted : ackId ∉ List.range' 1 count := by
      rw [← ordered.current, mem_executedOn]
      exact new
    rw [List.mem_range'_1] at unexecuted
    have low := ordered.low
    obtain rfl : ackId = count + 1 := by omega
    refine ⟨count + 1, fun _ => Nat.le_refl _, { ordered with
      low := Nat.le_succ_of_le low
      high := reached
      before := before
      nodup := nodup
      current := ?_
      acks := fun sent listed read told given =>
        Nat.le_succ_of_le (ordered.acks sent listed read told given)
      call := ?_ }⟩
    · have current := ordered.current
      simp only [executedOn] at current ⊢
      rw [List.filter_append, List.map_append, current, List.range'_1_concat]
      simp [Nat.add_comm]
    · intro entity given
      obtain ⟨made, known, own, answered⟩ := ordered.call entity given
      refine ⟨made, known, own, fun success told => ?_⟩
      obtain ⟨initialized, bound⟩ := answered success told
      exact ⟨initialized, Nat.le_succ_of_le bound⟩
  · refine ⟨count, fun same => absurd same present, { ordered with
      before := before
      nodup := nodup
      current := ?_ }⟩
    have current := ordered.current
    simp only [executedOn] at current ⊢
    rw [List.filter_append, List.map_append, current]
    simp [present]

/-- The call of `SendAsync` begins with a new entity. -/
theorem Ordered.create (ordered : publisher.Ordered count) (opened : publisher.session ≠ 0) :
    ({ publisher with
        system := { publisher.system with
          client := (publisher.system.client.createAckEntity publisher.ackId).1 }
        call := .sending publisher.system.client.entities.length } : Publisher).Ordered count := by
  have entries : ∀ entry ∈ (publisher.system.client.createAckEntity publisher.ackId).1.cache,
      entry ∈ publisher.system.client.cache ∨
        entry = (publisher.ackId, publisher.system.client.entities.length) := by
    intro entry listed
    rcases List.mem_append.mp listed with before | same
    · exact Or.inl (List.mem_filter.mp before).1
    · exact Or.inr (List.mem_singleton.mp same)
  have length : (publisher.system.client.createAckEntity publisher.ackId).1.entities.length =
      publisher.system.client.entities.length + 1 := List.length_append
  exact {
    ordered with
    consistent := ordered.consistent.keep ⟨rfl, rfl, rfl, rfl⟩ rfl
    cache := by
      intro entry listed
      rcases entries entry listed with before | rfl
      · exact length ▸ Nat.lt_succ_of_lt (ordered.cache entry before)
      · exact length ▸ Nat.lt_succ_self _
    call := by
      intro entity given
      obtain rfl : publisher.system.client.entities.length = entity := Option.some.inj given
      refine ⟨Nat.one_le_iff_ne_zero.mpr opened, length ▸ Nat.lt_succ_self _, ?_, ?_⟩
      · intro entry listed same
        rcases entries entry listed with before | rfl
        · exact absurd (same ▸ ordered.cache entry before) (Nat.lt_irrefl _)
        · rfl
      · intro success told
        simp [Client.createAckEntity] at told }

/-- The message is written, or the socket throws. -/
theorem Ordered.write (ordered : publisher.Ordered count) {entity : Nat}
    (sending : publisher.call = .sending entity) (delivered thrown : Bool) :
    ({ publisher with
        system := { publisher.system with
          client := if thrown then publisher.system.client.complete entity .exception
            else publisher.system.client }
        requests := if delivered then publisher.requests ++ [(publisher.session, publisher.ackId)]
          else publisher.requests
        call := .waiting entity } : Publisher).Ordered count := by
  have made : 1 ≤ publisher.session := (ordered.call entity (by rw [sending]; rfl)).1
  have client : ({ publisher with
      system := { publisher.system with
        client := if thrown then publisher.system.client.complete entity .exception
          else publisher.system.client } } : Publisher).Ordered count := by
    cases thrown with
    | false => exact ordered
    | true =>
      refine ordered.client ⟨rfl, rfl, rfl, rfl⟩ rfl (fun _ listed => listed)
        (List.length_modify _ _ _) ?_
      intro called _ success told
      simp only [if_true, Client.entities_complete] at told
      split at told
      · obtain ⟨done, found, shape⟩ := Option.map_eq_some_iff.mp told
        cases done with
        | none => cases shape
        | some completion => exact Or.inl (found.trans (congrArg some shape))
      · exact Or.inl told
  exact {
    client with
    requests := by
      intro request listed
      cases delivered with
      | false => exact ordered.requests request listed
      | true =>
        rcases List.mem_append.mp listed with before | same
        · exact ordered.requests request before
        · obtain rfl := List.mem_singleton.mp same
          exact ⟨made, Nat.le_refl _, ordered.positive, Nat.le_refl _,
            fun less => absurd less (Nat.lt_irrefl _)⟩
    call := by
      intro called given
      exact client.call called (by rw [sending]; exact given) }

/-- What was executed on one connection is a part of what was executed. -/
theorem Ordered.count_le (ordered : publisher.Ordered count) :
    count ≤ publisher.executed.length := by
  have current := congrArg List.length ordered.current
  rw [executedOn, List.length_map, List.length_range'] at current
  exact current ▸ List.length_filter_le _ _

/-- The number is acked, and the program goes on to the next, which is not yet the last of a
`ulong`. -/
theorem Ordered.finish (ordered : publisher.Ordered count) (reached : publisher.ackId ≤ count)
    (known : publisher.system.client.initialized = true)
    (few : publisher.executed.length + 1 < ulongSize) :
    ({ publisher with ackId := (publisher.ackId + 1) % ulongSize, call := .ready } :
      Publisher).Ordered count := by
  have within : publisher.ackId + 1 < ulongSize :=
    (Nat.succ_le_succ (reached.trans ordered.count_le)).trans_lt few
  rw [Nat.mod_eq_of_lt within]
  exact { ordered with
    first := fun fresh => absurd (fresh.symm.trans known) (by decide)
    low := Nat.succ_le_succ reached
    high := Nat.le_succ_of_le ordered.high
    requests := by
      intro request listed
      obtain ⟨least, most, positive, bound, earlier⟩ := ordered.requests request listed
      exact ⟨least, most, positive, Nat.le_succ_of_le bound, earlier⟩
    call := fun _ given => absurd given (by simp [Call.entity?])
    positive := Nat.le_succ_of_le ordered.positive }

/-- The call failed, and the number is sent again. -/
theorem Ordered.again (ordered : publisher.Ordered count) :
    ({ publisher with call := .ready } : Publisher).Ordered count :=
  { ordered with call := fun _ given => absurd given (by simp [Call.entity?]) }

theorem answer_executed (session ackId : Nat) (success : Bool) :
    (publisher.answer session ackId success).executed = publisher.executed := by
  unfold answer
  split <;> rfl

end Publisher

/-! ## Runs -/

/-- The service answers a request without executing it. -/
def Action.refuses : Action → Bool
  | .refuse _ => true
  | _ => false

variable {written : Json → Text} {state next : Publisher} {action : Action} {published : List Nat}

theorem step_opened {system moved : System} {event : Event} {texts : List Text}
    (consistent : system.Consistent) (opens : event.isOpened = true)
    (stepped : (machine written).step system event = some (moved, texts)) :
    system.client.initialized = false ∧ texts = [] ∧
      ∀ sent ∈ moved.down, isAck sent.json = false := by
  cases event with
  | opened userId connectionId reconnectionToken =>
    obtain ⟨allowed, shape⟩ := Option.ite_none_right_eq_some.mp stepped
    obtain ⟨rfl, rfl⟩ := Prod.mk.inj (Option.some.inj shape)
    refine ⟨?_, rfl, ?_⟩
    · rcases allowed with created | reconnecting
      · exact consistent.created created
      · exact consistent.fresh_of_uri (consistent.target _ reconnecting).symm
    · intro sent listed
      rw [List.mem_singleton.mp listed]
      exact isAck_connected userId connectionId reconnectionToken
  | _ => cases opens

/-- One step of the program with a service that refuses nothing. -/
theorem step_ordered {count : Nat} (ordered : state.Ordered count)
    (willing : action.refuses = false) (few : state.executed.length + 1 < ulongSize)
    (stepped : (publisher written).step state action = some (next, published)) :
    (∃ later, next.Ordered later) ∧
      next.executed.map Prod.snd = state.executed.map Prod.snd ++ published := by
  cases action with
  | transport event =>
    obtain ⟨silent, shape⟩ := Option.ite_none_right_eq_some.mp stepped
    obtain ⟨⟨system, texts⟩, moving, told⟩ := Option.map_eq_some_iff.mp shape
    obtain ⟨rfl, rfl⟩ := Prod.mk.inj told
    refine ⟨?_, by rw [Publisher.foldl_received_executed, List.append_nil]⟩
    have consistent : system.Consistent := (step_taken ordered.consistent moving).1
    have moved : Moved state.system system texts :=
      moved_step ordered.consistent ordered.quiet silent moving
    cases opens : event.isOpened with
    | true =>
      obtain ⟨fresh, rfl, empty⟩ := step_opened ordered.consistent opens moving
      exact ⟨0, ordered.opened fresh moved consistent empty⟩
    | false =>
      refine ⟨count, (ordered.moved moved consistent).foldl_received ?_⟩
      intro text listed ackId success read
      obtain ⟨sent, waiting, rfl, known⟩ := moved.texts text listed
      have ack : isAck sent.json = true := isAck_of_ackOf sent.parse_text read
      exact ⟨ordered.acks sent waiting ackId success read, moved.initialized (known ack)⟩
  | create =>
    simp only [publisher] at stepped
    split at stepped
    · obtain ⟨opened, shape⟩ := Option.ite_none_right_eq_some.mp stepped
      obtain ⟨rfl, rfl⟩ := Prod.mk.inj (Option.some.inj shape)
      exact ⟨⟨count, ordered.create opened⟩, (List.append_nil _).symm⟩
    · cases stepped
  | write delivered thrown =>
    simp only [publisher] at stepped
    split at stepped
    · rename_i entity sending
      obtain ⟨rfl, rfl⟩ := Prod.mk.inj (Option.some.inj stepped)
      exact ⟨⟨count, ordered.write sending delivered thrown⟩, (List.append_nil _).symm⟩
    · cases stepped
  | resume =>
    simp only [publisher] at stepped
    split at stepped
    · rename_i entity waiting
      split at stepped
      · rename_i success told
        obtain ⟨rfl, rfl⟩ := Prod.mk.inj (Option.some.inj stepped)
        obtain ⟨-, -, -, answered⟩ := ordered.call entity (by rw [waiting]; rfl)
        obtain ⟨known, reached⟩ := answered success told
        exact ⟨⟨count, ordered.finish reached known few⟩, (List.append_nil _).symm⟩
      · obtain ⟨rfl, rfl⟩ := Prod.mk.inj (Option.some.inj stepped)
        exact ⟨⟨count, ordered.again⟩, (List.append_nil _).symm⟩
      · cases stepped
    · cases stepped
  | execute index =>
    simp only [publisher] at stepped
    split at stepped
    · rename_i session ackId waits
      have erased := ordered.erased index
      split at stepped
      · rename_i known
        obtain ⟨rfl, rfl⟩ := Prod.mk.inj (Option.some.inj stepped)
        refine ⟨⟨count, erased.answer false ?_⟩, ?_⟩
        · rintro rfl
          have listed : ackId ∈ state.executedOn state.session :=
            Publisher.mem_executedOn.mpr known
          rw [ordered.current, List.mem_range'_1] at listed
          omega
        · rw [Publisher.answer_executed, List.append_nil]
      · rename_i new
        obtain ⟨rfl, rfl⟩ := Prod.mk.inj (Option.some.inj stepped)
        obtain ⟨later, within, executed⟩ :=
          erased.execute (ordered.requests _ (List.mem_of_getElem? waits)) new
        refine ⟨⟨later, executed.answer true within⟩, ?_⟩
        rw [Publisher.answer_executed, List.map_append]
        rfl
    · cases stepped
  | refuse index => cases willing
  | lose index =>
    obtain ⟨rfl, rfl⟩ := Prod.mk.inj (Option.some.inj stepped)
    exact ⟨⟨count, ordered.erased index⟩, (List.append_nil _).symm⟩

theorem run_ordered {actions : List Action}
    (willing : (publisher written).Meets (fun _ action => action.refuses = false) .initial actions)
    (ran : (publisher written).run .initial actions = some (state, published))
    (few : published.length + 1 < ulongSize) :
    (∃ count, state.Ordered count) ∧ state.executed.map Prod.snd = published :=
  Machine.run_induction_meets (publisher written)
    (fun _ published state => published.length + 1 < ulongSize →
      (∃ count, state.Ordered count) ∧ state.executed.map Prod.snd = published)
    (fun _ => ⟨⟨0, Publisher.ordered_initial⟩, rfl⟩)
    (fun _ outputs state action next added _ held accepted stepped few => by
      have fewer : outputs.length + 1 < ulongSize := by
        rw [List.length_append] at few
        omega
      obtain ⟨⟨count, ordered⟩, told⟩ := held fewer
      have executed : state.executed.length = outputs.length := by
        rw [← told, List.length_map]
      obtain ⟨later, grown⟩ := step_ordered ordered accepted (executed ▸ fewer) stepped
      exact ⟨later, grown.trans (congrArg (· ++ added) told)⟩)
    willing ran few

namespace Publisher

variable {publisher : Publisher} {count : Nat}

/-- Every number but the first was executed on the present connection. -/
theorem Ordered.later_numbers (ordered : publisher.Ordered count) :
    (publisher.executed.map Prod.snd).filter (fun ackId => ackId ≠ 1) =
      List.range' 2 (count - 1) := by
  have present : publisher.executed.filter (fun entry => entry.2 ≠ 1) =
      (publisher.executed.filter (fun entry => entry.1 = publisher.session)).filter
        (fun entry => entry.2 ≠ 1) := by
    rw [List.filter_filter]
    refine List.filter_congr (fun entry listed => ?_)
    obtain ⟨-, most, earlier⟩ := ordered.before entry listed
    by_cases one : entry.2 = 1
    · simp [one]
    · have same : entry.1 = publisher.session :=
        Nat.le_antisymm most (Nat.not_lt.mp (fun less => one (earlier less)))
      simp [one, same]
  have numbers : (publisher.executed.map Prod.snd).filter (fun ackId => ackId ≠ 1) =
      (publisher.executedOn publisher.session).filter (fun ackId => ackId ≠ 1) := by
    rw [executedOn, List.filter_map, List.filter_map]
    exact congrArg (List.map Prod.snd) present
  rw [numbers, ordered.current]
  cases count with
  | zero => rfl
  | succ count =>
    rw [List.range'_succ, List.filter_cons_of_neg (by decide)]
    refine List.filter_eq_self.mpr (fun ackId listed => ?_)
    have least := (List.mem_range'_1.mp listed).1
    exact decide_eq_true (by omega)

/-- The first number is executed at most once for each connection. -/
theorem Ordered.first_number (ordered : publisher.Ordered count) :
    (publisher.executed.map Prod.snd).count 1 ≤ publisher.session := by
  have entries : (publisher.executed.map Prod.snd).count 1 =
      ((publisher.executed.filter (fun entry => entry.2 = 1)).map Prod.fst).length := by
    rw [List.count_eq_countP, List.countP_map, List.countP_eq_length_filter, List.length_map]
    rfl
  have distinct : ((publisher.executed.filter (fun entry => entry.2 = 1)).map Prod.fst).Nodup := by
    refine List.Nodup.map_on ?_ (ordered.nodup.filter _)
    intro entry listed other found same
    have one := of_decide_eq_true (List.mem_filter.mp listed).2
    have another := of_decide_eq_true (List.mem_filter.mp found).2
    exact Prod.ext same (one.trans another.symm)
  have inside : (publisher.executed.filter (fun entry => entry.2 = 1)).map Prod.fst ⊆
      List.range' 1 publisher.session := by
    intro session listed
    obtain ⟨entry, kept, rfl⟩ := List.mem_map.mp listed
    obtain ⟨least, most, -⟩ := ordered.before entry (List.mem_filter.mp kept).1
    exact List.mem_range'_1.mpr (by omega)
  have bound := (distinct.subperm inside).length_le
  rw [List.length_range'] at bound
  exact entries ▸ bound

/-- As long as no connection was lost before its connected message. -/
theorem Ordered.only_connection (ordered : publisher.Ordered count)
    (only : publisher.session = 1) :
    publisher.executed.map Prod.snd = List.range' 1 count := by
  have all : publisher.executed.filter (fun entry => entry.1 = publisher.session) =
      publisher.executed := by
    refine List.filter_eq_self.mpr (fun entry listed => ?_)
    obtain ⟨least, most, -⟩ := ordered.before entry listed
    exact decide_eq_true (by omega)
  have current := ordered.current
  rwa [executedOn, all] at current

end Publisher

/-- However sockets are lost, connections made anew, and requests and acks lost, delayed or sent
again: the program is at most one number ahead of what was published, every number from two on
was published once and in order, and the first at most once for each connection that was made, as
long as there are fewer publications than numbers of a `ulong`. -/
theorem published_in_order {actions : List Action}
    (willing : (publisher written).Meets (fun _ action => action.refuses = false) .initial actions)
    (ran : (publisher written).run .initial actions = some (state, published))
    (few : published.length + 1 < ulongSize) :
    ∃ count, state.ackId ≤ count + 1 ∧ count ≤ state.ackId ∧
      published.filter (fun ackId => ackId ≠ 1) = List.range' 2 (count - 1) ∧
      published.count 1 ≤ state.session ∧ (1 ≤ count → 1 ∈ published) ∧
      (state.session = 1 → published = List.range' 1 count) := by
  obtain ⟨⟨count, ordered⟩, rfl⟩ := run_ordered willing ran few
  refine ⟨count, ordered.low, ordered.high, ordered.later_numbers, ordered.first_number, ?_,
    ordered.only_connection⟩
  intro some
  have executed : 1 ∈ state.executedOn state.session := by
    rw [ordered.current, List.mem_range'_1]
    omega
  exact List.mem_map.mpr ⟨_, Publisher.mem_executedOn.mp executed, rfl⟩

/-- A connection is lost before its connected message, with the first number executed. -/
def publishedTwice : List Action :=
  let read (sent : Sent) : Action := .transport (.listen (Utf8.encode sent.text) sent.whole)
  [.transport (.opened none "c".toList "t".toList), .create, .write true false, .execute 0,
    .transport (.drop false), .transport .handleReconnection,
    .transport (.opened none "d".toList "u".toList), .resume, .create, .write true false,
    .execute 0, read (.connected none "d".toList "u".toList), read (.notice (ackBody 1 true)),
    .resume, .create, .write true false, .execute 0]

theorem published_in_order_twice :
    ∃ state, (publisher Json.stringify).run .initial publishedTwice = some (state, [1, 1, 2]) ∧
      ∃ count, state.ackId ≤ count + 1 ∧ count ≤ state.ackId ∧
        [1, 1, 2].filter (fun ackId => ackId ≠ 1) = List.range' 2 (count - 1) ∧
        [1, 1, 2].count 1 ≤ state.session ∧ (1 ≤ count → 1 ∈ [1, 1, 2]) ∧
        (state.session = 1 → [1, 1, 2] = List.range' 1 count) := by
  have outputs : ((publisher Json.stringify).run .initial publishedTwice).map Prod.snd =
      some [1, 1, 2] := by decide +kernel
  obtain ⟨⟨state, published⟩, ran, told⟩ := Option.map_eq_some_iff.mp outputs
  obtain rfl : published = [1, 1, 2] := told
  exact ⟨state, ran, published_in_order (by decide +kernel) ran (by decide)⟩

end WebPubSub.Reliable
