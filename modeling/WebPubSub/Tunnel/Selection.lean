import WebPubSub.Tunnel.Steps

/-!
# Selection of a client

`getClient` prefers the client a key is locked for, even when it has just found that
client stopped, and otherwise draws from the table at most six times. The table also
holds clients that were never started and stopped clients whose end was not reported
yet. Which of these can be returned is determined exactly: with a usable client around,
selection is safe for every key and every sequence of draws if and only if nothing else
is in the table or in the mapping.
-/

namespace WebPubSub.Tunnel

namespace State

/-- Every client that can be drawn or is locked for a key was started and is not
stopped. -/
structure AllUsable (state : State) : Prop where
  table : ∀ client ∈ state.table, state.isUsable client = true
  mapping : ∀ key count client, state.keyMapping key = some (count, client) →
    state.isUsable client = true

theorem isUsable_isStopped {state : State} {client : Nat}
    (usable : state.isUsable client = true) :
    client < state.clients.length ∧ state.isStopped client = false := by
  cases standing : state.clients[client]? with
  | none => simp [isUsable, standing] at usable
  | some record =>
    refine ⟨(List.getElem?_eq_some_iff.mp standing).1, ?_⟩
    simp only [isUsable, standing, Option.map_some, Option.getD_some, Bool.and_eq_true,
      Bool.not_eq_true'] at usable
    simp [isStopped, standing, usable.2]

end State

section Draws

variable {state : State}

/-- A draw that always picks a given place of a table. -/
theorem index_of_place {place length : Nat} (inside : place < length) :
    Draw.index ⟨place, length, inside⟩ length = place :=
  Nat.mul_div_cancel place (Nat.zero_lt_of_lt inside)

/-- Every draw picks a client of a nonempty table. -/
theorem getRandomKey_mem (nonempty : state.table ≠ []) (draw : Draw) :
    ∃ client ∈ state.table, state.getRandomKey draw = some client := by
  have positive : 0 < state.table.length := List.length_pos_iff.mpr nonempty
  have below : draw.index state.table.length < state.table.length := by
    apply Nat.div_lt_of_lt_mul
    exact Nat.mul_lt_mul_of_pos_right draw.below positive
  exact ⟨state.table[draw.index state.table.length], List.getElem_mem below,
    List.getElem?_eq_getElem below⟩

/-- A client that every attempt draws is returned, stopped or not. -/
theorem getRandomClientFrom_constant {draws : Nat → Draw} {client : Nat}
    (drawn : ∀ i, state.getRandomKey (draws i) = some client) (i left : Nat) :
    state.getRandomClientFrom draws i left = some client := by
  induction left generalizing i with
  | zero => exact drawn i
  | succ left inductionHypothesis =>
    rw [State.getRandomClientFrom, drawn i]
    dsimp only
    split
    · exact inductionHypothesis (i + 1)
    · rfl

/-- Whatever is returned from a nonempty table is in the table. -/
theorem getRandomClientFrom_mem (nonempty : state.table ≠ []) (draws : Nat → Draw)
    (i left : Nat) : ∃ client ∈ state.table,
      state.getRandomClientFrom draws i left = some client := by
  induction left generalizing i with
  | zero => exact getRandomKey_mem nonempty (draws i)
  | succ left inductionHypothesis =>
    obtain ⟨client, member, drawn⟩ := getRandomKey_mem nonempty (draws i)
    rw [State.getRandomClientFrom, drawn]
    dsimp only
    split
    · exact inductionHypothesis (i + 1)
    · exact ⟨client, member, rfl⟩

/-- Some sequence of draws makes `getClient` without a key return any given client. -/
theorem getClient_draws {client : Nat} (member : client ∈ state.table) :
    ∃ draws, state.getClient none draws = some client := by
  obtain ⟨place, inside, rfl⟩ := List.getElem_of_mem member
  refine ⟨fun _ => ⟨place, state.table.length, inside⟩, ?_⟩
  have drawn : state.getRandomKey ⟨place, state.table.length, inside⟩ =
      some state.table[place] := by
    rw [State.getRandomKey, index_of_place inside]
    exact List.getElem?_eq_getElem inside
  exact getRandomClientFrom_constant (fun _ => drawn) 0 5

end Draws

section Keys

variable {state next : State}

theorem releaseClient_unmapped (unmapped : state.keyMapping [] = none) (key : Option Text)
    (client : Nat) : (state.releaseClient key client).keyMapping [] = none := by
  cases key with
  | none => exact unmapped
  | some key =>
    unfold State.releaseClient
    dsimp only
    split
    · exact unmapped
    · next count locked mapped =>
      have different : [] ≠ key := by
        rintro rfl
        simp [unmapped] at mapped
      split
      · exact unmapped
      · split <;> simpa [different] using unmapped

theorem afterGetClient_unmapped (unmapped : state.keyMapping [] = none) (key : Option Text) :
    (state.afterGetClient key).keyMapping [] = none := by
  cases key with
  | none => exact unmapped
  | some key =>
    unfold State.afterGetClient
    dsimp only
    split
    · split
      · by_cases same : [] = key
        · simp [same]
        · simpa [same] using unmapped
      · exact unmapped
    · exact unmapped

theorem lockClient_unmapped (unmapped : state.keyMapping [] = none) {key : Option Text}
    (named : key ≠ some []) (client : Nat) :
    (state.lockClient key client).keyMapping [] = none := by
  cases key with
  | none => exact unmapped
  | some key =>
    have different : [] ≠ key := fun same => named (same ▸ rfl)
    simpa [State.lockClient, different] using unmapped

theorem tick_unmapped (unmapped : state.keyMapping [] = none) (call : Nat) (callback : Callback)
    (rest : List (Nat × Callback)) (invocation : Invocation) :
    (state.tick call callback rest invocation).keyMapping [] = none := by
  unfold State.tick
  dsimp only
  split
  · exact releaseClient_unmapped (by exact unmapped) _ _
  · exact unmapped

theorem receive_keyMapping (state : State) (response : HttpResponse) :
    (state.receive response).keyMapping = state.keyMapping := by
  unfold State.receive
  split
  · rfl
  · split <;> rfl

/-- No step maps the empty key, which counts as no key. -/
theorem unmapped_step {event : Event} {added : List Output}
    (unmapped : state.keyMapping [] = none)
    (stepped : connection.step state event = some (next, added)) :
    next.keyMapping [] = none := by
  cases step_change stepped with
  | clients kind ledger stops _ =>
    simp only [State.ledger, Prod.mk.injEq] at ledger
    rw [ledger.1, unmapped]
  | response client response => rw [receive_keyMapping, unmapped]
  | invoked key abortable draws =>
    have named : key.filter (· ≠ []) ≠ some [] := by
      intro same
      have member := Option.mem_filter_iff.mp (Option.mem_def.mpr same)
      simp at member
    unfold State.invoke
    dsimp only
    split
    · exact afterGetClient_unmapped unmapped _
    · exact lockClient_unmapped (by exact afterGetClient_unmapped unmapped _) named _
  | sent call invocation standing sending => exact unmapped
  | sendFailed call invocation standing sending =>
    exact releaseClient_unmapped (by exact unmapped) _ _
  | aborted call invocation standing signal => exact unmapped
  | ticked call callback rest invocation scheduled standing =>
    exact tick_unmapped unmapped _ _ _ _
  | asked call invocation body standing hasBody asked => exact unmapped
  | woken call invocation body standing woken => exact unmapped

/-- A live client stays in the table in every step. -/
theorem listed_step {event : Event} {added : List Output} (listed : state.Listed)
    (stepped : connection.step state event = some (next, added)) : next.Listed := by
  rcases step_side stepped with ⟨-, kept⟩ | side
  · exact kept listed
  · simp only [State.side, Prod.mk.injEq] at side
    obtain ⟨clients, table, -⟩ := side
    simpa only [State.Listed, State.isStopped, clients, table] using listed

end Keys

/-- In every reachable state with a usable client, `getClient` returns a usable client
for every key and every sequence of draws if and only if every client in the table and
every client of a locked key is usable.

Proof: a client of the table is returned when every draw picks it, and a locked client
whenever its key is given, so each of them must be usable. Conversely the table is not
empty, since it holds the usable client, and every result is in it or locked. -/
theorem getClient_usable_iff {state : State} (reached : connection.Reachable State.initial state)
    (usable : ∃ client, state.isUsable client = true) :
    (∀ key draws, ∃ client, state.getClient (Option.filter (· ≠ []) key) draws = some client ∧
      state.isUsable client = true) ↔ state.AllUsable := by
  have unmapped : state.keyMapping [] = none :=
    connection.invariant_reachable (fun state => state.keyMapping [] = none)
      (fun _ _ _ _ held stepped => unmapped_step held stepped) rfl reached
  have listed : state.Listed := connection.invariant_reachable State.Listed
    (fun _ _ _ _ held stepped => listed_step held stepped)
    (by simp [State.Listed, State.initial]) reached
  constructor
  · intro safe
    constructor
    · intro client member
      obtain ⟨draws, drawn⟩ := getClient_draws member
      obtain ⟨chosen, got, isUsable⟩ := safe none draws
      obtain rfl : client = chosen := Option.some.inj (drawn.symm.trans got)
      exact isUsable
    · intro key count client mapped
      have named : key ≠ [] := by
        rintro rfl
        simp [unmapped] at mapped
      obtain ⟨chosen, got, isUsable⟩ := safe (some key) (fun _ => ⟨0, 1, Nat.one_pos⟩)
      obtain rfl : client = chosen := by
        simpa [Option.filter, named, State.getClient, mapped] using got
      exact isUsable
  · rintro ⟨table, mapping⟩ key draws
    obtain ⟨live, isUsable⟩ := usable
    obtain ⟨inside, running⟩ := State.isUsable_isStopped isUsable
    have nonempty : state.table ≠ [] := List.ne_nil_of_mem (listed live inside running)
    cases mapped : (Option.filter (· ≠ []) key).bind state.keyMapping with
    | some pair =>
      obtain ⟨count, client⟩ := pair
      obtain ⟨own, -, found⟩ := Option.bind_eq_some_iff.mp mapped
      exact ⟨client, by simp only [State.getClient, mapped], mapping own count client found⟩
    | none =>
      obtain ⟨client, member, drawn⟩ := getRandomClientFrom_mem nonempty draws 0 5
      exact ⟨client, by simpa only [State.getClient, mapped, State.getRandomClient] using drawn,
        table client member⟩

section Sample

/-- Two started clients; a request with a key goes to the first one, which the service
then closes. -/
def closedLock : List Event :=
  [.run, .started 0, .run, .started 1, .invoke (some ['k']) false (fun _ => ⟨0, 1, Nat.zero_lt_one⟩),
    .message 0 .connectionClose]

/-- A started client that is told to rebalance, so that another one is being started. -/
def startingClient : List Event :=
  [.run, .started 0, .message 0 .connectionRebalance]

/-- The stopped client is returned for its key, and the client that was never started is
drawn, while a usable client exists. -/
theorem unusable_client_returned :
    (connection.run State.initial closedLock).map (fun result =>
        (result.1.isUsable 1, result.1.getClient (some ['k']) (fun _ => ⟨1, 2, by decide⟩),
          result.1.isStopped 0)) = some (true, some 0, true) ∧
      (connection.run State.initial startingClient).map (fun result =>
        (result.1.isUsable 0, result.1.getClient none (fun _ => ⟨1, 2, by decide⟩),
          result.1.isUsable 1)) = some (true, some 1, false) := by
  decide +kernel

theorem getClient_usable_iff_starting : ∃ state,
    connection.Reachable State.initial state ∧
      ((∀ key draws, ∃ client,
        state.getClient (Option.filter (· ≠ []) key) draws = some client ∧
          state.isUsable client = true) ↔ state.AllUsable) := by
  have completed : ((connection.run State.initial startingClient).map
      (fun result => result.1.isUsable 0)) = some true := by decide +kernel
  obtain ⟨⟨state, outputs⟩, ran, usable⟩ := Option.map_eq_some_iff.mp completed
  exact ⟨state, ⟨_, _, ran⟩, getClient_usable_iff ⟨_, _, ran⟩ ⟨0, usable⟩⟩

end Sample

end WebPubSub.Tunnel
