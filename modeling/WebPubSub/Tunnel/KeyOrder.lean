import WebPubSub.Tunnel.Pending

/-!
# Order under a consistent key

Requests with one consistent key reach the service in order because they go to one
client while any of them is unanswered. The lock that arranges this counts up when a
request is handed over and down in two other places: where the first response is read
and where the send has failed. The count of a live client is shown to be the number of
its unanswered requests, in every order of these steps.

A request whose send fails is assumed to get no response; otherwise its lock would be
released twice.
-/

namespace WebPubSub.Tunnel

/-- A request with this key that was handed to this client and was neither answered nor
failed to be sent. -/
def Invocation.holds (invocation : Invocation) (key : Text) (client : Nat) : Bool :=
  decide (invocation.key = some key) && decide (invocation.client = client) &&
    !invocation.firstResponse && decide (invocation.sending ≠ .failed)

namespace State

/-- The number of unanswered requests with a key on a client. -/
def unanswered (state : State) (key : Text) (client : Nat) : Nat :=
  state.invocations.countP (fun invocation => invocation.holds key client)

/-- The count that a mapping keeps for a client. -/
def countOf (mapping : Option (Nat × Nat)) (client : Nat) : Nat :=
  match mapping with
  | some (count, locked) => if locked = client then count else 0
  | none => 0

/-- The count that is locked for a key on a client. -/
def locks (state : State) (key : Text) (client : Nat) : Nat := countOf (state.keyMapping key) client

/-- The locks of live clients count their unanswered requests, and no response waits for
a request whose send has failed. -/
structure Locked (state : State) : Prop where
  counted : ∀ key client, state.isStopped client = false →
    state.locks key client = state.unanswered key client
  positive : ∀ key count client, state.keyMapping key = some (count, client) → 0 < count
  listed : ∀ call ∈ state.ackMap, ∀ invocation ∈ state.invocations[call]?,
    invocation.sending ≠ .failed
  awaited : ∀ entry ∈ state.deferred, entry.2.data ≠ none →
    ∀ invocation ∈ state.invocations[entry.1]?, invocation.sending ≠ .failed

end State

/-- The assumption on the service: the send of a request fails only when no response to
it has arrived. -/
def FailsUnanswered (state : State) : Event → Prop
  | .sendFailed call => (∀ invocation ∈ state.invocations[call]?,
        invocation.firstResponse = false) ∧
      ∀ entry ∈ state.deferred, entry.1 = call → entry.2.data = none
  | _ => True

instance (state : State) : ∀ event, Decidable (FailsUnanswered state event)
  | .sendFailed call => inferInstanceAs (Decidable ((∀ invocation ∈ state.invocations[call]?,
      invocation.firstResponse = false) ∧
      ∀ entry ∈ state.deferred, entry.1 = call → entry.2.data = none))
  | .run | .started _ | .startFailed _ _ | .retried _ | .clientStopped _ | .message _ _
  | .reconnected | .stop | .invoke _ _ _ | .sent _ | .abort _ | .tick | .ask _ | .wake _ =>
      inferInstanceAs (Decidable True)

section Locks

variable {state next : State} {key : Text} {client call : Nat}

/-- A mapping with one more lock for a client. -/
def locked (client : Nat) : Option (Nat × Nat) → Option (Nat × Nat)
  | some (count, _) => some (count + 1, client)
  | none => some (1, client)

/-- A mapping with one lock less for a client. -/
def released (client : Nat) : Option (Nat × Nat) → Option (Nat × Nat)
  | none => none
  | some (count, owner) =>
    if owner ≠ client then some (count, owner)
    else if count - 1 = 0 then none else some (count - 1, owner)

theorem lockClient_keyMapping (state : State) (own : Text) (client : Nat) :
    (state.lockClient (some own) client).keyMapping =
      Function.update state.keyMapping own (locked client (state.keyMapping own)) := by
  cases mapped : state.keyMapping own <;> simp [State.lockClient, locked, mapped]

theorem releaseClient_keyMapping (state : State) (own : Text) (client : Nat) :
    (state.releaseClient (some own) client).keyMapping =
      Function.update state.keyMapping own (released client (state.keyMapping own)) := by
  have kept (mapped : released client (state.keyMapping own) = state.keyMapping own) :
      state.keyMapping =
        Function.update state.keyMapping own (released client (state.keyMapping own)) := by
    rw [mapped, Function.update_eq_self]
  cases mapped : state.keyMapping own with
  | none => simpa [State.releaseClient, mapped] using kept (by simp [mapped, released])
  | some mapping =>
    obtain ⟨count, owner⟩ := mapping
    by_cases same : owner = client
    · by_cases last : count - 1 = 0
      · simp [State.releaseClient, released, mapped, same, last]
      · simp [State.releaseClient, released, mapped, same, last]
    · simpa [State.releaseClient, mapped, same] using kept (by simp [mapped, released, same])

/-- A lock counts for its client only. It is new, or it was for this client. -/
theorem countOf_locked {mapping : Option (Nat × Nat)}
    (free : ∀ count owner, mapping = some (count, owner) → owner = client) (other : Nat) :
    State.countOf (locked client mapping) other =
      State.countOf mapping other + if other = client then 1 else 0 := by
  rcases mapping with _ | ⟨count, owner⟩
  · simp [locked, State.countOf, eq_comm]
  · obtain rfl := free count owner rfl
    by_cases same : other = owner
    · simp [locked, State.countOf, same]
    · simp [locked, State.countOf, same, Ne.symm same]

/-- A release counts for its client only. -/
theorem countOf_released (mapping : Option (Nat × Nat)) (other : Nat) :
    State.countOf (released client mapping) other =
      State.countOf mapping other - if other = client then 1 else 0 := by
  rcases mapping with _ | ⟨count, owner⟩
  · simp [released, State.countOf]
  · by_cases own : owner = client
    · subst own
      by_cases same : other = owner
      · subst same
        by_cases last : count - 1 = 0
        · simp [released, State.countOf, last]
        · simp [released, State.countOf, last]
      · by_cases last : count - 1 = 0
        · simp [released, State.countOf, last, same, Ne.symm same]
        · simp [released, State.countOf, last, same, Ne.symm same]
    · by_cases same : other = client
      · subst same
        simp [released, State.countOf, own]
      · simp [released, State.countOf, own, same]

/-- A positive count stays positive when it is locked, and when it is released. -/
theorem locked_positive {mapping : Option (Nat × Nat)} {count owner : Nat}
    (mapped : locked client mapping = some (count, owner)) : 0 < count := by
  rcases mapping with _ | ⟨before, other⟩ <;> simp [locked] at mapped <;> omega

theorem released_positive {mapping : Option (Nat × Nat)} {count owner : Nat}
    (positive : ∀ before other, mapping = some (before, other) → 0 < before)
    (mapped : released client mapping = some (count, owner)) : 0 < count := by
  rcases mapping with _ | ⟨before, other⟩
  · simp [released] at mapped
  · have held := positive before other rfl
    simp only [released] at mapped
    split at mapped
    · simp at mapped
      omega
    · split at mapped
      · cases mapped
      · simp at mapped
        omega

/-- The locks after a key was locked for a client. -/
theorem locks_lockClient (state : State) (client : Nat) (own : Option Text)
    (free : ∀ key ∈ own, ∀ count owner, state.keyMapping key = some (count, owner) →
      owner = client) (key : Text) (other : Nat) :
    (state.lockClient own client).locks key other =
      state.locks key other + if own = some key ∧ other = client then 1 else 0 := by
  cases own with
  | none => simp [State.lockClient]
  | some own =>
    rw [State.locks, lockClient_keyMapping]
    by_cases same : key = own
    · subst same
      simpa [State.locks] using countOf_locked (free key rfl) other
    · simp [State.locks, same, Ne.symm same]

/-- The locks after a key was released for a client. -/
theorem locks_releaseClient (state : State) (client : Nat) (own : Option Text) (key : Text)
    (other : Nat) :
    (state.releaseClient own client).locks key other =
      state.locks key other - if own = some key ∧ other = client then 1 else 0 := by
  cases own with
  | none => simp [State.releaseClient]
  | some own =>
    rw [State.locks, releaseClient_keyMapping]
    by_cases same : key = own
    · subst same
      simpa [State.locks] using countOf_released (state.keyMapping key) other
    · simp [State.locks, same, Ne.symm same]

end Locks

section Steps

variable {state next : State} {call : Nat} {invocation other : Invocation}

theorem initial_locked : State.initial.Locked :=
  ⟨fun _ _ _ => rfl, by simp [State.initial], by simp [State.initial], by simp [State.initial]⟩

/-- The unanswered requests when one record is replaced. -/
theorem unanswered_set (standing : state.invocations[call]? = some invocation)
    (replaced : next.invocations = state.invocations.set call other) (key : Text) (client : Nat) :
    next.unanswered key client + (if invocation.holds key client then 1 else 0) =
      state.unanswered key client + (if other.holds key client then 1 else 0) := by
  obtain ⟨inside, named⟩ := List.getElem?_eq_some_iff.mp standing
  have counted := List.countP_set (p := fun invocation => invocation.holds key client)
    (a := other) inside
  have present : (if state.invocations[call].holds key client then 1 else 0) ≤
      state.invocations.countP (fun invocation => invocation.holds key client) :=
    List.boole_getElem_le_countP (p := fun invocation => invocation.holds key client) inside
  rw [named] at counted present
  rw [State.unanswered, State.unanswered, replaced, counted]
  omega

/-- Steps that only concern clients. -/
theorem locked_of_ledger (held : state.Locked) (ledger : next.ledger = state.ledger)
    (stops : state.StopsOnly next) : next.Locked := by
  simp only [State.ledger, Prod.mk.injEq] at ledger
  obtain ⟨keyMapping, ackMap, invocations, deferred⟩ := ledger
  obtain ⟨counted, positive, listed, awaited⟩ := held
  refine ⟨fun key client live => ?_, keyMapping ▸ positive, ?_, ?_⟩
  · have before : state.isStopped client = false := by
      by_contra stopped
      simp [stops client (by simpa using stopped)] at live
    have same := counted key client before
    simpa only [State.locks, State.unanswered, keyMapping, invocations] using same
  · rw [ackMap, invocations]
    exact listed
  · rw [deferred, invocations]
    exact awaited

/-- Steps that replace the record of a request by one with the same standing. -/
theorem locked_set (other : Invocation) (held : state.Locked)
    (standing : state.invocations[call]? = some invocation)
    (replaced : next.invocations = state.invocations.set call other)
    (holds : ∀ key client, other.holds key client = invocation.holds key client)
    (sending : other.sending = .failed → invocation.sending = .failed)
    (keyMapping : next.keyMapping = state.keyMapping) (clients : next.clients = state.clients)
    (ackMap : ∀ index ∈ next.ackMap, index ∈ state.ackMap)
    (deferred : ∀ entry ∈ next.deferred, entry.2.data ≠ none → entry ∈ state.deferred) :
    next.Locked := by
  obtain ⟨counted, positive, listed, awaited⟩ := held
  have kept {index : Nat} (before : ∀ record ∈ state.invocations[index]?, record.sending ≠ .failed) :
      ∀ record ∈ next.invocations[index]?, record.sending ≠ .failed := by
    intro record found failed
    rw [replaced] at found
    rcases Ledger.getElem?_set_cases found with ⟨rfl, rfl⟩ | ⟨-, found⟩
    · exact before invocation standing (sending failed)
    · exact before record found failed
  refine ⟨fun key client live => ?_, keyMapping ▸ positive, ?_, ?_⟩
  · have same := unanswered_set standing replaced key client
    rw [holds key client] at same
    have before : state.isStopped client = false := by
      simpa only [State.isStopped, clients] using live
    have locks := counted key client before
    simp only [State.locks, keyMapping] at locks ⊢
    omega
  · exact fun index member => kept (listed index (ackMap index member))
  · exact fun entry member data => kept (awaited entry (deferred entry member data) data)

/-- A response that arrives. -/
theorem locked_receive (held : state.Locked) (response : HttpResponse) :
    (state.receive response).Locked := by
  unfold State.receive
  split
  · exact held
  · next call named =>
    split
    · next listed =>
      refine ⟨held.counted, held.positive, ?_, ?_⟩
      · intro index member
        apply held.listed index
        dsimp only at member
        split at member
        · exact member
        · exact (List.mem_filter.mp member).1
      · intro entry member data
        cases List.mem_append.mp member with
        | inl member => exact held.awaited entry member data
        | inr member =>
          rw [List.mem_singleton.mp member]
          exact held.listed call listed
    · exact held

/-- The mapping of `getClient` loses only locks of a stopped client. -/
theorem locked_afterGetClient (held : state.Locked) (key : Option Text) :
    (state.afterGetClient key).Locked := by
  cases key with
  | none => exact held
  | some key =>
    cases mapped : state.keyMapping key with
    | none => simpa [State.afterGetClient, mapped] using held
    | some mapping =>
      obtain ⟨count, client⟩ := mapping
      cases stopped : state.isStopped client with
      | false => simpa [State.afterGetClient, mapped, stopped] using held
      | true =>
        simp only [State.afterGetClient, mapped, stopped, if_true]
        refine ⟨fun own live alive => ?_, fun own number owner found => ?_, held.listed,
          held.awaited⟩
        · have before := held.counted own live alive
          by_cases same : own = key
          · subst same
            have different : client ≠ live := by
              rintro rfl
              exact absurd (stopped.symm.trans alive) (by simp)
            simp only [State.locks, mapped, State.countOf, different, if_false] at before
            simpa [State.locks, State.countOf, State.unanswered] using before
          · simpa [State.locks, State.unanswered, same] using before
        · by_cases same : own = key
          · simp [same] at found
          · exact held.positive own number owner (by simpa [same] using found)

/-- After `getClient` the key is free, or locked for the client that was returned. -/
theorem free_afterGetClient {key : Option Text} {draws : Nat → Draw} {client : Nat}
    (got : state.getClient key draws = some client) :
    ∀ own ∈ key, ∀ count owner,
      (state.afterGetClient key).keyMapping own = some (count, owner) → owner = client := by
  rintro own rfl count owner found
  cases mapped : state.keyMapping own with
  | none => simp [State.afterGetClient, mapped] at found
  | some mapping =>
    obtain ⟨number, chosen⟩ := mapping
    obtain rfl : chosen = client := by
      simpa [State.getClient, mapped] using got
    cases stopped : state.isStopped chosen with
    | true => simp [State.afterGetClient, mapped, stopped] at found
    | false =>
      simp only [State.afterGetClient, mapped, stopped] at found
      simp [mapped] at found
      exact found.2.symm

/-- A request that is handed over is one more lock and one more unanswered request. -/
theorem locked_hand (held : state.Locked) (key : Option Text) (abortable : Bool) {client : Nat}
    (free : ∀ own ∈ key, ∀ count owner, state.keyMapping own = some (count, owner) →
      owner = client) : (state.hand key abortable client).Locked := by
  have kept {index : Nat} (before : ∀ record ∈ state.invocations[index]?, record.sending ≠ .failed) :
      ∀ record ∈ (state.invocations ++ [Invocation.handed key client abortable])[index]?,
        record.sending ≠ .failed := by
    intro record found
    rcases Ledger.getElem?_concat_cases found with ⟨-, rfl⟩ | found
    · simp [Invocation.handed]
    · exact before record found
  unfold State.hand
  rw [State.lockClient_eq]
  refine ⟨fun own live alive => ?_, fun own count owner found => ?_, fun index member => ?_, ?_⟩
  · have before := held.counted own live alive
    have locks := locks_lockClient { state with
      ackMap := state.ackMap ++ [state.invocations.length]
      invocations := state.invocations ++ [Invocation.handed key client abortable] }
      client key free own live
    have unanswered : [Invocation.handed key client abortable].countP
        (fun invocation => invocation.holds own live) =
          if key = some own ∧ live = client then 1 else 0 := by
      simp [Invocation.holds, Invocation.handed, eq_comm (a := client)]
    simp only [State.locks, State.unanswered, List.countP_append] at before locks ⊢
    rw [unanswered, ← before]
    exact locks
  · cases key with
    | none => exact held.positive own count owner found
    | some key =>
      rw [lockClient_keyMapping] at found
      by_cases same : own = key
      · subst same
        simp only [Function.update_self] at found
        exact locked_positive found
      · rw [Function.update_of_ne same] at found
        exact held.positive own count owner found
  · cases List.mem_append.mp member with
    | inl member => exact kept (held.listed index member)
    | inr member =>
      intro record found
      rw [List.mem_singleton.mp member] at found
      obtain rfl : Invocation.handed key client abortable = record := by simpa using found
      simp [Invocation.handed]
  · exact fun entry member data => kept (held.awaited entry member data)

/-- A request that is no longer unanswered, together with the release of its key. -/
theorem locked_release (other : Invocation) (held : state.Locked)
    (standing : state.invocations[call]? = some invocation)
    (holds : ∀ key client, invocation.holds key client =
      (decide (invocation.key = some key) && decide (invocation.client = client)))
    (answered : ∀ key client, other.holds key client = false)
    (replaced : next.invocations = state.invocations.set call other)
    (keyMapping : next.keyMapping = state.keyMapping) (clients : next.clients = state.clients)
    (listed : ∀ index ∈ next.ackMap, ∀ record ∈ next.invocations[index]?,
      record.sending ≠ .failed)
    (awaited : ∀ entry ∈ next.deferred, entry.2.data ≠ none →
      ∀ record ∈ next.invocations[entry.1]?, record.sending ≠ .failed) :
    (next.releaseClient invocation.key invocation.client).Locked := by
  rw [State.releaseClient_eq]
  refine ⟨fun key client live => ?_, fun key count owner found => ?_, listed, awaited⟩
  · have before : state.locks key client = state.unanswered key client :=
      held.counted key client (by simpa only [State.isStopped, clients] using live)
    have locks := locks_releaseClient next invocation.client invocation.key key client
    have fewer := unanswered_set standing replaced key client
    rw [holds, answered] at fewer
    have same : next.locks key client = state.locks key client := by
      simp only [State.locks, keyMapping]
    simp only [Bool.and_eq_true, decide_eq_true_eq, eq_comm (a := invocation.client),
      Bool.false_eq_true, if_false] at fewer
    simp only [State.locks, State.unanswered] at *
    omega
  · cases own : invocation.key with
    | none =>
      simp only [own, State.releaseClient, keyMapping] at found
      exact held.positive key count owner found
    | some own' =>
      rw [own, releaseClient_keyMapping, keyMapping] at found
      by_cases same : key = own'
      · subst same
        rw [Function.update_self] at found
        exact released_positive (held.positive key) found
      · rw [Function.update_of_ne same] at found
        exact held.positive key count owner found

/-- A deferred callback: it answers the request and releases its key, or leaves the
standing of the request alone. -/
theorem locked_tick {callback : Callback} {rest : List (Nat × Callback)} (held : state.Locked)
    (scheduled : state.deferred = (call, callback) :: rest)
    (standing : state.invocations[call]? = some invocation) :
    (state.tick call callback rest invocation).Locked := by
  obtain ⟨key, client, -, sending⟩ := invocation.reader_frame callback
  have listed : ∀ index ∈ state.ackMap,
      ∀ record ∈ (state.invocations.set call (invocation.reader callback).1)[index]?,
        record.sending ≠ .failed := by
    intro index member record found
    rcases Ledger.getElem?_set_cases found with ⟨rfl, rfl⟩ | ⟨-, found⟩
    · exact sending ▸ held.listed index member invocation standing
    · exact held.listed index member record found
  have awaited : ∀ entry ∈ rest, entry.2.data ≠ none →
      ∀ record ∈ (state.invocations.set call (invocation.reader callback).1)[entry.1]?,
        record.sending ≠ .failed := by
    intro entry member data record found
    have earlier : entry ∈ state.deferred := scheduled ▸ List.mem_cons_of_mem _ member
    rcases Ledger.getElem?_set_cases found with ⟨same, rfl⟩ | ⟨-, found⟩
    · exact sending ▸ held.awaited entry earlier data invocation (same ▸ standing)
    · exact held.awaited entry earlier data record found
  unfold State.tick
  dsimp only
  cases releases : invocation.releases callback with
  | true =>
    simp only [Invocation.releases, Bool.and_eq_true, Bool.not_eq_true'] at releases
    obtain ⟨unread, read⟩ := releases
    have data : callback.data ≠ none := by
      intro absent
      simp [Invocation.reader, absent, unread] at read
    have unfailed : invocation.sending ≠ .failed :=
      held.awaited (call, callback) (by simp [scheduled]) data invocation standing
    refine locked_release (invocation.reader callback).1 held standing ?_ ?_ rfl rfl rfl
      listed awaited
    · simp [Invocation.holds, unread, unfailed]
    · simp [Invocation.holds, read]
  | false =>
    have same : (invocation.reader callback).1.firstResponse = invocation.firstResponse := by
      cases seen : invocation.firstResponse with
      | true => exact (invocation.reader_firstResponse callback seen).1
      | false => simpa [Invocation.releases, seen] using releases
    refine locked_set (invocation.reader callback).1 held standing rfl ?_ ?_ rfl rfl
      (fun _ member => member) ?_
    · simp [Invocation.holds, key, client, sending, same]
    · rw [sending]
      exact id
    · exact fun entry member _ => scheduled ▸ List.mem_cons_of_mem _ member

/-- The send of an unanswered request fails. -/
theorem locked_sendFailed (held : state.Locked)
    (standing : state.invocations[call]? = some invocation)
    (sending : invocation.sending = .pending)
    (assumed : FailsUnanswered state (.sendFailed call)) :
    (state.sendFailed call invocation).Locked := by
  obtain ⟨unread, unheard⟩ := assumed
  refine locked_release { invocation with sending := .failed } held standing ?_ ?_ rfl
    rfl rfl ?_ ?_
  · simp [Invocation.holds, unread invocation standing, sending]
  · simp [Invocation.holds]
  · intro index member record found
    obtain ⟨earlier, different⟩ := List.mem_filter.mp member
    rcases Ledger.getElem?_set_cases found with ⟨rfl, -⟩ | ⟨-, found⟩
    · simp at different
    · exact held.listed index earlier record found
  · intro entry member data record found
    rcases Ledger.getElem?_set_cases found with ⟨same, -⟩ | ⟨-, found⟩
    · exact absurd (unheard entry member same) data
    · exact held.awaited entry member data record found

/-- Every step under the assumption keeps the locks. -/
theorem locked_step {event : Event} {added : List Output} (held : state.Locked)
    (assumed : FailsUnanswered state event)
    (stepped : connection.step state event = some (next, added)) : next.Locked := by
  have same (entry : Nat × Callback) (member : entry ∈ state.deferred) :
      entry.2.data ≠ none → entry ∈ state.deferred := fun _ => member
  cases step_change stepped with
  | clients kind ledger stops _ => exact locked_of_ledger held ledger stops
  | response client response => exact locked_receive held response
  | invoked key abortable draws =>
    unfold State.invoke
    dsimp only
    cases got : state.getClient (key.filter (· ≠ [])) draws with
    | none => exact locked_afterGetClient held _
    | some client =>
      exact locked_hand (locked_afterGetClient held _) _ abortable (free_afterGetClient got)
  | sent call invocation standing sending =>
    exact locked_set _ held standing rfl (by simp [Invocation.holds, sending]) (by simp) rfl rfl
      (fun _ member => member) same
  | sendFailed call invocation standing sending =>
    exact locked_sendFailed held standing sending assumed
  | aborted call invocation standing signal =>
    refine locked_set _ held standing rfl (fun _ _ => rfl) id rfl rfl (fun _ member => member) ?_
    intro entry member data
    cases List.mem_append.mp member with
    | inl member => exact member
    | inr member => exact absurd (List.mem_singleton.mp member ▸ rfl) data
  | ticked call callback rest invocation scheduled standing =>
    exact locked_tick held scheduled standing
  | asked call invocation body standing hasBody asked =>
    exact locked_set _ held standing rfl (fun _ _ => rfl) id rfl rfl (fun _ member => member) same
  | woken call invocation body standing woken =>
    exact locked_set _ held standing rfl (fun _ _ => rfl) id rfl rfl (fun _ member => member) same

end Steps

/-- The calls of `sendAsync` for invocations, with their clients. -/
def handedCalls (outputs : List Output) : List (Nat × Nat) :=
  outputs.filterMap (fun
    | .handed client call => some (client, call)
    | .unavailable => none)

section Order

variable {state next : State} {call : Nat} {invocation other : Invocation}

/-- A replaced record with the same client leaves the clients of all requests alone. -/
theorem map_client_set (standing : state.invocations[call]? = some invocation)
    (client : other.client = invocation.client) :
    (state.invocations.set call other).map Invocation.client =
      state.invocations.map Invocation.client := by
  obtain ⟨inside, rfl⟩ := List.getElem?_eq_some_iff.mp standing
  rw [List.map_set, client, ← List.getElem_map Invocation.client (h := by simpa using inside)]
  exact List.set_getElem_self _

/-- The calls handed over are those of the invocations, in their order. -/
theorem handed_step {event : Event} {outputs added : List Output}
    (ordered : handedCalls outputs = (state.invocations.map Invocation.client).zipIdx)
    (stepped : connection.step state event = some (next, added)) :
    handedCalls (outputs ++ added) = (next.invocations.map Invocation.client).zipIdx := by
  have joined : handedCalls (outputs ++ added) = handedCalls outputs ++ handedCalls added :=
    List.filterMap_append ..
  have silent : handedCalls [] = [] := rfl
  have replaced {call : Nat} {invocation other : Invocation}
      (standing : state.invocations[call]? = some invocation)
      (set : next.invocations = state.invocations.set call other)
      (client : other.client = invocation.client) :
      (state.invocations.map Invocation.client).zipIdx ++ handedCalls [] =
        (next.invocations.map Invocation.client).zipIdx := by
    rw [silent, List.append_nil, set, map_client_set standing client]
  rw [joined, ordered]
  cases step_change stepped with
  | clients kind ledger stops _ =>
    simp only [State.ledger, Prod.mk.injEq] at ledger
    rw [silent, List.append_nil, ledger.2.2.1]
  | response client response => rw [silent, List.append_nil, State.receive_invocations]
  | invoked key abortable draws =>
    unfold State.invoke
    dsimp only
    cases got : state.getClient (key.filter (· ≠ [])) draws with
    | none => simp [handedCalls]
    | some client => simp [handedCalls, Invocation.handed, List.zipIdx_append]
  | sent call invocation standing sending => exact replaced standing rfl rfl
  | sendFailed call invocation standing sending =>
    exact replaced standing (State.sendFailed_invocations ..) rfl
  | aborted call invocation standing signal => exact replaced standing rfl rfl
  | ticked call callback rest invocation scheduled standing =>
    exact replaced standing (State.tick_invocations ..) (invocation.reader_frame callback).2.1
  | asked call invocation body standing hasBody asked => exact replaced standing rfl rfl
  | woken call invocation body standing woken => exact replaced standing rfl rfl

/-- A key with an unanswered request on a live client is locked for that client. -/
theorem mapped_of_unanswered (held : state.Locked) {key : Text} {client : Nat}
    (live : state.isStopped client = false) (positive : 0 < state.unanswered key client) :
    state.keyMapping key = some (state.unanswered key client, client) := by
  have locks := held.counted key client live
  rw [← locks] at positive ⊢
  cases mapped : state.keyMapping key with
  | none => simp [State.locks, State.countOf, mapped] at positive
  | some mapping =>
    obtain ⟨count, owner⟩ := mapping
    by_cases same : owner = client
    · simp [State.locks, State.countOf, mapped, same]
    · simp [State.locks, State.countOf, mapped, same] at positive

end Order

/-- The mapping of a key counts, for a live client, exactly the requests with that key
that were handed to the client and are neither answered nor failed. While there is one,
the next request with the key is handed to the same client; and requests are handed over
in the order of the calls of `invokeAsync`. A request is answered by the callback of the first
response that arrives for it. -/
structure State.KeyOrdered (state : State) (outputs : List Output) : Prop where
  counted : ∀ key client count, state.isStopped client = false →
    (state.keyMapping key = some (count, client) ∧ 1 ≤ count ↔
      count = state.unanswered key client ∧ 0 < state.unanswered key client)
  kept : ∀ key client, key ≠ [] → state.isStopped client = false →
    0 < state.unanswered key client → ∀ abortable draws next added,
      connection.step state (.invoke (some key) abortable draws) = some (next, added) →
        added = [.handed client state.invocations.length]
  ordered : handedCalls outputs = (state.invocations.map Invocation.client).zipIdx
  reads : state.ReadsResponses

section Sample

/-- Two requests with one key on one client: the first is answered, the second fails. -/
def sharedKey : List Event :=
  [.run, .started 0, .run, .started 1, .invoke (some ['k']) false (fun _ => ⟨0, 1, Nat.zero_lt_one⟩),
    .sent 0, .invoke (some ['k']) false (fun _ => ⟨1, 2, by decide⟩),
    .message 0 (.httpResponse ⟨1, 202, false, none⟩), .tick, .sendFailed 1]

end Sample

end WebPubSub.Tunnel
