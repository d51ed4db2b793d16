import WebPubSub.Tunnel.Call
import WebPubSub.Tunnel.KeyOrder
import WebPubSub.Tunnel.Selection

/-!
# A run without one of its calls

Leaving one invocation out of a run, with its responses and everything else that concerns
it, gives a run again, in which every other invocation ends as before. The later calls
have smaller ack ids in it. A consistent key of the call that is left out can change the
clients of other calls with the same key, and nothing else.

What the surroundings do to the other calls is the same in both runs. In particular a
call with the same key is assumed to find some client in both.
-/

namespace WebPubSub.Tunnel

/-- The number of a call when one call is left out. -/
def renumbered (gone index : Nat) : Nat := if gone < index then index - 1 else index

/-- A response with the ack id that its call then has. -/
def HttpResponse.renumbered (gone : Nat) (response : HttpResponse) : HttpResponse :=
  { response with ackId := match response.ackId with
      | 0 => 0
      | index + 1 => Tunnel.renumbered gone index + 1 }

def Callback.renumbered (gone : Nat) (callback : Callback) : Callback :=
  { callback with data := callback.data.map (HttpResponse.renumbered gone) }

/-- An event with the numbers that the calls then have. -/
def Event.renumbered (gone : Nat) : Event → Event
  | .message client (.httpResponse response) =>
    .message client (.httpResponse (response.renumbered gone))
  | .sent call => .sent (Tunnel.renumbered gone call)
  | .sendFailed call => .sendFailed (Tunnel.renumbered gone call)
  | .abort call => .abort (Tunnel.renumbered gone call)
  | .ask call => .ask (Tunnel.renumbered gone call)
  | .wake call => .wake (Tunnel.renumbered gone call)
  | event => event

/-- The events of a run that do not concern a call, renumbered. -/
def without (gone : Nat) : State → List Event → List Event
  | _, [] => []
  | state, event :: events =>
    let rest := match connection.step state event with
      | some (next, _) => without gone next events
      | none => []
    if (state.own gone event).isSome then rest else event.renumbered gone :: rest

/-- A call with the consistent key is made while the connection has a client. -/
def Attended (key : Option Text) (state : State) : Event → Prop
  | .invoke other _ _ => key ≠ none → other.filter (· ≠ []) = key → state.table ≠ []
  | _ => True

section Numbers

variable {gone index other : Nat}

theorem renumbered_of_lt (before : index < gone) : renumbered gone index = index := by
  simp [renumbered, before.not_gt]

theorem renumbered_inj (kept : index ≠ gone) (alsoKept : other ≠ gone) :
    renumbered gone index = renumbered gone other ↔ index = other := by
  unfold renumbered
  split <;> split <;> omega

@[simp] theorem anonymous_renumbered (callback : Callback) :
    (callback.renumbered gone).anonymous = callback.anonymous := by
  obtain ⟨data, error, done⟩ := callback
  cases data <;> rfl

end Numbers

namespace State

/-- The clients of one state with the requests of another. -/
def graft (state requests : State) : State :=
  { requests with
    clients := state.clients, table := state.table, stopped := state.stopped
    reconnecting := state.reconnecting }

variable (state requests : State)

theorem stopConnection_graft (client : Nat) :
    (state.graft requests).stopConnection client = (state.stopConnection client).graft requests := by
  unfold stopConnection
  split <;> rename_i member <;> simp only [graft] at member ⊢ <;> simp [member]

theorem startConnection_graft (retriesForever : Bool) :
    (state.graft requests).startConnection retriesForever =
      (state.startConnection retriesForever).graft requests := by
  unfold startConnection
  cases stopping : state.stopped <;> simp [graft, stopping]

theorem tryEndLife_graft (client : Nat) :
    (state.graft requests).tryEndLife client = (state.tryEndLife client).graft requests := by
  have same : (state.graft requests).isStopped client = state.isStopped client := rfl
  unfold tryEndLife
  rw [same]
  split <;> rfl

theorem foldl_stopConnection_graft (clients : List Nat) :
    clients.foldl stopConnection (state.graft requests) =
      (clients.foldl stopConnection state).graft requests := by
  induction clients generalizing state with
  | nil => rfl
  | cons client clients inductionHypothesis =>
    rw [List.foldl_cons, stopConnection_graft, inductionHypothesis, List.foldl_cons]

theorem stop_graft : (state.graft requests).stop = state.stop.graft requests := by
  unfold stop
  cases stopping : state.stopped with
  | true => simp [graft, stopping]
  | false =>
    have same : { state.graft requests with stopped := true } =
        { state with stopped := true }.graft requests := rfl
    simp only [graft, stopping] at same ⊢
    exact foldl_stopConnection_graft { state with stopped := true } requests _

end State

/-- The events of clients do not look at the requests. -/
theorem step_graft {state next : State} {event : Event} {added : List Output}
    (kind : event.OfClients) (stepped : connection.step state event = some (next, added))
    (requests : State) :
    connection.step (state.graft requests) event = some (next.graft requests, added) := by
  simp only [connection] at stepped ⊢
  cases event with
  | run =>
    obtain ⟨rfl, rfl⟩ := Prod.mk.inj (Option.some.inj stepped)
    exact congrArg (fun next => some (next, []))
      (State.startConnection_graft { state with stopped := false } requests false)
  | started client =>
    simp [step, Option.bind_eq_some_iff] at stepped
    obtain ⟨record, standing, attempting, rfl, rfl⟩ := stepped
    simp [step, State.graft, standing, attempting, State.putClient]
  | startFailed client retry =>
    simp [step, Option.bind_eq_some_iff] at stepped
    obtain ⟨record, standing, attempting, rfl, rfl⟩ := stepped
    have same : (state.graft requests).clients[client]? = some record := standing
    simp [step, same, guard, attempting.1, if_pos attempting.2]
    rfl
  | retried client =>
    simp [step, Option.bind_eq_some_iff] at stepped
    obtain ⟨record, standing, delayed, rfl, rfl⟩ := stepped
    have same : (state.graft requests).clients[client]? = some record := standing
    simp [step, same, delayed]
    rfl
  | clientStopped client =>
    simp [step, Option.bind_eq_some_iff] at stepped
    obtain ⟨record, standing, rfl, rfl⟩ := stepped
    have same : (state.graft requests).clients[client]? = some record := standing
    simp only [step, same]
    exact congrArg (fun next => some (next, []))
      (State.tryEndLife_graft (state.putClient client { record with stopped := true }) requests
        client)
  | message client message =>
    simp [step, Option.bind_eq_some_iff] at stepped
    obtain ⟨⟨record, standing⟩, rfl, rfl⟩ := stepped
    have same : (state.graft requests).clients[client]? = some record := standing
    simp only [step, same]
    cases message with
    | httpResponse response => exact kind.elim
    | connectionReconnect =>
      exact congrArg (fun next : State => some ({ next with
        reconnecting := state.reconnecting + 1 }, [])) (State.stopConnection_graft state requests _)
    | connectionClose =>
      exact congrArg (fun next => some (next, [])) (State.stopConnection_graft state requests client)
    | connectionRebalance =>
      exact congrArg (fun next => some (next, [])) (State.startConnection_graft state requests true)
    | other => rfl
  | reconnected =>
    simp [step, Option.bind_eq_some_iff] at stepped
    obtain ⟨due, rfl, rfl⟩ := stepped
    have same : 0 < (state.graft requests).reconnecting := due
    simp only [step, same]
    exact congrArg (fun next => some (next, [])) (State.startConnection_graft
      { state with reconnecting := state.reconnecting - 1 } requests true)
  | stop =>
    obtain ⟨rfl, rfl⟩ := Prod.mk.inj (Option.some.inj stepped)
    exact congrArg (fun next => some (next, [])) (State.stop_graft state requests)
  | _ => exact kind.elim

/-- Records of one call in the two runs. The client may differ for the key of the call
that is left out. -/
structure Alike (key : Option Text) (invocation other : Invocation) : Prop where
  anonymous : other.anonymous = invocation.anonymous
  sameKey : other.key = invocation.key
  sameClient : invocation.key ≠ key → other.client = invocation.client

/-- The states of a run and of the run without one of its calls, which had this key. -/
structure Apart (gone : Nat) (key : Option Text) (state alone : State) : Prop where
  side : alone.side = state.side
  own : ∃ invocation, state.invocations[gone]? = some invocation ∧ invocation.key = key
  fewer : alone.invocations.length + 1 = state.invocations.length
  records : ∀ index ≠ gone, Option.Rel (Alike key) state.invocations[index]?
    alone.invocations[renumbered gone index]?
  ackMap : ∀ index ≠ gone, renumbered gone index ∈ alone.ackMap ↔ index ∈ state.ackMap
  deferred : alone.deferred = (state.deferred.filter (·.1 ≠ gone)).map (fun entry =>
    (renumbered gone entry.1, entry.2.renumbered gone))
  keyMapping : ∀ text, key ≠ some text → alone.keyMapping text = state.keyMapping text

section Steps

variable {gone number : Nat} {key : Option Text} {state next alone : State}
  {invocation other : Invocation}

theorem State.eq_graft (side : alone.side = state.side) : alone = state.graft alone := by
  simp only [State.side, Prod.mk.injEq] at side
  obtain ⟨clients, table, stopped, reconnecting⟩ := side
  obtain ⟨⟩ := alone
  simp only [State.graft] at *
  simp [clients, table, stopped, reconnecting]

/-- The record of a call in the run without the other one. -/
theorem Apart.record (apart : Apart gone key state alone) (kept : number ≠ gone)
    (standing : state.invocations[number]? = some invocation) :
    ∃ other, alone.invocations[renumbered gone number]? = some other ∧
      Alike key invocation other := by
  have related := apart.records number kept
  rw [standing] at related
  cases found : alone.invocations[renumbered gone number]? with
  | none =>
    rw [found] at related
    cases related
  | some other =>
    rw [found] at related
    cases related with
    | some alike => exact ⟨other, rfl, alike⟩

/-- A release keeps two mappings equal at every other key, if the clients are the same. -/
theorem releaseClient_apart (own : Option Text) {client otherClient : Nat}
    (same : own ≠ key → otherClient = client)
    (equal : ∀ text, key ≠ some text → alone.keyMapping text = state.keyMapping text) :
    ∀ text, key ≠ some text → (alone.releaseClient own otherClient).keyMapping text =
      (state.releaseClient own client).keyMapping text := by
  intro text other
  cases own with
  | none => exact equal text other
  | some own =>
    rw [releaseClient_keyMapping, releaseClient_keyMapping]
    by_cases named : text = own
    · subst named
      rw [same (Ne.symm other)]
      simp [equal text other]
    · simp [named, equal text other]

/-- A release of the key that is left out does not matter at the other keys. -/
theorem releaseClient_own (client : Nat)
    (equal : ∀ text, key ≠ some text → alone.keyMapping text = state.keyMapping text) :
    ∀ text, key ≠ some text → alone.keyMapping text =
      (state.releaseClient key client).keyMapping text := by
  intro text other
  cases key with
  | none => exact equal text other
  | some own =>
    have different : text ≠ own := fun same => other (same ▸ rfl)
    rw [releaseClient_keyMapping]
    simp [different, equal text other]

/-- A step of the call that is left out. -/
theorem Apart.gone_set (apart : Apart gone key state alone)
    (standing : state.invocations[gone]? = some invocation)
    (replaced : next.invocations = state.invocations.set gone other)
    (sameKey : other.key = invocation.key) (side : next.side = state.side)
    (ackMap : ∀ index ≠ gone, index ∈ next.ackMap ↔ index ∈ state.ackMap)
    (deferred : next.deferred.filter (·.1 ≠ gone) = state.deferred.filter (·.1 ≠ gone))
    (keyMapping : ∀ text, key ≠ some text → alone.keyMapping text = next.keyMapping text) :
    Apart gone key next alone := by
  obtain ⟨inside, -⟩ := List.getElem?_eq_some_iff.mp standing
  obtain ⟨record, found, named⟩ := apart.own
  have same : record = invocation := Option.some.inj (found.symm.trans standing)
  constructor
  · rw [side, apart.side]
  · exact ⟨other, by simp [replaced, inside], by rw [sameKey, ← same, named]⟩
  · rw [replaced, List.length_set, apart.fewer]
  · intro index kept
    rw [replaced, List.getElem?_set_ne (Ne.symm kept)]
    exact apart.records index kept
  · intro index kept
    rw [apart.ackMap index kept, ackMap index kept]
  · rw [apart.deferred, deferred]
  · exact keyMapping

/-- A step of another call. -/
theorem Apart.kept_set {nextAlone : State} {otherNext : Invocation}
    (apart : Apart gone key state alone) (kept : number ≠ gone)
    (standing : state.invocations[number]? = some invocation)
    (replaced : next.invocations = state.invocations.set number other)
    (replacedAlone : nextAlone.invocations =
      alone.invocations.set (renumbered gone number) otherNext)
    (alike : Alike key other otherNext)
    (side : next.side = state.side) (sideAlone : nextAlone.side = alone.side)
    (ackMap : ∀ index ≠ gone, renumbered gone index ∈ nextAlone.ackMap ↔ index ∈ next.ackMap)
    (deferred : nextAlone.deferred = (next.deferred.filter (·.1 ≠ gone)).map (fun entry =>
      (renumbered gone entry.1, entry.2.renumbered gone)))
    (keyMapping : ∀ text, key ≠ some text → nextAlone.keyMapping text = next.keyMapping text) :
    Apart gone key next nextAlone := by
  obtain ⟨record, found, -⟩ := apart.record kept standing
  obtain ⟨inside, -⟩ := List.getElem?_eq_some_iff.mp standing
  obtain ⟨insideAlone, -⟩ := List.getElem?_eq_some_iff.mp found
  constructor
  · rw [side, sideAlone, apart.side]
  · obtain ⟨own, standing, named⟩ := apart.own
    exact ⟨own, by rw [replaced, List.getElem?_set_ne kept, standing], named⟩
  · rw [replaced, replacedAlone, List.length_set, List.length_set, apart.fewer]
  · intro index otherKept
    rw [replaced, replacedAlone]
    by_cases same : number = index
    · subst same
      rw [List.getElem?_set_self inside, List.getElem?_set_self insideAlone]
      exact .some alike
    · have different : renumbered gone number ≠ renumbered gone index := by
        rwa [Ne, renumbered_inj kept otherKept]
      rw [List.getElem?_set_ne same, List.getElem?_set_ne different]
      exact apart.records index otherKept
  · exact ackMap
  · exact deferred
  · exact keyMapping

/-- A step that only rewrites the record of the call that is left out. -/
theorem Apart.put_own (apart : Apart gone key state alone)
    (standing : state.invocations[gone]? = some invocation)
    (sameKey : other.key = invocation.key) : Apart gone key (state.put gone other) alone :=
  apart.gone_set standing rfl sameKey rfl (fun _ _ => Iff.rfl) rfl apart.keyMapping

/-- A step that only rewrites the record of another call, in the same way in both runs. -/
theorem Apart.put_kept (apart : Apart gone key state alone) (kept : number ≠ gone)
    (standing : state.invocations[number]? = some invocation) {changed : Invocation}
    (alike : Alike key changed other) :
    Apart gone key (state.put number changed) (alone.put (renumbered gone number) other) :=
  apart.kept_set kept standing rfl rfl alike rfl rfl apart.ackMap apart.deferred apart.keyMapping

/-- A change of the records of a call that does not look at the call's key or client. -/
theorem Alike.change (alike : Alike key invocation other) (change : Invocation → Invocation)
    (blind : ∀ record, (change record).anonymous = change record.anonymous)
    (sameKey : ∀ record, (change record).key = record.key)
    (sameClient : ∀ record, (change record).client = record.client) :
    Alike key (change invocation) (change other) := by
  constructor
  · rw [blind, blind, alike.anonymous]
  · rw [sameKey, sameKey, alike.sameKey]
  · rw [sameKey, sameClient, sameClient]
    exact alike.sameClient

/-- Numbers of kept calls in the run without the other one. -/
theorem renumbered_surj (gone index : Nat) : ∃ kept, kept ≠ gone ∧ renumbered gone kept = index := by
  by_cases before : index < gone
  · exact ⟨index, before.ne, renumbered_of_lt before⟩
  · refine ⟨index + 1, by omega, ?_⟩
    unfold renumbered
    split <;> omega

theorem ackId_renumbered {response : HttpResponse} {index : Nat}
    (ackId : response.ackId = index + 1) :
    (response.renumbered gone).ackId = renumbered gone index + 1 := by
  simp [HttpResponse.renumbered, ackId]

/-- A response for the call that is left out. -/
theorem Apart.receive_own (apart : Apart gone key state alone) {response : HttpResponse}
    (ackId : response.ackId = gone + 1) : Apart gone key (state.receive response) alone := by
  by_cases listed : gone ∈ state.ackMap
  · rw [receive_listed ackId listed]
    refine ⟨apart.side, apart.own, apart.fewer, apart.records, ?_, ?_, apart.keyMapping⟩
    · intro index kept
      rw [apart.ackMap index kept]
      dsimp only
      split
      · rfl
      · simp [kept]
    · rw [apart.deferred]
      simp [List.filter_append]
  · rw [receive_unlisted (fun index member named => listed ?_)]
    · exact apart
    · have same : index = gone := by omega
      exact same ▸ member

/-- A response for another call, or for none. -/
theorem Apart.receive_kept (apart : Apart gone key state alone) {response : HttpResponse}
    (ackId : response.ackId ≠ gone + 1) :
    Apart gone key (state.receive response) (alone.receive (response.renumbered gone)) := by
  by_cases entry : ∃ number ∈ state.ackMap, response.ackId = number + 1
  · obtain ⟨number, listed, named⟩ := entry
    have kept : number ≠ gone := by
      rintro rfl
      exact ackId named
    rw [receive_listed named listed,
      receive_listed (ackId_renumbered named) ((apart.ackMap number kept).mpr listed)]
    refine ⟨apart.side, apart.own, apart.fewer, apart.records, ?_, ?_, apart.keyMapping⟩
    · intro index otherKept
      cases last : response.notCompleted with
      | true => simpa [HttpResponse.renumbered, last] using apart.ackMap index otherKept
      | false =>
        simp [HttpResponse.renumbered, last, apart.ackMap index otherKept,
          renumbered_inj otherKept kept]
    · simp [apart.deferred, List.filter_append, kept, Callback.renumbered, Callback.ofResponse,
        HttpResponse.renumbered]
  · simp only [not_exists, not_and] at entry
    rw [receive_unlisted entry, receive_unlisted]
    · exact apart
    · intro index listed named
      obtain ⟨kept, different, rfl⟩ := renumbered_surj gone index
      have inside : kept ∈ state.ackMap := (apart.ackMap kept different).mp listed
      cases given : response.ackId with
      | zero => simp [HttpResponse.renumbered, given] at named
      | succ number =>
        have otherwise : number ≠ gone := by
          rintro rfl
          exact ackId given
        rw [ackId_renumbered given, Nat.add_right_cancel_iff,
          renumbered_inj otherwise different] at named
        exact entry kept inside (named ▸ given)

theorem isStopped_side (side : alone.side = state.side) : alone.isStopped = state.isStopped := by
  simp only [State.side, Prod.mk.injEq] at side
  funext client
  simp [State.isStopped, side.1]

theorem getRandomClient_side (side : alone.side = state.side) (draws : Nat → Draw) :
    alone.getRandomClient draws = state.getRandomClient draws := by
  have random : alone.getRandomKey = state.getRandomKey := by
    simp only [State.side, Prod.mk.injEq] at side
    funext draw
    simp [State.getRandomKey, side.2.1]
  have every (left i : Nat) :
      alone.getRandomClientFrom draws i left = state.getRandomClientFrom draws i left := by
    induction left generalizing i with
    | zero => exact congrFun random (draws i)
    | succ left inductionHypothesis =>
      rw [State.getRandomClientFrom, State.getRandomClientFrom, random, isStopped_side side,
        inductionHypothesis]
  exact every 5 0

/-- Another key gets the same client. -/
theorem Apart.getClient_other (apart : Apart gone key state alone) {asked : Option Text}
    (other : asked ≠ key ∨ key = none) (draws : Nat → Draw) :
    alone.getClient asked draws = state.getClient asked draws := by
  unfold State.getClient
  rw [getRandomClient_side apart.side]
  cases asked with
  | none => rfl
  | some text =>
    have different : key ≠ some text := by
      cases other with
      | inl other => exact Ne.symm other
      | inr none => simp [none]
    rw [Option.bind_some, Option.bind_some, apart.keyMapping text different]

/-- As long as there is a client, `getClient` returns one. -/
theorem getClient_isSome (nonempty : state.table ≠ []) (asked : Option Text)
    (draws : Nat → Draw) : (state.getClient asked draws).isSome := by
  unfold State.getClient
  split
  · rfl
  · obtain ⟨client, -, drawn⟩ := getRandomClientFrom_mem nonempty draws 0 5
    rw [State.getRandomClient, drawn]
    rfl

theorem afterGetClient_keyMapping_ne {asked text : Text} (different : text ≠ asked) :
    (state.afterGetClient (some asked)).keyMapping text = state.keyMapping text := by
  unfold State.afterGetClient
  dsimp only
  split
  · split
    · simp [different]
    · rfl
  · rfl

/-- What `getClient` does to the mappings. -/
theorem Apart.afterGetClient_keyMapping (apart : Apart gone key state alone)
    (asked : Option Text) : ∀ text, key ≠ some text →
      (alone.afterGetClient asked).keyMapping text =
        (state.afterGetClient asked).keyMapping text := by
  intro text other
  cases asked with
  | none => exact apart.keyMapping text other
  | some asked =>
    by_cases same : key = some asked
    · have different : text ≠ asked := by
        rintro rfl
        exact other same
      rw [afterGetClient_keyMapping_ne different, afterGetClient_keyMapping_ne different,
        apart.keyMapping text other]
    · unfold State.afterGetClient
      dsimp only
      rw [apart.keyMapping asked same]
      split
      · rw [isStopped_side apart.side]
        split
        · by_cases named : text = asked
          · simp [named]
          · simp [named, apart.keyMapping text other]
        · exact apart.keyMapping text other
      · exact apart.keyMapping text other

theorem Apart.afterGetClient (apart : Apart gone key state alone) (asked : Option Text) :
    Apart gone key (state.afterGetClient asked) (alone.afterGetClient asked) := by
  have mapping := apart.afterGetClient_keyMapping asked
  rw [State.afterGetClient_eq state, State.afterGetClient_eq alone]
  exact ⟨apart.side, apart.own, apart.fewer, apart.records, apart.ackMap, apart.deferred, mapping⟩

/-- A lock keeps two mappings equal at every other key, if the clients are the same. -/
theorem lockClient_apart {asked : Option Text} {client otherClient : Nat}
    (same : asked ≠ key → otherClient = client)
    (equal : ∀ text, key ≠ some text → alone.keyMapping text = state.keyMapping text) :
    ∀ text, key ≠ some text → (alone.lockClient asked otherClient).keyMapping text =
      (state.lockClient asked client).keyMapping text := by
  intro text other
  cases asked with
  | none => exact equal text other
  | some asked =>
    rw [lockClient_keyMapping, lockClient_keyMapping]
    by_cases named : text = asked
    · subst named
      rw [same (Ne.symm other)]
      simp [equal text other]
    · simp [named, equal text other]

/-- Another invocation is handed over in both runs. -/
theorem Apart.hand (apart : Apart gone key state alone) (asked : Option Text) (abortable : Bool)
    {client otherClient : Nat} (same : asked ≠ key → otherClient = client) :
    Apart gone key (state.hand asked abortable client)
      (alone.hand asked abortable otherClient) := by
  obtain ⟨own, standing, named⟩ := apart.own
  obtain ⟨inside, -⟩ := List.getElem?_eq_some_iff.mp standing
  have fewer := apart.fewer
  have fresh : renumbered gone state.invocations.length = alone.invocations.length := by
    unfold renumbered
    split <;> omega
  constructor
  · rw [State.hand_side, State.hand_side, apart.side]
  · refine ⟨own, ?_, named⟩
    rw [State.hand_invocations, List.getElem?_append_left inside, standing]
  · simp [fewer]
  · intro index kept
    simp only [State.hand_invocations]
    rcases Nat.lt_trichotomy index state.invocations.length with before | rfl | after
    · have beforeAlone : renumbered gone index < alone.invocations.length := by
        unfold renumbered
        split <;> omega
      rw [List.getElem?_append_left before, List.getElem?_append_left beforeAlone]
      exact apart.records index kept
    · rw [fresh, List.getElem?_concat_length, List.getElem?_concat_length]
      exact .some ⟨rfl, rfl, same⟩
    · have afterAlone : alone.invocations.length + 1 ≤ renumbered gone index := by
        unfold renumbered
        split <;> omega
      rw [List.getElem?_eq_none (by simpa using Nat.succ_le_of_lt after),
        List.getElem?_eq_none (by simpa using afterAlone)]
      exact .none
  · intro index kept
    have number : renumbered gone index = alone.invocations.length ↔
        index = state.invocations.length := by
      rw [← fresh]
      exact renumbered_inj kept inside.ne'
    simp [apart.ackMap index kept, number]
  · simp [apart.deferred]
  · exact lockClient_apart same apart.keyMapping

/-- Another invocation starts. With the key of the call that is left out, it is assumed to
find the connection attended. -/
theorem Apart.invoke (apart : Apart gone key state alone) {asked : Option Text}
    {abortable : Bool} {draws : Nat → Draw}
    (attended : Attended key state (.invoke asked abortable draws)) :
    Apart gone key (state.invoke asked abortable draws).1
      (alone.invoke asked abortable draws).1 := by
  have got := apart.afterGetClient (asked.filter (· ≠ []))
  unfold State.invoke
  dsimp only
  by_cases other : asked.filter (· ≠ []) ≠ key ∨ key = none
  · rw [apart.getClient_other other draws]
    cases state.getClient (asked.filter (· ≠ [])) draws with
    | none => exact got
    | some client => exact got.hand _ abortable (fun _ => rfl)
  · simp only [not_or, not_not] at other
    obtain ⟨same, named⟩ := other
    have nonempty : state.table ≠ [] := attended named same
    have nonemptyAlone : alone.table ≠ [] := by
      have side := apart.side
      simp only [State.side, Prod.mk.injEq] at side
      rwa [side.2.1]
    obtain ⟨client, found⟩ := Option.isSome_iff_exists.mp
      (getClient_isSome nonempty (asked.filter (· ≠ [])) draws)
    obtain ⟨otherClient, foundAlone⟩ := Option.isSome_iff_exists.mp
      (getClient_isSome nonemptyAlone (asked.filter (· ≠ [])) draws)
    rw [found, foundAlone]
    exact got.hand _ abortable (fun different => absurd same different)

/-- The reader does the same to the records of a call in both runs. -/
theorem Alike.reader (alike : Alike key invocation other) (gone : Nat) (callback : Callback) :
    Alike key (invocation.reader callback).1 (other.reader (callback.renumbered gone)).1 := by
  obtain ⟨sameKey, sameClient, -⟩ := invocation.reader_frame callback
  obtain ⟨otherKey, otherClient, -⟩ := other.reader_frame (callback.renumbered gone)
  constructor
  · rw [← reader_anonymous, ← reader_anonymous, alike.anonymous, anonymous_renumbered]
  · rw [sameKey, otherKey, alike.sameKey]
  · rw [sameKey, sameClient, otherClient]
    exact alike.sameClient

theorem Alike.fields (alike : Alike key invocation other) :
    other.signal = invocation.signal ∧ other.sending = invocation.sending ∧
      other.firstResponse = invocation.firstResponse ∧ other.resolved = invocation.resolved ∧
      other.body = invocation.body := by
  simpa [Invocation.anonymous] using alike.anonymous

theorem Alike.releases (alike : Alike key invocation other) (callback : Callback) :
    other.releases (callback.renumbered gone) = invocation.releases callback := by
  obtain ⟨-, -, before, -⟩ := alike.fields
  obtain ⟨-, -, after, -⟩ := (alike.reader gone callback).fields
  rw [Invocation.releases, Invocation.releases, before, after]

/-- The head of the queue of the run without the call, when it is another's. -/
theorem Apart.head (apart : Apart gone key state alone) {callback : Callback}
    {rest : List (Nat × Callback)} (scheduled : state.deferred = (number, callback) :: rest)
    (kept : number ≠ gone) : alone.deferred =
      (renumbered gone number, callback.renumbered gone) :: (rest.filter (·.1 ≠ gone)).map
        (fun entry => (renumbered gone entry.1, entry.2.renumbered gone)) := by
  rw [apart.deferred, scheduled]
  simp [kept]

/-- A deferred callback of the call that is left out. -/
theorem Apart.tick_own (apart : Apart gone key state alone) {callback : Callback}
    {rest : List (Nat × Callback)} (scheduled : state.deferred = (gone, callback) :: rest)
    (standing : state.invocations[gone]? = some invocation) :
    Apart gone key (state.tick gone callback rest invocation) alone := by
  obtain ⟨sameKey, -⟩ := invocation.reader_frame callback
  obtain ⟨record, found, named⟩ := apart.own
  obtain rfl : record = invocation := Option.some.inj (found.symm.trans standing)
  refine apart.gone_set standing (State.tick_invocations ..) sameKey (State.tick_side ..)
    (by simp) (by simp [scheduled]) ?_
  unfold State.tick
  dsimp only
  split
  · rw [named]
    exact releaseClient_own _ apart.keyMapping
  · exact apart.keyMapping

/-- A deferred callback of another call. -/
theorem Apart.tick_kept (apart : Apart gone key state alone) (callback : Callback)
    (rest : List (Nat × Callback)) (kept : number ≠ gone)
    (standing : state.invocations[number]? = some invocation)
    (alike : Alike key invocation other) :
    Apart gone key (state.tick number callback rest invocation)
      (alone.tick (renumbered gone number) (callback.renumbered gone)
        ((rest.filter (·.1 ≠ gone)).map
          (fun entry => (renumbered gone entry.1, entry.2.renumbered gone))) other) := by
  refine apart.kept_set kept standing (State.tick_invocations ..) (State.tick_invocations ..)
    (alike.reader gone callback) (State.tick_side ..) (State.tick_side ..) ?_ (by simp) ?_
  · simpa using apart.ackMap
  · unfold State.tick
    dsimp only
    rw [alike.releases callback]
    split
    · rw [alike.sameKey]
      exact releaseClient_apart _ alike.sameClient apart.keyMapping
    · exact apart.keyMapping

/-- A send of the call that is left out fails. -/
theorem Apart.sendFailed_own (apart : Apart gone key state alone)
    (standing : state.invocations[gone]? = some invocation) :
    Apart gone key (state.sendFailed gone invocation) alone := by
  obtain ⟨record, found, named⟩ := apart.own
  obtain rfl : record = invocation := Option.some.inj (found.symm.trans standing)
  refine apart.gone_set standing (State.sendFailed_invocations ..) rfl (State.sendFailed_side ..)
    ?_ (by simp) ?_
  · intro index kept
    simp [kept]
  · rw [State.sendFailed, named]
    exact releaseClient_own _ apart.keyMapping

/-- A send of another call fails. -/
theorem Apart.sendFailed_kept (apart : Apart gone key state alone) (kept : number ≠ gone)
    (standing : state.invocations[number]? = some invocation)
    (alike : Alike key invocation other) :
    Apart gone key (state.sendFailed number invocation)
      (alone.sendFailed (renumbered gone number) other) := by
  refine apart.kept_set kept standing (State.sendFailed_invocations ..)
    (State.sendFailed_invocations ..) ?_ (State.sendFailed_side ..) (State.sendFailed_side ..)
    ?_ (by simpa using apart.deferred) ?_
  · exact alike.change (fun record => { record with sending := .failed }) (fun _ => rfl)
      (fun _ => rfl) (fun _ => rfl)
  · intro index alsoKept
    simp [apart.ackMap index alsoKept, renumbered_inj alsoKept kept]
  · rw [State.sendFailed, State.sendFailed, alike.sameKey]
    exact releaseClient_apart _ alike.sameClient apart.keyMapping

/-- The signal of another call fires. -/
theorem Apart.aborted_kept (apart : Apart gone key state alone) (kept : number ≠ gone)
    (standing : state.invocations[number]? = some invocation)
    (alike : Alike key invocation other) :
    Apart gone key
      { state.put number { invocation with signal := .aborted } with
        deferred := state.deferred ++ [(number, .aborted)] }
      { alone.put (renumbered gone number) { other with signal := .aborted } with
        deferred := alone.deferred ++ [(renumbered gone number, .aborted)] } := by
  refine apart.kept_set kept standing rfl rfl ?_ rfl rfl apart.ackMap ?_ apart.keyMapping
  · exact alike.change (fun record => { record with signal := .aborted }) (fun _ => rfl)
      (fun _ => rfl) (fun _ => rfl)
  · simp [apart.deferred, List.filter_append, kept, Callback.renumbered, Callback.aborted]

/-- A step of clients leaves the requests of both runs. -/
theorem Apart.clients (apart : Apart gone key state alone) (ledger : next.ledger = state.ledger) :
    Apart gone key next (next.graft alone) := by
  simp only [State.ledger, Prod.mk.injEq] at ledger
  obtain ⟨keyMapping, ackMap, invocations, deferred⟩ := ledger
  constructor
  · rfl
  · exact invocations ▸ apart.own
  · exact invocations ▸ apart.fewer
  · exact invocations ▸ apart.records
  · exact ackMap ▸ apart.ackMap
  · exact deferred ▸ apart.deferred
  · exact keyMapping ▸ apart.keyMapping

/-- An event of clients is of no call and is the same under any numbers. -/
theorem own_ofClients {event : Event} (kind : event.OfClients) :
    state.own gone event = none ∧ event.renumbered gone = event := by
  revert kind
  cases event with
  | message client message =>
    cases message <;> simp [State.own, Event.OfClients, Event.renumbered]
  | _ => simp [State.own, Event.OfClients, Event.renumbered]

/-- One step of a run and of the run without the call. Its own steps fall away. -/
theorem apart_step {event : Event} {added : List Output} (apart : Apart gone key state alone)
    (attended : Attended key state event)
    (stepped : connection.step state event = some (next, added)) :
    if (state.own gone event).isSome then Apart gone key next alone
    else ∃ nextAlone outputs, connection.step alone (event.renumbered gone) =
      some (nextAlone, outputs) ∧ Apart gone key next nextAlone := by
  cases step_change stepped with
  | clients kind ledger stops _ =>
    obtain ⟨unowned, same⟩ : state.own gone event = none ∧ event.renumbered gone = event :=
      own_ofClients kind
    simp only [unowned, same, Option.isSome_none, Bool.false_eq_true, if_false]
    refine ⟨next.graft alone, [], ?_, apart.clients ledger⟩
    rw [State.eq_graft apart.side]
    exact step_graft kind stepped alone
  | response client response =>
    obtain ⟨own, standing, -⟩ := apart.own
    obtain ⟨inside, -⟩ := List.getElem?_eq_some_iff.mp standing
    by_cases ackId : response.ackId = gone + 1
    · simpa [State.own, inside, ackId] using apart.receive_own ackId
    · simp only [State.own, ackId, and_false, if_false, Option.isSome_none, Bool.false_eq_true]
      refine ⟨alone.receive (response.renumbered gone), [], ?_, apart.receive_kept ackId⟩
      have side := apart.side
      simp only [State.side, Prod.mk.injEq] at side
      simp [connection, step, Option.bind_eq_some_iff] at stepped
      obtain ⟨⟨record, found⟩, -⟩ := stepped
      simp [connection, step, Event.renumbered, side.1, found, State.processMessage]
  | invoked asked abortable draws =>
    obtain ⟨own, standing, -⟩ := apart.own
    obtain ⟨inside, -⟩ := List.getElem?_eq_some_iff.mp standing
    simp only [State.own, inside.ne, false_and, if_false, Option.isSome_none, Bool.false_eq_true]
    exact ⟨_, _, rfl, apart.invoke attended⟩
  | sent number invocation standing sending =>
    by_cases same : number = gone
    · subst same
      simp only [State.own, if_true, Option.isSome_some]
      exact apart.put_own standing rfl
    · simp only [State.own, same, if_false, Option.isSome_none, Bool.false_eq_true]
      obtain ⟨other, found, alike⟩ := apart.record same standing
      have otherSending : other.sending = .pending := alike.fields.2.1.trans sending
      refine ⟨alone.put (renumbered gone number) { other with sending := .sent }, [], ?_, ?_⟩
      · simp [connection, step, Event.renumbered, found, otherSending]
      · apply apart.put_kept same standing
        exact alike.change (fun record => { record with sending := .sent }) (fun _ => rfl)
          (fun _ => rfl) (fun _ => rfl)
  | sendFailed number invocation standing sending =>
    by_cases same : number = gone
    · subst same
      simp only [State.own, if_true, Option.isSome_some]
      exact apart.sendFailed_own standing
    · simp only [State.own, same, if_false, Option.isSome_none, Bool.false_eq_true]
      obtain ⟨other, found, alike⟩ := apart.record same standing
      have otherSending : other.sending = .pending := alike.fields.2.1.trans sending
      refine ⟨_, [], ?_, apart.sendFailed_kept same standing alike⟩
      simp [connection, step, Event.renumbered, found, otherSending]
  | aborted number invocation standing signal =>
    by_cases same : number = gone
    · subst same
      simp only [State.own, if_true, Option.isSome_some]
      exact apart.gone_set standing rfl rfl rfl (fun _ _ => Iff.rfl)
        (by simp [List.filter_append]) apart.keyMapping
    · simp only [State.own, same, if_false, Option.isSome_none, Bool.false_eq_true]
      obtain ⟨other, found, alike⟩ := apart.record same standing
      have otherSignal : other.signal = .waiting := alike.fields.1.trans signal
      refine ⟨_, [], ?_, apart.aborted_kept same standing alike⟩
      simp [connection, step, Event.renumbered, found, otherSignal]
  | ticked number callback rest invocation scheduled standing =>
    by_cases same : number = gone
    · subst same
      simpa [State.own, scheduled] using apart.tick_own scheduled standing
    · simp only [State.own, scheduled, List.head?_cons, Option.map_some, Option.some.injEq, same,
        if_false, Option.isSome_none, Bool.false_eq_true]
      obtain ⟨other, found, alike⟩ := apart.record same standing
      refine ⟨_, [], ?_, apart.tick_kept callback rest same standing alike⟩
      simp [connection, step, Event.renumbered, apart.head scheduled same, found]
  | asked number invocation body standing hasBody asked =>
    by_cases same : number = gone
    · subst same
      simp only [State.own, if_true, Option.isSome_some]
      exact apart.put_own standing rfl
    · simp only [State.own, same, if_false, Option.isSome_none, Bool.false_eq_true]
      obtain ⟨other, found, alike⟩ := apart.record same standing
      obtain ⟨-, sending, -, resolved, sameBody⟩ := alike.fields
      have otherHasBody : other.hasBody = true := by
        rw [← hasBody, Invocation.hasBody, Invocation.hasBody, Invocation.promise,
          Invocation.promise, sending, resolved]
      refine ⟨alone.put (renumbered gone number) { other with body := body }, [], ?_, ?_⟩
      · simp [connection, step, Event.renumbered, found, otherHasBody, sameBody, asked]
      · apply apart.put_kept same standing
        exact alike.change (fun record => { record with body := body }) (fun _ => rfl)
          (fun _ => rfl) (fun _ => rfl)
  | woken number invocation body standing woken =>
    by_cases same : number = gone
    · subst same
      simp only [State.own, if_true, Option.isSome_some]
      exact apart.put_own standing rfl
    · simp only [State.own, same, if_false, Option.isSome_none, Bool.false_eq_true]
      obtain ⟨other, found, alike⟩ := apart.record same standing
      refine ⟨alone.put (renumbered gone number) { other with body := body }, [], ?_, ?_⟩
      · simp [connection, step, Event.renumbered, found, alike.fields.2.2.2.2, woken]
      · apply apart.put_kept same standing
        exact alike.change (fun record => { record with body := body }) (fun _ => rfl)
          (fun _ => rfl) (fun _ => rfl)

end Steps

/-- An invocation that is handed over sets the two runs apart. -/
theorem apart_invoke {state : State} (bounded : state.Bounded) {asked : Option Text}
    {abortable : Bool} {draws : Nat → Draw} {client : Nat}
    (found : state.getClient (asked.filter (· ≠ [])) draws = some client) :
    Apart state.invocations.length (asked.filter (· ≠ []))
      (state.invoke asked abortable draws).1 state := by
  have invoked : (state.invoke asked abortable draws).1 =
      (state.afterGetClient (asked.filter (· ≠ []))).hand (asked.filter (· ≠ [])) abortable
        client := by
    simp only [State.invoke, found]
  constructor
  · rw [State.invoke_side]
  · exact ⟨.handed (asked.filter (· ≠ [])) client abortable, by simp [invoked], rfl⟩
  · simp [invoked]
  · intro index kept
    rw [invoked, State.hand_invocations, State.afterGetClient_invocations]
    cases Nat.lt_or_gt_of_ne kept with
    | inl before =>
      rw [renumbered_of_lt before, List.getElem?_append_left before]
      cases state.invocations[index]? with
      | none => exact .none
      | some invocation => exact .some ⟨rfl, rfl, fun _ => rfl⟩
    | inr after =>
      have beyond : state.invocations.length ≤ renumbered state.invocations.length index := by
        unfold renumbered
        split <;> omega
      rw [List.getElem?_eq_none (by simpa using Nat.succ_le_of_lt after),
        List.getElem?_eq_none beyond]
      exact .none
  · intro index kept
    rw [invoked, State.hand_ackMap, State.afterGetClient_ackMap,
      State.afterGetClient_invocations]
    cases Nat.lt_or_gt_of_ne kept with
    | inl before => simp [renumbered_of_lt before, kept]
    | inr after =>
      have outside (number : Nat) (beyond : state.invocations.length ≤ number) :
          number ∉ state.ackMap := fun member => absurd (bounded.listed number member) beyond.not_gt
      have beyond : state.invocations.length ≤ renumbered state.invocations.length index := by
        unfold renumbered
        split <;> omega
      simp [outside _ beyond, outside index after.le, kept]
  · rw [invoked, State.hand_deferred, State.afterGetClient_deferred]
    have kept : state.deferred.filter (·.1 ≠ state.invocations.length) = state.deferred :=
      List.filter_eq_self.mpr (fun entry member =>
        by simpa using (bounded.scheduled entry member).ne)
    have same : ∀ entry ∈ state.deferred, (renumbered state.invocations.length entry.1,
        entry.2.renumbered state.invocations.length) = entry := by
      intro entry member
      have before := bounded.scheduled entry member
      have named := bounded.named entry member
      obtain ⟨number, data, error, done⟩ := entry
      cases data with
      | none => simp [renumbered_of_lt before, Callback.renumbered]
      | some response =>
        obtain ⟨ackId, statusCode, notCompleted, content⟩ := response
        obtain rfl : ackId = number + 1 := named _ rfl
        simp [renumbered_of_lt before, Callback.renumbered, HttpResponse.renumbered]
    rw [kept, List.map_congr_left same, List.map_id']
  · intro text other
    rw [invoked, State.hand]
    cases named : asked.filter (· ≠ []) with
    | none => rfl
    | some asked =>
      have different : text ≠ asked := by
        rintro rfl
        exact other named
      rw [lockClient_keyMapping, Function.update_of_ne different]
      exact (afterGetClient_keyMapping_ne different).symm

/-- A run without one of its calls is a run, and its states stay apart by that call. -/
theorem apart_run {gone : Nat} {key : Option Text} {events : List Event}
    {state final alone : State} {outputs : List Output} (apart : Apart gone key state alone)
    (attended : connection.Meets (Attended key) state events)
    (ran : connection.run state events = some (final, outputs)) :
    ∃ finalAlone others, connection.run alone (without gone state events) =
      some (finalAlone, others) ∧ Apart gone key final finalAlone := by
  induction events generalizing state alone outputs with
  | nil =>
    obtain ⟨rfl, -⟩ : state = final ∧ [] = outputs := by simpa using ran
    exact ⟨alone, [], rfl, apart⟩
  | cons event events inductionHypothesis =>
    obtain ⟨next, first, rest, stepped, continued, -⟩ :=
      (connection.run_cons_iff _ _ _ _ _).mp ran
    obtain ⟨here, later⟩ := attended
    have moved := apart_step apart here stepped
    simp only [without, stepped]
    split at moved
    · next own =>
      rw [if_pos own]
      exact inductionHypothesis moved (later next first stepped) continued
    · next other =>
      rw [if_neg other]
      obtain ⟨nextAlone, added, steppedAlone, nextApart⟩ := moved
      obtain ⟨finalAlone, others, ranAlone, finalApart⟩ :=
        inductionHypothesis nextApart (later next first stepped) continued
      refine ⟨finalAlone, added ++ others, ?_, finalApart⟩
      rw [connection.run_cons_of_step steppedAlone, ranAlone]
      rfl

end WebPubSub.Tunnel
