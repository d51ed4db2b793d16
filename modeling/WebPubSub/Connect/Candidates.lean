import WebPubSub.Connect.Sessions

/-!
# The queue of candidate ids

`_candidateSids` by itself, under any order of the three calls that touch it: `handleConnect`
puts the id of its connection at the end, `getNextSid` hands out the first one, and `cleanup`
is to take back the id of its own request. `cleanup` looks for the id at the end of the queue
and drops an id from the front, so that it takes back another id, or none, unless its own id
is the only one.

The manager makes these calls only in an order that does no harm: the id of a connection is
handed out or taken back before the next one is put into the queue.
-/

namespace WebPubSub.Connect

open Transport (Output)

/-- A call that touches the queue. -/
inductive CandidateCall where
  /-- `push` of `handleConnect`. -/
  | enqueue (sid : Text)
  | getNextSid
  | cleanup (sid : Text)
deriving DecidableEq

/-- What `cleanup` leaves of the queue. -/
def cleanupCandidates (sids : List Text) (connectionId : Text) : List Text :=
  if lastIndexOf connectionId sids = (sids.length : Int) - 1 then sids.drop 1 else sids

/-- The queue; its outputs are the ids that `getNextSid` hands out. -/
def candidates : Machine (List Text) CandidateCall Text where
  step sids
    | .enqueue sid => some (sids ++ [sid], [])
    | .getNextSid => some (sids.drop 1, sids.head?.toList)
    | .cleanup sid => some (cleanupCandidates sids sid, [])

/-- The ids that are put into the queue. -/
def enqueued (calls : List CandidateCall) : List Text :=
  calls.filterMap (fun
    | .enqueue sid => some sid
    | _ => none)

/-- The ids that are handed out. -/
def handedOut (calls : List CandidateCall) : List Text :=
  ((candidates.run [] calls).map Prod.snd).getD []

/-- An id is cleaned up after it was put into the queue and before it was handed out. -/
def CleanedUp (calls : List CandidateCall) (sid : Text) : Prop :=
  ∃ index, index < calls.length ∧ calls[index]? = some (.cleanup sid) ∧
    sid ∈ enqueued (calls.take index) ∧ sid ∉ handedOut (calls.take index)

instance (calls : List CandidateCall) (sid : Text) : Decidable (CleanedUp calls sid) :=
  inferInstanceAs (Decidable (∃ index, index < calls.length ∧ _))

/-- The ids that the queue is to hand out, in their order. -/
def expected (calls : List CandidateCall) : List Text :=
  (enqueued calls).filter (fun sid => ¬CleanedUp calls sid)

/-- Once the calls are made and `getNextSid` has emptied the queue, the ids handed out are
those that were not cleaned up before, each once and in order. -/
def Disciplined (calls : List CandidateCall) : Prop :=
  handedOut (calls ++ List.replicate (enqueued calls).length .getNextSid) = expected calls

instance (calls : List CandidateCall) : Decidable (Disciplined calls) :=
  inferInstanceAs (Decidable (_ = _))

/-- An id is cleaned up when it is not in the queue, or alone in it. -/
def Removable (sids : List Text) : CandidateCall → Prop
  | .cleanup sid => sid ∉ sids ∨ sids = [sid]
  | _ => True

/-! ## One call -/

theorem cleanupCandidates_absent {sids : List Text} {sid : Text} (absent : sid ∉ sids) :
    cleanupCandidates sids sid = sids := by
  rw [cleanupCandidates, lastIndexOf, if_neg absent]
  split
  · rename_i last
    obtain rfl : sids = [] := List.length_eq_zero_iff.mp (by omega)
    rfl
  · rfl

/-- An id that is not alone in the queue is left in it. -/
theorem cleanupCandidates_listed {sids : List Text} {sid : Text} (listed : sid ∈ sids)
    (others : sids ≠ [sid]) : sid ∈ cleanupCandidates sids sid := by
  rw [cleanupCandidates, lastIndexOf, if_pos listed]
  split
  · rename_i last
    have head : sids.reverse.idxOf sid = 0 := by omega
    cases turned : sids.reverse with
    | nil => simp [List.reverse_eq_nil_iff.mp turned] at listed
    | cons first rest =>
      rw [turned] at head
      obtain rfl : first = sid := by
        by_contra apart
        rw [List.idxOf_cons_ne rest apart] at head
        cases head
      obtain rfl : sids = rest.reverse ++ [first] := by
        rw [← List.reverse_cons, ← turned, List.reverse_reverse]
      cases front : rest.reverse with
      | nil => exact absurd (by rw [front]; rfl) others
      | cons other more => simp
  · exact listed

/-- `cleanup` takes its id out of the queue, and no other, exactly when it may. -/
theorem cleanupCandidates_iff (sids : List Text) (sid : Text) :
    cleanupCandidates sids sid = sids.filter (· ≠ sid) ↔ Removable sids (.cleanup sid) := by
  constructor
  · intro taken
    by_contra kept
    obtain ⟨listed, others⟩ := not_or.mp kept
    have left := cleanupCandidates_listed (not_not.mp listed) others
    rw [taken] at left
    simp at left
  · rintro (absent | rfl)
    · rw [cleanupCandidates_absent absent, List.filter_eq_self.mpr]
      intro other listed
      have apart : other ≠ sid := fun same => absent (same ▸ listed)
      simpa using apart
    · simp [cleanupCandidates, lastIndexOf]

/-! ## Runs -/

section Runs

variable {calls : List CandidateCall} {left handed : List Text}

theorem run_candidates (calls : List CandidateCall) :
    ∃ left handed, candidates.run [] calls = some (left, handed) := by
  induction calls using List.reverseRecOn with
  | nil => exact ⟨[], [], rfl⟩
  | append_singleton calls call inductionHypothesis =>
    obtain ⟨left, handed, ran⟩ := inductionHypothesis
    cases call <;>
      exact ⟨_, _, candidates.run_append_of_run ran (candidates.run_single rfl)⟩

theorem handedOut_of_run (ran : candidates.run [] calls = some (left, handed)) :
    handedOut calls = handed := by
  rw [handedOut, ran]
  rfl

@[simp]
theorem enqueued_append (first second : List CandidateCall) :
    enqueued (first ++ second) = enqueued first ++ enqueued second :=
  List.filterMap_append

theorem length_left (ran : candidates.run [] calls = some (left, handed)) :
    left.length ≤ (enqueued calls).length := by
  refine candidates.run_induction
    (fun calls _ left => left.length ≤ (enqueued calls).length) (Nat.le_refl _) ?_ ran
  intro before outputs state call next added _ bounded stepped
  rw [enqueued_append, List.length_append]
  cases call with
  | enqueue sid =>
    cases stepped
    rw [List.length_append]
    exact Nat.add_le_add_right bounded 1
  | getNextSid =>
    cases stepped
    rw [List.length_drop]
    omega
  | cleanup sid =>
    cases stepped
    unfold cleanupCandidates
    split
    · rw [List.length_drop]
      omega
    · omega

/-- What is left in the queue is handed out by the next calls of `getNextSid`. -/
theorem run_getNextSid (count : Nat) (sids : List Text) :
    candidates.run sids (List.replicate count .getNextSid) =
      some (sids.drop count, sids.take count) := by
  induction count generalizing sids with
  | zero => rfl
  | succ count inductionHypothesis =>
    have stepped : candidates.step sids .getNextSid =
        some (sids.drop 1, sids.head?.toList) := rfl
    rw [List.replicate_succ, candidates.run_cons_of_step stepped, inductionHypothesis]
    cases sids with
    | nil => simp
    | cons sid sids => rfl

theorem disciplined_iff (ran : candidates.run [] calls = some (left, handed)) :
    Disciplined calls ↔ handed ++ left = expected calls := by
  have drained := candidates.run_append_of_run ran
    (run_getNextSid (enqueued calls).length left)
  rw [Disciplined, handedOut_of_run drained, List.take_of_length_le (length_left ran)]

theorem CleanedUp.enqueued {sid : Text} (cleaned : CleanedUp calls sid) :
    sid ∈ enqueued calls := by
  obtain ⟨index, -, -, listed, -⟩ := cleaned
  rw [← List.take_append_drop index calls, enqueued_append]
  exact List.mem_append_left _ listed

/-- The last call cleans up the id that it names, if this one waits. -/
theorem cleanedUp_concat (call : CandidateCall) (sid : Text) :
    CleanedUp (calls ++ [call]) sid ↔ CleanedUp calls sid ∨
      (call = .cleanup sid ∧ sid ∈ Connect.enqueued calls ∧ sid ∉ handedOut calls) := by
  constructor
  · rintro ⟨index, bounded, called, listed, waiting⟩
    rw [List.length_append, List.length_singleton] at bounded
    rcases Nat.lt_or_eq_of_le (Nat.le_of_lt_succ bounded) with within | rfl
    · rw [List.getElem?_append_left within] at called
      rw [List.take_append_of_le_length (Nat.le_of_lt within)] at listed waiting
      exact Or.inl ⟨index, within, called, listed, waiting⟩
    · rw [List.getElem?_append_right (Nat.le_refl _)] at called
      rw [List.take_left' rfl] at listed waiting
      exact Or.inr ⟨by simpa using called, listed, waiting⟩
  · rintro (⟨index, within, called, listed, waiting⟩ | ⟨rfl, listed, waiting⟩)
    · refine ⟨index, ?_, ?_, ?_⟩
      · rw [List.length_append]
        omega
      · rwa [List.getElem?_append_left within]
      · rw [List.take_append_of_le_length (Nat.le_of_lt within)]
        exact ⟨listed, waiting⟩
    · refine ⟨calls.length, ?_, ?_, ?_⟩
      · simp
      · simp
      · rw [List.take_left' rfl]
        exact ⟨listed, waiting⟩

/-- An id that is not enqueued twice was not cleaned up before it is enqueued. -/
theorem expected_enqueue {sid : Text} (fresh : sid ∉ Connect.enqueued calls) :
    expected (calls ++ [.enqueue sid]) = expected calls ++ [sid] := by
  have same (other : Text) : CleanedUp (calls ++ [.enqueue sid]) other ↔ CleanedUp calls other := by
    simp [cleanedUp_concat]
  have kept : ¬CleanedUp calls sid := fun cleaned => fresh cleaned.enqueued
  simp [expected, same, kept, Connect.enqueued]

theorem expected_getNextSid : expected (calls ++ [.getNextSid]) = expected calls := by
  simp [expected, cleanedUp_concat, Connect.enqueued]

/-- An id that waits is no longer expected once it is cleaned up. -/
theorem expected_cleanup (distinct : (Connect.enqueued calls).Nodup)
    (balanced : handed ++ left = expected calls)
    (ran : candidates.run [] calls = some (left, handed)) (sid : Text) :
    expected (calls ++ [.cleanup sid]) = handed ++ left.filter (· ≠ sid) := by
  have split : expected (calls ++ [.cleanup sid]) =
      (expected calls).filter (fun other =>
        ¬(sid = other ∧ other ∈ Connect.enqueued calls ∧ other ∉ handed)) := by
    simp only [expected, cleanedUp_concat, CandidateCall.cleanup.injEq, handedOut_of_run ran,
      List.filter_filter, enqueued_append]
    rw [show Connect.enqueued [.cleanup sid] = [] from rfl, List.append_nil]
    apply List.filter_congr
    intro other _
    rw [← Bool.decide_and, decide_eq_decide, not_or, and_comm]
  have apart : (handed ++ left).Nodup := by
    rw [balanced]
    exact distinct.filter _
  have listed : ∀ other ∈ handed ++ left, other ∈ Connect.enqueued calls := by
    intro other member
    rw [balanced] at member
    exact List.mem_of_mem_filter member
  rw [split, ← balanced, List.filter_append]
  congr 1
  · apply List.filter_eq_self.mpr
    intro other member
    simp [member]
  · apply List.filter_congr
    intro other member
    have waiting : other ∉ handed :=
      fun before => (List.disjoint_of_nodup_append apart) before member
    simp [waiting, listed other (List.mem_append_right _ member), eq_comm]

/-- One more call keeps the balance exactly when it may clean up what it cleans up. -/
theorem balanced_concat {next : List Text} {added : List Text} {call : CandidateCall}
    (distinct : (Connect.enqueued (calls ++ [call])).Nodup)
    (balanced : handed ++ left = expected calls)
    (ran : candidates.run [] calls = some (left, handed))
    (stepped : candidates.step left call = some (next, added)) :
    (handed ++ added) ++ next = expected (calls ++ [call]) ↔ Removable left call := by
  rw [enqueued_append] at distinct
  cases call with
  | enqueue sid =>
    cases stepped
    have fresh : sid ∉ Connect.enqueued calls :=
      fun listed => (List.disjoint_of_nodup_append distinct) listed List.mem_cons_self
    rw [expected_enqueue fresh, ← balanced]
    exact iff_of_true (by simp) trivial
  | getNextSid =>
    cases stepped
    rw [expected_getNextSid, ← balanced]
    refine iff_of_true ?_ trivial
    cases left <;> simp
  | cleanup sid =>
    cases stepped
    rw [expected_cleanup distinct.of_append_left balanced ran, List.append_nil,
      List.append_cancel_left_eq]
    exact cleanupCandidates_iff left sid

end Runs

/-- Whatever the order of the calls, the queue hands out the enqueued ids that were not cleaned
up before, each once and in order, exactly when every cleanup finds its id outside the queue or
alone in it. -/
theorem candidates_disciplined_iff (calls : List CandidateCall)
    (distinct : (enqueued calls).Nodup) :
    (∀ before, before <+: calls → Disciplined before) ↔ candidates.Meets Removable [] calls := by
  induction calls using List.reverseRecOn with
  | nil =>
    refine iff_of_true ?_ trivial
    intro before start
    rw [List.prefix_nil.mp start]
    rfl
  | append_singleton calls call inductionHypothesis =>
    have earlier : (enqueued calls).Nodup := by
      rw [enqueued_append] at distinct
      exact distinct.of_append_left
    obtain ⟨left, handed, ran⟩ := run_candidates calls
    obtain ⟨next, added, stepped⟩ :
        ∃ next added, candidates.step left call = some (next, added) := by
      cases call <;> exact ⟨_, _, rfl⟩
    have last := candidates.run_append_of_run ran (candidates.run_single stepped)
    rw [candidates.meets_concat_iff ran, ← inductionHypothesis earlier]
    have whole : (∀ before, before <+: calls ++ [call] → Disciplined before) ↔
        (∀ before, before <+: calls → Disciplined before) ∧ Disciplined (calls ++ [call]) := by
      simp only [List.prefix_concat_iff, forall_eq_or_imp]
      exact and_comm
    rw [whole]
    apply and_congr_right
    intro front
    have balanced := (disciplined_iff ran).mp (front calls (List.prefix_refl _))
    rw [disciplined_iff last]
    exact balanced_concat distinct balanced ran stepped

theorem candidates_disciplined_iff_alone :
    (∀ before, before <+: [.enqueue ['a'], .cleanup ['a'], .enqueue ['b'], .getNextSid] →
        Disciplined before) ↔
      candidates.Meets Removable []
        [.enqueue ['a'], .cleanup ['a'], .enqueue ['b'], .getNextSid] :=
  candidates_disciplined_iff _ (by decide)

/-- The cleanup of the second id takes the first one, and the second is handed out. -/
theorem neighbour_taken :
    (enqueued [.enqueue ['a'], .enqueue ['b'], .cleanup ['b']]).Nodup ∧
      handedOut [.enqueue ['a'], .enqueue ['b'], .cleanup ['b'], .getNextSid] = [['b']] ∧
      expected [.enqueue ['a'], .enqueue ['b'], .cleanup ['b'], .getNextSid] = [['a']] ∧
      ¬Disciplined [.enqueue ['a'], .enqueue ['b'], .cleanup ['b'], .getNextSid] := by
  decide

/-! ## The calls of the manager -/

section Manager

variable {codec : Codec} {state next : State} {index : Nat} {request : Request}

/-- The calls for what a transport refuses. -/
def refusals (connectionId : Text) (outputs : List Output) : List CandidateCall :=
  outputs.filterMap (fun
    | .refuse _ => some (.cleanup connectionId)
    | _ => none)

/-- The calls during a step of the transport of a request. -/
def State.transportCalls (codec : Codec) (state : State) (index : Nat)
    (event : Transport.Event) : List CandidateCall :=
  match state.requests[index]? with
  | none => []
  | some request =>
    match request.transport.bind (Transport.step codec · event) with
    | none => []
    | some (_, outputs) => refusals request.connectionId outputs

/-- The calls that an event leads to. -/
def Event.calls (codec : Codec) (state : State) : Event → List CandidateCall
  | .connect connectionId (.invalid _) => [.cleanup connectionId]
  | .connect connectionId (.refused _) => [.enqueue connectionId, .cleanup connectionId]
  | .connect connectionId .generated => [.enqueue connectionId, .getNextSid]
  | .refuse index _ | .thrown index _ =>
    (state.requests[index]?).toList.map (fun request => .cleanup request.connectionId)
  | .returned index =>
    ((state.requests[index]?).filter (fun request =>
      (state.clients request.connectionId).isNone)).toList.map
        (fun request => .cleanup request.connectionId)
  | .timeout index =>
    ((state.requests[index]?).filter (fun request => !request.connectResponded)).toList.map
      (fun request => .cleanup request.connectionId)
  | .transport index event => state.transportCalls codec index event
  | .close index =>
    match (state.requests[index]?).bind Request.contextTransport with
    | none => []
    | some client => state.transportCalls codec client .close
  | .construct _ _ | .closed _ | .disconnected _ => []

/-- The calls of a run. -/
def managerCalls (codec : Codec) (events : List Event) : List CandidateCall :=
  ((manager codec).steps State.initial events).flatMap (fun taken => taken.2.calls codec taken.1)

/-- Calls that take back ids from an empty queue. -/
theorem run_cleanups {calls : List CandidateCall}
    (cleanups : ∀ call ∈ calls, ∃ sid, call = .cleanup sid) :
    candidates.run [] calls = some ([], []) ∧ candidates.Meets Removable [] calls := by
  induction calls with
  | nil => exact ⟨rfl, trivial⟩
  | cons call calls inductionHypothesis =>
    obtain ⟨⟨sid, rfl⟩, others⟩ := List.forall_mem_cons.mp cleanups
    obtain ⟨ran, removable⟩ := inductionHypothesis others
    have stepped : candidates.step [] (.cleanup sid) = some ([], []) := rfl
    constructor
    · rw [candidates.run_cons_of_step stepped, ran]
      rfl
    · exact (candidates.meets_cons_of_step stepped calls).mp ⟨Or.inl List.not_mem_nil, removable⟩

theorem refusals_cleanups (connectionId : Text) (outputs : List Output) :
    ∀ call ∈ refusals connectionId outputs, ∃ sid, call = .cleanup sid := by
  intro call listed
  obtain ⟨output, -, found⟩ := List.mem_filterMap.mp listed
  cases output with
  | refuse errorMessage =>
    cases found
    exact ⟨connectionId, rfl⟩
  | _ => cases found

theorem transportCalls_cleanups (event : Transport.Event) :
    ∀ call ∈ state.transportCalls codec index event, ∃ sid, call = .cleanup sid := by
  unfold State.transportCalls
  split
  · exact fun call listed => by cases listed
  · split
    · exact fun call listed => by cases listed
    · exact refusals_cleanups _ _

/-- No event leaves an id in an empty queue, or cleans up one that waits behind another. -/
theorem calls_spec (codec : Codec) (state : State) (event : Event) :
    (∃ handed, candidates.run [] (event.calls codec state) = some ([], handed)) ∧
      candidates.Meets Removable [] (event.calls codec state) := by
  have taken {calls : List CandidateCall}
      (cleanups : ∀ call ∈ calls, ∃ sid, call = .cleanup sid) :
      (∃ handed, candidates.run [] calls = some ([], handed)) ∧
        candidates.Meets Removable [] calls :=
    ⟨⟨[], (run_cleanups cleanups).1⟩, (run_cleanups cleanups).2⟩
  have named (requests : List Request) : ∀ call ∈ requests.map
      (fun request => CandidateCall.cleanup request.connectionId), ∃ sid, call = .cleanup sid := by
    intro call listed
    obtain ⟨request, -, rfl⟩ := List.mem_map.mp listed
    exact ⟨_, rfl⟩
  cases event with
  | connect connectionId opening =>
    cases opening with
    | invalid error => exact taken (named [Request.arrived connectionId])
    | refused message =>
      have alone : cleanupCandidates [connectionId] connectionId = [] := by
        rw [(cleanupCandidates_iff _ _).mpr (Or.inr rfl)]
        simp
      have enqueue : candidates.step [] (.enqueue connectionId) = some ([connectionId], []) := rfl
      have cleanup : candidates.step [connectionId] (.cleanup connectionId) =
          some (cleanupCandidates [connectionId] connectionId, []) := rfl
      rw [alone] at cleanup
      refine ⟨⟨[], ?_⟩, ?_⟩
      · exact candidates.run_append_of_run (candidates.run_single enqueue)
          (candidates.run_single cleanup)
      · rw [Event.calls, ← candidates.meets_cons_of_step enqueue,
          ← candidates.meets_cons_of_step cleanup]
        exact ⟨trivial, Or.inr rfl, trivial⟩
    | generated =>
      have enqueue : candidates.step [] (.enqueue connectionId) = some ([connectionId], []) := rfl
      have handed : candidates.step [connectionId] .getNextSid = some ([], [connectionId]) := rfl
      refine ⟨⟨[connectionId], ?_⟩, ?_⟩
      · exact candidates.run_append_of_run (candidates.run_single enqueue)
          (candidates.run_single handed)
      · rw [Event.calls, ← candidates.meets_cons_of_step enqueue,
          ← candidates.meets_cons_of_step handed]
        exact ⟨trivial, trivial, trivial⟩
  | refuse index message => exact taken (named _)
  | thrown index error => exact taken (named _)
  | returned index => exact taken (named _)
  | timeout index => exact taken (named _)
  | transport index event => exact taken (transportCalls_cleanups event)
  | close index =>
    simp only [Event.calls]
    split
    · exact taken (fun call listed => by cases listed)
    · exact taken (transportCalls_cleanups _)
  | construct index handshake => exact taken (fun call listed => by cases listed)
  | closed index => exact taken (fun call listed => by cases listed)
  | disconnected connectionId => exact taken (fun call listed => by cases listed)

/-- One output of a transport: a refusal cleans up the id of its request. -/
theorem receive_call (standing : state.requests[index]? = some request) (output : Output) :
    candidates.run state.candidateSids (refusals request.connectionId [output]) =
      some ((State.receive index state output).candidateSids, []) := by
  cases output with
  | accept payload => simp [State.receive, standing, State.onAccept, State.put, refusals]
  | refuse errorMessage =>
    have refused : State.receive index state (.refuse errorMessage) =
        state.onRefuse index request (some errorMessage) := by simp [State.receive, standing]
    rw [refused]
    exact candidates.run_single rfl
  | sendToConnection message => simp [State.receive, standing, refusals]
  | drain => simp [State.receive, standing, refusals]

/-- What a transport refuses is cleaned up in turn. -/
theorem receive_calls (standing : state.requests[index]? = some request)
    (outputs : List Output) :
    candidates.run state.candidateSids (refusals request.connectionId outputs) =
      some ((outputs.foldl (State.receive index) state).candidateSids, []) := by
  induction outputs generalizing state request with
  | nil => rfl
  | cons output outputs inductionHypothesis =>
    have kept : Keeps state (State.receive index state output) := keeps_receive state output
    obtain ⟨after, stands, same⟩ := kept.standing standing
    have named : after.connectionId = request.connectionId := congrArg Prod.fst same
    have others := inductionHypothesis stands
    rw [named] at others
    have split : refusals request.connectionId (output :: outputs) =
        refusals request.connectionId [output] ++ refusals request.connectionId outputs :=
      List.filterMap_append (l := [output])
    rw [split]
    exact candidates.run_append_of_run (receive_call standing output) others

theorem transport_calls {event : Transport.Event} {outputs : List (Nat × Output)}
    (stepped : state.transportStep codec index event = some (next, outputs)) :
    candidates.run state.candidateSids (state.transportCalls codec index event) =
      some (next.candidateSids, []) := by
  obtain ⟨request, transport, moved, given, standing, owned, taken, rfl, -⟩ :=
    transportStep_taken stepped
  have bounded : index < state.requests.length := (List.getElem?_eq_some_iff.mp standing).1
  have calls : state.transportCalls codec index event = refusals request.connectionId given := by
    simp [State.transportCalls, standing, owned, taken]
  have stands : (state.put index { request with transport := some moved }).requests[index]? =
      some { request with transport := some moved } := List.getElem?_set_self bounded
  rw [calls]
  exact receive_calls stands given

/-- The manager changes the queue by the calls of its events, and in no other way. -/
theorem step_calls {event : Event} {outputs : List (Nat × Output)}
    (stepped : step codec state event = some (next, outputs)) :
    ∃ handed, candidates.run state.candidateSids (event.calls codec state) =
      some (next.candidateSids, handed) := by
  cases step_taken stepped with
  | connect connectionId opening => cases opening <;> exact ⟨_, rfl⟩
  | refuse message standing handshaking =>
    simp only [Event.calls, standing]
    exact ⟨_, rfl⟩
  | construct handshake standing handshaking => exact ⟨_, rfl⟩
  | thrown error standing active =>
    simp only [Event.calls, standing]
    exact ⟨_, rfl⟩
  | @returned index request standing left =>
    cases held : state.clients request.connectionId with
    | none =>
      simp only [Event.calls, standing, State.returned, held, Option.filter]
      exact ⟨_, rfl⟩
    | some client =>
      simp only [Event.calls, standing, State.returned, held, Option.filter]
      exact ⟨_, rfl⟩
  | @timeout index request standing armed =>
    cases responded : request.connectResponded with
    | true =>
      simp only [Event.calls, standing, State.timeout, responded, Option.filter]
      exact ⟨_, rfl⟩
    | false =>
      simp only [Event.calls, standing, State.timeout, responded, Option.filter]
      exact ⟨_, rfl⟩
  | transport other moved => exact ⟨[], transport_calls moved⟩
  | close standing bound moved =>
    simp only [Event.calls, standing, Option.bind_some, bound]
    exact ⟨[], transport_calls moved⟩
  | closed standing socket => exact ⟨_, rfl⟩
  | disconnected connectionId connected => exact ⟨_, rfl⟩

/-- In every run of the manager its calls find their ids outside the queue or alone in it, and
leave the queue empty. -/
theorem managerCalls_removable {events : List Event} {outputs : List (Nat × Output)}
    (ran : (manager codec).run State.initial events = some (state, outputs)) :
    state.candidateSids = [] ∧
      (∃ handed, candidates.run [] (managerCalls codec events) = some ([], handed)) ∧
      candidates.Meets Removable [] (managerCalls codec events) := by
  induction events using List.reverseRecOn generalizing state outputs with
  | nil =>
    obtain ⟨rfl, -⟩ := Prod.mk.inj (Option.some.inj ran)
    exact ⟨rfl, ⟨[], rfl⟩, trivial⟩
  | append_singleton events event inductionHypothesis =>
    obtain ⟨middle, first, rest, began, ended, -⟩ := (manager codec).run_append_inv ran
    obtain ⟨next, added, none, stepped, finished, -⟩ :=
      ((manager codec).run_cons_iff _ _ _ _ _).mp ended
    obtain ⟨rfl, -⟩ := Prod.mk.inj (Option.some.inj finished)
    obtain ⟨empty, ⟨handed, before⟩, removable⟩ := inductionHypothesis began
    obtain ⟨⟨more, after⟩, others⟩ := calls_spec codec middle event
    obtain ⟨same, changed⟩ := step_calls stepped
    have split : managerCalls codec (events ++ [event]) =
        managerCalls codec events ++ event.calls codec middle := by
      rw [managerCalls, (manager codec).steps_append began, List.flatMap_append]
      simp only [Machine.steps, stepped, List.flatMap_cons, List.flatMap_nil, List.append_nil]
      rfl
    rw [empty, after] at changed
    refine ⟨(Prod.mk.inj (Option.some.inj changed)).1.symm, ⟨handed ++ more, ?_⟩, ?_⟩
    · rw [split]
      exact candidates.run_append_of_run before after
    · rw [split]
      exact (candidates.meets_append_iff before).mpr ⟨removable, others⟩

end Manager

end WebPubSub.Connect
