import Mathlib.Algebra.BigOperators.Group.List.Basic
import Mathlib.Data.List.DropRight
import WebPubSub.AdminUi.View

/-!
# Events and their counts in the admin view

Each namespace lists the latest events of its own, at most a thousand, under numbers that all
namespaces share. The counts that the servers report are summed by kind of event and by a slot
of ten seconds, and a slot is forgotten ten minutes after it began. The sum of a slot that is
still shown is complete as long as the clock of the browser does not go back.
-/

namespace WebPubSub.AdminUi

/-! ## The latest events -/

/-- The event that a message adds under the next number, and its namespace. -/
def Mutation.logged (number : Nat) : Mutation → Option (Text × Event)
  | .onSocketConnected timestamp socket =>
    some (socket.nsp, ⟨number, timestamp, socket.id, .connection⟩)
  | .onSocketDisconnected timestamp nsp id reason =>
    some (nsp, ⟨number, timestamp, id, .disconnection reason⟩)
  | .onRoomJoined timestamp nsp room id => some (nsp, ⟨number, timestamp, id, .roomJoined room⟩)
  | .onRoomLeft timestamp nsp room id => some (nsp, ⟨number, timestamp, id, .roomLeft room⟩)
  | .onEventReceived timestamp nsp id args =>
    some (nsp, ⟨number, timestamp, id, shift .eventReceived args⟩)
  | .onEventSent timestamp nsp id args =>
    some (nsp, ⟨number, timestamp, id, shift .eventSent args⟩)
  | .selectNamespace _ | .onAllSockets _ | .onSocketUpdated _ | .onServerStats _ _ => none

/-- All events of a run, numbered in their order after the ones before. -/
def history : Nat → List Mutation → List (Text × Event)
  | _, [] => []
  | counter, mutation :: mutations =>
    match mutation.logged (counter + 1) with
    | none => history counter mutations
    | some entry => entry :: history (counter + 1) mutations

/-- The events of one namespace. -/
def eventsOf (name : Text) (log : List (Text × Event)) : List Event :=
  (log.filter (fun entry => entry.1 = name)).map Prod.snd

/-- A list that is cut to its last elements is extended and cut again. -/
theorem pushBounded_rtake (events : List Event) (event : Event) :
    pushBounded (events.rtake MAX_ARRAY_LENGTH) event =
      (events ++ [event]).rtake MAX_ARRAY_LENGTH := by
  have length : (events.rtake MAX_ARRAY_LENGTH ++ [event]).length =
      min MAX_ARRAY_LENGTH events.length + 1 := by
    rw [List.length_append, List.rtake, List.length_drop, List.length_singleton]
    omega
  have positive : 0 < MAX_ARRAY_LENGTH := Nat.succ_pos _
  simp only [pushBounded, length]
  split
  · rename_i long
    have full : MAX_ARRAY_LENGTH ≤ events.length := by omega
    have start : (events ++ [event]).length - MAX_ARRAY_LENGTH =
        events.length - MAX_ARRAY_LENGTH + 1 := by
      rw [List.length_append, List.length_singleton]
      omega
    rw [List.rtake, List.rtake, start, ← List.tail_drop,
      List.drop_append_of_le_length (Nat.sub_le _ _)]
  · rename_i short
    have few : events.length + 1 ≤ MAX_ARRAY_LENGTH := by omega
    have whole : events.length - MAX_ARRAY_LENGTH = 0 := by omega
    have still : (events ++ [event]).length - MAX_ARRAY_LENGTH = 0 := by
      rw [List.length_append, List.length_singleton]
      omega
    rw [List.rtake, List.rtake, whole, still, List.drop_zero, List.drop_zero]

/-- The events of each namespace, and the counter. -/
structure Quiet (before after : State) : Prop where
  events : ∀ name, (after.namespaceOf name).events = (before.namespaceOf name).events
  counter : after.eventCounter = before.eventCounter

theorem quiet_updateNamespace (state : State) {update : Namespace → Namespace}
    (kept : ∀ nsp, (update nsp).name = nsp.name)
    (silent : ∀ nsp, (update nsp).events = nsp.events) (name : Text) (objects : List Socket)
    (clients : List Client) :
    Quiet state { state with
      objects := objects
      namespaces := updateNamespace update name state.namespaces
      clients := clients } where
  events other := by
    refine (congrArg Namespace.events (namespaceOf_update state kept name other)).trans ?_
    split
    · rename_i same
      rw [silent, same]
    · rfl
  counter := rfl

theorem quiet_addSocket (state : State) (socket : Socket) :
    Quiet state (addSocket state socket) := by
  apply quiet_updateNamespace state (Namespace.name_enter _ socket _)
  intro nsp
  rfl

theorem quiet_clear (state : State) :
    Quiet state { state with
      namespaces := state.namespaces.map Namespace.clear, clients := [] } where
  events name := by
    rw [State.namespaceOf, State.namespaceOf]
    dsimp only
    rw [find_clear]
    cases Keyed.find Namespace.name name state.namespaces <;> rfl
  counter := rfl

theorem Quiet.trans {first second third : State} (one : Quiet first second)
    (two : Quiet second third) : Quiet first third where
  events name := (two.events name).trans (one.events name)
  counter := two.counter.trans one.counter

theorem quiet_onAllSockets (state : State) (sockets : List Socket) :
    Quiet state (onAllSockets state sockets) := by
  have added : ∀ start, Quiet start (sockets.foldl addSocket start) := by
    induction sockets with
    | nil => exact fun start => ⟨fun _ => rfl, rfl⟩
    | cons socket sockets inductionHypothesis =>
      intro start
      exact (quiet_addSocket start socket).trans (inductionHypothesis _)
  have filled := (quiet_clear state).trans (added _)
  exact ⟨filled.events, filled.counter⟩

/-- What the events of the namespaces are after a message. -/
def Extended (state after : State) : Option (Text × Event) → Prop
  | none => Quiet state after
  | some (nsp, event) => after.eventCounter = state.eventCounter + 1 ∧
      ∀ name, (after.namespaceOf name).events =
        if name = nsp then pushBounded (state.namespaceOf name).events event
        else (state.namespaceOf name).events

theorem extended_pushEvents {before state : State} (quiet : Quiet before state) (nsp : Text)
    (timestamp : Int) (id : Text) (detail : EventDetail) :
    Extended before (pushEvents state nsp timestamp id detail)
      (some (nsp, ⟨before.eventCounter + 1, timestamp, id, detail⟩)) := by
  constructor
  · exact congrArg (· + 1) quiet.counter
  · intro name
    have looked := namespaceOf_update state
      (Namespace.name_log ⟨state.eventCounter + 1, timestamp, id, detail⟩) nsp name
    refine (congrArg Namespace.events looked).trans ?_
    split
    · rename_i same
      rw [same, Namespace.log, quiet.events, quiet.counter]
    · exact quiet.events name

/-- A message adds the event it logs, and no other. -/
theorem extended_commit (state : State) (mutation : Mutation) :
    Extended state (commit state mutation) (mutation.logged (state.eventCounter + 1)) := by
  cases mutation with
  | selectNamespace selected => exact ⟨fun _ => rfl, rfl⟩
  | onAllSockets sockets => exact quiet_onAllSockets state sockets
  | onSocketConnected timestamp socket =>
    exact extended_pushEvents (quiet_addSocket state socket) _ _ _ _
  | onSocketUpdated update =>
    exact quiet_updateNamespace state (fun _ => rfl) (fun _ => rfl) update.nsp _ _
  | onSocketDisconnected timestamp nsp id reason =>
    apply extended_pushEvents
    apply quiet_updateNamespace state (Namespace.name_dismiss _ id)
    intro entry
    rfl
  | onRoomJoined timestamp nsp room id =>
    apply extended_pushEvents
    apply quiet_updateNamespace state (Namespace.name_join _ id room)
    intro entry
    rw [Namespace.join]
    split <;> rfl
  | onRoomLeft timestamp nsp room id =>
    apply extended_pushEvents
    apply quiet_updateNamespace state (Namespace.name_leave _ id room)
    intro entry
    rfl
  | onServerStats aggregatedEvents now =>
    cases aggregatedEvents with
    | none => exact ⟨fun _ => rfl, rfl⟩
    | some aggregated => exact ⟨fun _ => rfl, rfl⟩
  | onEventReceived timestamp nsp id args =>
    exact extended_pushEvents ⟨fun _ => rfl, rfl⟩ _ _ _ _
  | onEventSent timestamp nsp id args =>
    exact extended_pushEvents ⟨fun _ => rfl, rfl⟩ _ _ _ _

theorem events_run (mutations : List Mutation) {state : State} (name : Text) {log : List Event}
    (shown : (state.namespaceOf name).events = log.rtake MAX_ARRAY_LENGTH) :
    ((mutations.foldl commit state).namespaceOf name).events =
      (log ++ eventsOf name (history state.eventCounter mutations)).rtake MAX_ARRAY_LENGTH := by
  induction mutations generalizing state log with
  | nil =>
    rw [List.foldl_nil, history]
    simpa [eventsOf] using shown
  | cons mutation mutations inductionHypothesis =>
    have extended := extended_commit state mutation
    rw [List.foldl_cons, history]
    cases logged : mutation.logged (state.eventCounter + 1) with
    | none =>
      rw [logged] at extended
      have same := inductionHypothesis ((extended.events name).trans shown)
      rw [same, extended.counter]
    | some entry =>
      obtain ⟨nsp, event⟩ := entry
      rw [logged] at extended
      obtain ⟨counter, after⟩ := extended
      have here := after name
      by_cases own : name = nsp
      · subst own
        rw [if_pos rfl, shown, pushBounded_rtake] at here
        rw [inductionHypothesis here, counter]
        simp [eventsOf]
      · rw [if_neg own, shown] at here
        rw [inductionHypothesis here, counter]
        simp [eventsOf, Ne.symm own]

/-- Every namespace lists its own events in their order, the last thousand of them, whatever
other messages come in between. -/
theorem events_window (mutations : List Mutation) (name : Text) :
    ((mutations.foldl commit initial).namespaceOf name).events =
      (eventsOf name (history 0 mutations)).rtake MAX_ARRAY_LENGTH := by
  have start : (initial.namespaceOf name).events = ([] : List Event).rtake MAX_ARRAY_LENGTH :=
    (List.rtake_nil _).symm
  have run := events_run mutations name start
  rwa [List.nil_append] at run

/-! ## Aggregated events -/

/-- A count that a server reports, under the slot it is shown in. -/
def AggregatedEvent.rounded (event : AggregatedEvent) : AggregatedEvent :=
  { event with timestamp := roundedTimestamp event.timestamp }

/-- The counts that a message reports. -/
def Mutation.reported : Mutation → List AggregatedEvent
  | .onServerStats (some aggregated) _ => aggregated.map AggregatedEvent.rounded
  | _ => []

/-- The clock at a message that drops old slots. -/
def Mutation.clock : Mutation → Option Int
  | .onServerStats (some _) now => some now
  | _ => none

/-- The sum of the counts of one slot and kind. -/
def total (bucket : Int × Text × Option Text) (reported : List AggregatedEvent) : Int :=
  ((reported.filter (fun event => event.bucket = bucket)).map AggregatedEvent.count).sum

/-- The count that is shown for a slot and kind. -/
def State.count (state : State) (bucket : Int × Text × Option Text) : Option Int :=
  (Keyed.find AggregatedEvent.bucket bucket state.aggregatedEvents).map AggregatedEvent.count

/-- A count after further reports. -/
def countAfter (bucket : Int × Text × Option Text) (count : Option Int)
    (reported : List AggregatedEvent) : Option Int :=
  if bucket ∈ reported.map AggregatedEvent.bucket then some (count.getD 0 + total bucket reported)
  else count

theorem countAfter_cons (bucket : Int × Text × Option Text) (count : Option Int)
    (event : AggregatedEvent) (reported : List AggregatedEvent) :
    countAfter bucket count (event :: reported) =
      countAfter bucket
        (if event.bucket = bucket then some (count.getD 0 + event.count) else count) reported := by
  rw [countAfter, countAfter]
  by_cases same : event.bucket = bucket
  · have sum : total bucket (event :: reported) = event.count + total bucket reported := by
      simp [total, same]
    rw [if_pos (by simp [same]), if_pos same, sum]
    by_cases later : bucket ∈ reported.map AggregatedEvent.bucket
    · rw [if_pos later, Option.getD_some, add_assoc]
    · have none : total bucket reported = 0 := by
        have absent : reported.filter (fun event => event.bucket = bucket) = [] := by
          rw [List.filter_eq_nil_iff]
          intro other listed equal
          exact later (List.mem_map.mpr ⟨other, listed, of_decide_eq_true equal⟩)
        rw [total, absent]
        rfl
      rw [if_neg later, none, add_zero]
  · have sum : total bucket (event :: reported) = total bucket reported := by
      simp [total, same]
    rw [if_neg same, sum]
    simp only [List.map_cons, List.mem_cons, Ne.symm same, false_or]

theorem countAfter_append (bucket : Int × Text × Option Text) (count : Option Int)
    (first second : List AggregatedEvent) :
    countAfter bucket count (first ++ second) =
      countAfter bucket (countAfter bucket count first) second := by
  induction first generalizing count with
  | nil => simp [countAfter]
  | cons event first inductionHypothesis =>
    rw [List.cons_append, countAfter_cons, inductionHypothesis, countAfter_cons]

/-- A message adds its counts to those that were there. -/
theorem count_foldl (aggregated events : List AggregatedEvent)
    (bucket : Int × Text × Option Text) :
    (Keyed.find AggregatedEvent.bucket bucket (aggregated.foldl addAggregated events)).map
        AggregatedEvent.count =
      countAfter bucket
        ((Keyed.find AggregatedEvent.bucket bucket events).map AggregatedEvent.count)
        (aggregated.map AggregatedEvent.rounded) := by
  induction aggregated generalizing events with
  | nil => rfl
  | cons event aggregated inductionHypothesis =>
    have kept := AggregatedEvent.bucket_add event.count
    rw [List.foldl_cons, inductionHypothesis, List.map_cons, countAfter_cons]
    apply congrArg (fun count => countAfter bucket count (aggregated.map AggregatedEvent.rounded))
    by_cases same : event.rounded.bucket = bucket
    · subst same
      have found := Keyed.find_alter AggregatedEvent.bucket_create kept event.rounded.bucket events
      rw [if_pos rfl]
      refine (congrArg (Option.map AggregatedEvent.count) found).trans ?_
      cases Keyed.find AggregatedEvent.bucket event.rounded.bucket events <;> rfl
    · rw [if_neg same]
      exact congrArg (Option.map AggregatedEvent.count)
        (Keyed.find_alter_of_ne AggregatedEvent.bucket_create kept (Ne.symm same) events)

/-- What is dropped is decided by the slot. -/
theorem find_recent (bucket : Int × Text × Option Text) (now : Int)
    (events : List AggregatedEvent) :
    Keyed.find AggregatedEvent.bucket bucket
        (events.filter (fun elem => ¬ elem.timestamp < now - TEN_MINUTES)) =
      if bucket.1 < now - TEN_MINUTES then none
      else Keyed.find AggregatedEvent.bucket bucket events := by
  induction events with
  | nil => split <;> rfl
  | cons elem events inductionHypothesis =>
    by_cases same : elem.bucket = bucket
    · have slot : elem.timestamp = bucket.1 := congrArg Prod.fst same
      by_cases old : bucket.1 < now - TEN_MINUTES
      · have dropped : ¬decide (¬ elem.timestamp < now - TEN_MINUTES) = true := by
          rw [slot]
          exact fun recent => of_decide_eq_true recent old
        rw [List.filter_cons, if_neg dropped, inductionHypothesis, if_pos old, if_pos old]
      · have recent : decide (¬ elem.timestamp < now - TEN_MINUTES) = true := by
          rw [slot]
          exact decide_eq_true old
        rw [List.filter_cons, if_pos recent, Keyed.find_cons, if_pos same, if_neg old,
          Keyed.find_cons, if_pos same]
    · rw [Keyed.find_cons, if_neg same, ← inductionHypothesis, List.filter_cons]
      split
      · rw [Keyed.find_cons, if_neg same]
      · rfl

theorem aggregated_foldl_addSocket (sockets : List Socket) (state : State) :
    (sockets.foldl addSocket state).aggregatedEvents = state.aggregatedEvents := by
  induction sockets generalizing state with
  | nil => rfl
  | cons socket sockets inductionHypothesis => exact inductionHypothesis (addSocket state socket)

/-- The count of a slot and kind after a message. -/
theorem count_commit (state : State) (mutation : Mutation) (bucket : Int × Text × Option Text) :
    (commit state mutation).count bucket =
      match mutation.clock with
      | none => state.count bucket
      | some now =>
        if bucket.1 < now - TEN_MINUTES then none
        else countAfter bucket (state.count bucket) mutation.reported := by
  cases mutation with
  | onServerStats aggregatedEvents now =>
    cases aggregatedEvents with
    | none => rfl
    | some aggregated =>
      have added := count_foldl aggregated state.aggregatedEvents bucket
      have recent := find_recent bucket now (aggregated.foldl addAggregated state.aggregatedEvents)
      refine (congrArg (Option.map AggregatedEvent.count) recent).trans ?_
      dsimp only [Mutation.clock]
      split
      · rfl
      · exact added
  | onAllSockets sockets =>
    exact congrArg (fun events => (Keyed.find AggregatedEvent.bucket bucket events).map
      AggregatedEvent.count) (aggregated_foldl_addSocket sockets _)
  | selectNamespace selected => rfl
  | onSocketConnected timestamp socket => rfl
  | onSocketUpdated update => rfl
  | onSocketDisconnected timestamp nsp id reason => rfl
  | onRoomJoined timestamp nsp room id => rfl
  | onRoomLeft timestamp nsp room id => rfl
  | onEventReceived timestamp nsp id args => rfl
  | onEventSent timestamp nsp id args => rfl

/-- A message without a clock reading reports nothing. -/
theorem Mutation.reported_of_clock {mutation : Mutation} (silent : mutation.clock = none) :
    mutation.reported = [] := by
  cases mutation with
  | onServerStats aggregatedEvents now =>
    cases aggregatedEvents with
    | none => rfl
    | some aggregated => cases silent
  | _ => rfl

/-- As long as the clock does not go back, a slot of the last ten minutes shows the sum of all
counts that were reported for it, and an older one shows nothing. -/
theorem counts_complete (mutations : List Mutation)
    (monotone : (mutations.filterMap Mutation.clock).Pairwise (· ≤ ·))
    (bucket : Int × Text × Option Text) :
    (mutations.foldl commit initial).count bucket =
      if bucket ∈ (mutations.flatMap Mutation.reported).map AggregatedEvent.bucket ∧
          ∀ now ∈ (mutations.filterMap Mutation.clock).getLast?, now - TEN_MINUTES ≤ bucket.1 then
        some (total bucket (mutations.flatMap Mutation.reported))
      else none := by
  induction mutations using List.reverseRecOn with
  | nil => rfl
  | append_singleton mutations mutation inductionHypothesis =>
    rw [List.filterMap_append, List.pairwise_append] at monotone
    obtain ⟨before, -, later⟩ := monotone
    have earlier := inductionHypothesis before
    rw [List.foldl_concat, count_commit, List.flatMap_append, List.flatMap_singleton,
      List.filterMap_append]
    cases reading : mutation.clock with
    | none =>
      have clocks : [mutation].filterMap Mutation.clock = [] := by simp [reading]
      rw [Mutation.reported_of_clock reading, clocks, List.append_nil, List.append_nil]
      exact earlier
    | some now =>
      have clocks : [mutation].filterMap Mutation.clock = [now] := by simp [reading]
      rw [clocks] at later
      have last : (mutations.filterMap Mutation.clock ++ [now]).getLast? = some now :=
        List.getLast?_concat
      rw [clocks, last]
      by_cases old : bucket.1 < now - TEN_MINUTES
      · have dropped : ¬∀ reading ∈ some now, reading - TEN_MINUTES ≤ bucket.1 := by
          intro recent
          exact absurd (recent now rfl) (not_le.mpr old)
        simp only [old, if_true, dropped, and_false, if_false]
      · -- What is recent now was recent at every earlier reading.
        have recent : ∀ reading ∈ some now, reading - TEN_MINUTES ≤ bucket.1 := by
          rintro reading ⟨⟩
          exact not_lt.mp old
        have always : ∀ reading ∈ (mutations.filterMap Mutation.clock).getLast?,
            reading - TEN_MINUTES ≤ bucket.1 := by
          intro reading final
          have bound := later reading (List.mem_of_getLast? final) now (List.mem_singleton.mpr rfl)
          exact (Int.sub_le_sub_right bound TEN_MINUTES).trans (not_lt.mp old)
        have sum (reported : List AggregatedEvent) :
            (if bucket ∈ reported.map AggregatedEvent.bucket then some (total bucket reported)
              else none) = countAfter bucket none reported := by
          rw [countAfter, Option.getD_none, zero_add]
        simp only [eq_true always, and_true, sum] at earlier
        simp only [old, if_false, eq_true recent, and_true, sum]
        rw [earlier, ← countAfter_append]

/-- Two reports for the slot that begins after ten seconds, and a snapshot in between. -/
def sampleReports : List Mutation :=
  [.onServerStats (some [⟨12345, ['r'], none, 3⟩]) 20000,
    .onAllSockets [⟨['a'], ['/'], ['x'], [['a']], false⟩],
    .onServerStats (some [⟨19999, ['r'], none, 2⟩, ⟨19999, ['t'], none, 7⟩]) 610000]

theorem counts_complete_sample :
    (sampleReports.foldl commit initial).count (10000, ['r'], none) = some 5 :=
  (counts_complete sampleReports (by decide) (10000, ['r'], none)).trans (by decide)

end WebPubSub.AdminUi
