import WebPubSub.Tunnel.Selection

/-!
# After a connection is stopped

`stop` stops every client of the table, and a client that is being started is one of them: it
is put into the table before its first attempt. From then on until the next `runAsync` no client
is created, none is usable, and no further attempt to start one is made, whatever the service
sends and however the attempts under way end. Once the clients have told that they are stopped,
the table is empty.
-/

namespace WebPubSub.Tunnel

namespace State

/-- Whether `startAsync` of a client is under way. -/
def isAttempting (state : State) (client : Nat) : Bool :=
  ((state.clients[client]?).map (fun record => record.starting == .attempting)).getD false

/-- A connection that is stopped with all its clients. -/
structure Down (state : State) : Prop where
  stopped : state.stopped = true
  clients : ∀ client < state.clients.length, state.isStopped client = true

/-- What may have become of a stopped connection. -/
structure Quiet (state next : State) : Prop where
  stopped : next.stopped = true
  stops : state.StopsOnly next
  length : next.clients.length = state.clients.length
  table : ∀ client ∈ next.table, client ∈ state.table
  attempts : ∀ client, next.isAttempting client = true → state.isAttempting client = true

theorem Quiet.down {state next : State} (quiet : state.Quiet next) (down : state.Down) :
    next.Down where
  stopped := quiet.stopped
  clients := by
    intro client inside
    exact quiet.stops client (down.clients client (quiet.length ▸ inside))

theorem Down.not_usable {state : State} (down : state.Down) (client : Nat) :
    state.isUsable client = false := by
  cases standing : state.clients[client]? with
  | none => simp [isUsable, standing]
  | some record =>
    have inside : client < state.clients.length := (List.getElem?_eq_some_iff.mp standing).1
    have stopped := down.clients client inside
    simp only [isStopped, standing, Option.map_some, Option.getD_some] at stopped
    simp [isUsable, standing, stopped]

/-- A change of one client that is not set to be attempting. -/
theorem quiet_putClient {state : State} (stopped : state.stopped = true) {client : Nat}
    {record other : Client} (standing : state.clients[client]? = some record)
    (kept : record.stopped = true → other.stopped = true)
    (attempt : other.starting = .attempting → record.starting = .attempting) :
    state.Quiet (state.putClient client other) where
  stopped := stopped
  stops := putClient_stopsOnly standing kept
  length := List.length_set
  table := fun _ listed => listed
  attempts := by
    intro tested attempting
    have inside : client < state.clients.length := (List.getElem?_eq_some_iff.mp standing).1
    by_cases same : client = tested
    · subst same
      simp only [isAttempting, putClient, List.getElem?_set_self inside, standing, Option.map_some,
        Option.getD_some, beq_iff_eq] at attempting ⊢
      exact attempt attempting
    · simpa [isAttempting, putClient, List.getElem?_set_ne same] using attempting

theorem quiet_stopConnection {state : State} (stopped : state.stopped = true) (client : Nat) :
    state.Quiet (state.stopConnection client) where
  stopped := by
    unfold stopConnection
    split
    · exact stopped
    · exact stopped
  stops := stopConnection_stopsOnly state client
  length := (stopConnection_table state client).1
  table := by
    rw [(stopConnection_table state client).2]
    exact fun _ listed => listed
  attempts := by
    intro tested attempting
    unfold stopConnection at attempting
    split at attempting
    · simp only [isAttempting, List.getElem?_modify] at attempting ⊢
      cases standing : state.clients[tested]? with
      | none => simp [standing] at attempting
      | some record =>
        rw [standing] at attempting
        by_cases same : client = tested <;> simpa [same] using attempting
    · exact attempting

theorem quiet_refl {state : State} (stopped : state.stopped = true) : state.Quiet state :=
  ⟨stopped, stopsOnly_refl state, rfl, fun _ listed => listed, fun _ attempting => attempting⟩

theorem Quiet.trans {first second third : State} (before : first.Quiet second)
    (after : second.Quiet third) : first.Quiet third where
  stopped := after.stopped
  stops := before.stops.trans after.stops
  length := after.length.trans before.length
  table := fun client listed => before.table client (after.table client listed)
  attempts := fun client attempting => before.attempts client (after.attempts client attempting)

/-- Requests do not change the clients. -/
theorem quiet_requests {state next : State} (stopped : state.stopped = true)
    (same : next.side = state.side) : state.Quiet next := by
  simp only [side, Prod.mk.injEq] at same
  obtain ⟨clients, table, stays, -⟩ := same
  refine ⟨stays.trans stopped, ?_, by rw [clients], ?_, ?_⟩
  · simp [StopsOnly, isStopped, clients]
  · simp [table]
  · simp [isAttempting, clients]

theorem startConnection_of_stopped {state : State} (stopped : state.stopped = true)
    (retriesForever : Bool) : state.startConnection retriesForever = state := by
  rw [startConnection, if_pos stopped]

theorem quiet_tryEndLife {state : State} (stopped : state.stopped = true) (client : Nat) :
    state.Quiet (state.tryEndLife client) := by
  unfold tryEndLife
  split
  · exact ⟨stopped, stopsOnly_refl state, rfl, fun _ listed => (List.mem_filter.mp listed).1,
      fun _ attempting => attempting⟩
  · exact quiet_refl stopped

/-- A client that has told that it is stopped is not in the table. -/
theorem tryEndLife_unlisted {state : State} {client : Nat}
    (stopped : state.isStopped client = true) : client ∉ (state.tryEndLife client).table := by
  rw [tryEndLife, if_pos stopped]
  simp

end State

section Steps

variable {state next : State} {event : Event} {added : List Output}

/-- A stopped connection stays quiet until it is run again. -/
theorem quiet_step (stopped : state.stopped = true) (unrestarted : event ≠ .run)
    (stepped : connection.step state event = some (next, added)) :
    state.Quiet next ∧ ∀ client, event = .clientStopped client → client ∉ next.table := by
  have other (quiet : state.Quiet next) (apart : ∀ client, event ≠ .clientStopped client) :
      state.Quiet next ∧ ∀ client, event = .clientStopped client → client ∉ next.table :=
    ⟨quiet, fun client same => absurd same (apart client)⟩
  by_cases kind : event.OfClients
  · simp only [connection] at stepped
    cases event with
    | run => exact absurd rfl unrestarted
    | started client =>
      simp [step, Option.bind_eq_some_iff] at stepped
      obtain ⟨record, standing, -, rfl, rfl⟩ := stepped
      exact other (State.quiet_putClient stopped standing id (fun absurd => by cases absurd))
        (fun _ same => by cases same)
    | startFailed client retry =>
      simp [step, Option.bind_eq_some_iff] at stepped
      obtain ⟨record, standing, ⟨attempting, -⟩, rfl, rfl⟩ := stepped
      exact other (State.quiet_putClient stopped standing id (fun _ => attempting))
        (fun _ same => by cases same)
    | retried client =>
      simp [step, Option.bind_eq_some_iff] at stepped
      obtain ⟨record, standing, -, rfl, rfl⟩ := stepped
      refine other (State.quiet_putClient stopped standing id ?_) (fun _ same => by cases same)
      intro attempting
      rw [if_pos stopped] at attempting
      cases attempting
    | clientStopped client =>
      simp [step, Option.bind_eq_some_iff] at stepped
      obtain ⟨record, standing, rfl, rfl⟩ := stepped
      have put : state.Quiet (state.putClient client { record with stopped := true }) :=
        State.quiet_putClient stopped standing (fun _ => rfl) id
      refine ⟨put.trans (State.quiet_tryEndLife put.stopped client), ?_⟩
      rintro _ ⟨⟩
      apply State.tryEndLife_unlisted
      have inside : client < state.clients.length := (List.getElem?_eq_some_iff.mp standing).1
      simp [State.isStopped, State.putClient, inside]
    | message client message =>
      simp [step, Option.bind_eq_some_iff] at stepped
      obtain ⟨-, rfl, rfl⟩ := stepped
      refine other ?_ (fun _ same => by cases same)
      cases message with
      | httpResponse response => exact kind.elim
      | connectionReconnect =>
        exact (State.quiet_stopConnection stopped client).trans
          ⟨(State.quiet_stopConnection stopped client).stopped, State.stopsOnly_refl _, rfl,
            fun _ listed => listed, fun _ attempting => attempting⟩
      | connectionClose => exact State.quiet_stopConnection stopped client
      | connectionRebalance =>
        rw [State.processMessage, State.startConnection_of_stopped stopped]
        exact State.quiet_refl stopped
      | other => exact State.quiet_refl stopped
    | reconnected =>
      simp [step, Option.bind_eq_some_iff] at stepped
      obtain ⟨-, rfl, rfl⟩ := stepped
      refine other ?_ (fun _ same => by cases same)
      have stays : ({ state with reconnecting := state.reconnecting - 1 } : State).stopped = true :=
        stopped
      rw [State.startConnection_of_stopped stays]
      exact ⟨stopped, State.stopsOnly_refl state, rfl, fun _ listed => listed,
        fun _ attempting => attempting⟩
    | stop =>
      obtain ⟨rfl, rfl⟩ := Prod.mk.inj (Option.some.inj stepped)
      refine other ?_ (fun _ same => by cases same)
      rw [State.stop, if_pos stopped]
      exact State.quiet_refl stopped
    | _ => exact kind.elim
  · have same : next.side = state.side :=
      (step_side stepped).resolve_left (fun clients => kind clients.1)
    refine other (State.quiet_requests stopped same) ?_
    rintro client rfl
    exact kind trivial

/-- A run that does not run the connection again leaves it quiet, and the clients that told of
their stop are out of the table. -/
theorem quiet_run {events : List Event} {outputs : List Output} (stopped : state.stopped = true)
    (unrestarted : Event.run ∉ events)
    (ran : connection.run state events = some (next, outputs)) :
    state.Quiet next ∧ ∀ client, .clientStopped client ∈ events → client ∉ next.table := by
  induction events generalizing state outputs with
  | nil =>
    cases ran
    exact ⟨State.quiet_refl stopped, fun _ listed => by cases listed⟩
  | cons event events inductionHypothesis =>
    obtain ⟨apart, others⟩ := List.ne_and_not_mem_of_not_mem_cons unrestarted
    obtain ⟨middle, first, rest, stepped, continued, -⟩ :=
      (Machine.run_cons_iff connection _ _ _ _ _).mp ran
    obtain ⟨quiet, unlisted⟩ := quiet_step stopped apart.symm stepped
    obtain ⟨later, unlistedLater⟩ := inductionHypothesis quiet.stopped others continued
    refine ⟨quiet.trans later, ?_⟩
    intro client told listed
    rcases List.mem_cons.mp told with now | then_
    · exact unlisted client now.symm (later.table client listed)
    · exact unlistedLater client then_ listed

theorem startConnection_stopped (state : State) (retriesForever : Bool) :
    (state.startConnection retriesForever).stopped = state.stopped := by
  unfold State.startConnection
  split <;> rfl

theorem stopConnection_stopped (state : State) (client : Nat) :
    (state.stopConnection client).stopped = state.stopped := by
  unfold State.stopConnection
  split <;> rfl

/-- Only `stop` stops a connection, and `runAsync` takes it back. -/
theorem stopped_before (apart : event ≠ .stop)
    (stepped : connection.step state event = some (next, added)) (stopped : next.stopped = true) :
    state.stopped = true ∧ event ≠ .run := by
  by_cases kind : event.OfClients
  · simp only [connection] at stepped
    cases event with
    | run =>
      obtain ⟨rfl, rfl⟩ := Prod.mk.inj (Option.some.inj stepped)
      rw [startConnection_stopped] at stopped
      cases stopped
    | started client | startFailed client retry | retried client =>
      simp [step, Option.bind_eq_some_iff] at stepped
      obtain ⟨record, standing, -, rfl, rfl⟩ := stepped
      exact ⟨stopped, by simp⟩
    | clientStopped client =>
      simp [step, Option.bind_eq_some_iff] at stepped
      obtain ⟨record, standing, rfl, rfl⟩ := stepped
      refine ⟨?_, by simp⟩
      unfold State.tryEndLife at stopped
      split at stopped <;> exact stopped
    | message client message =>
      simp [step, Option.bind_eq_some_iff] at stepped
      obtain ⟨-, rfl, rfl⟩ := stepped
      refine ⟨?_, by simp⟩
      cases message with
      | httpResponse response => exact kind.elim
      | connectionReconnect => exact (stopConnection_stopped state client).symm.trans stopped
      | connectionClose => exact (stopConnection_stopped state client).symm.trans stopped
      | connectionRebalance => exact (startConnection_stopped state true).symm.trans stopped
      | other => exact stopped
    | reconnected =>
      simp [step, Option.bind_eq_some_iff] at stepped
      obtain ⟨-, rfl, rfl⟩ := stepped
      rw [startConnection_stopped] at stopped
      exact ⟨stopped, by simp⟩
    | stop => exact absurd rfl apart
    | _ => exact kind.elim
  · have same : next.side = state.side :=
      (step_side stepped).resolve_left (fun clients => kind clients.1)
    simp only [State.side, Prod.mk.injEq] at same
    refine ⟨same.2.2.1 ▸ stopped, ?_⟩
    rintro rfl
    exact kind trivial

/-- Every client of the table that is told to stop is stopped. -/
theorem foldl_stopConnection_stopped (clients : List Nat) (state : State) {client : Nat}
    (told : client ∈ clients) (listed : client ∈ state.table)
    (inside : client < state.clients.length) :
    (clients.foldl State.stopConnection state).isStopped client = true := by
  induction clients generalizing state with
  | nil => cases told
  | cons first clients inductionHypothesis =>
    obtain ⟨length, table⟩ := State.stopConnection_table state first
    rw [List.foldl_cons]
    rcases List.mem_cons.mp told with rfl | later
    · apply State.foldl_stopConnection_stopsOnly
      rw [State.stopConnection, if_pos listed]
      simp [State.isStopped, inside]
    · exact inductionHypothesis _ later (table ▸ listed) (length ▸ inside)

/-- `stop` itself takes no client in or out and starts none. -/
theorem quiet_stop (state : State) : State.Quiet { state with stopped := true } state.stop := by
  have folded (clients : List Nat) (start : State) (stopped : start.stopped = true) :
      start.Quiet (clients.foldl State.stopConnection start) := by
    induction clients generalizing start with
    | nil => exact State.quiet_refl stopped
    | cons first clients inductionHypothesis =>
      have once := State.quiet_stopConnection stopped first
      exact once.trans (inductionHypothesis _ once.stopped)
  unfold State.stop
  split
  · rename_i stopped
    exact ⟨stopped, fun _ => id, rfl, fun _ listed => listed, fun _ attempting => attempting⟩
  · exact folded _ _ rfl

/-- `stop` reaches every client, since those outside the table are stopped already. -/
theorem stop_down (listed : state.Listed) (running : state.stopped = false) :
    state.stop.Down := by
  have shape : state.stop =
      state.table.foldl State.stopConnection { state with stopped := true } := by
    simp [State.stop, running]
  refine ⟨(quiet_stop state).stopped, ?_⟩
  rw [shape]
  intro client inside
  rw [(State.foldl_stopConnection_table _ _).1] at inside
  by_cases before : state.isStopped client = true
  · exact State.foldl_stopConnection_stopsOnly _ _ client before
  · exact foldl_stopConnection_stopped _ _ (listed client inside (by simpa using before))
      (listed client inside (by simpa using before)) inside

/-- A connection whose lifetime has stopped has no client that is not. -/
theorem down_of_stopped (reached : connection.Reachable State.initial state)
    (stopped : state.stopped = true) : state.Down := by
  have invariant : state.Listed ∧ (state.stopped = true → state.Down) := by
    refine Machine.invariant_reachable connection
      (fun state => state.Listed ∧ (state.stopped = true → state.Down)) ?_ ?_ reached
    · rintro state event next outputs ⟨listed, down⟩ stepped
      refine ⟨listed_step listed stepped, ?_⟩
      intro finallyStopped
      by_cases stops : event = .stop
      · subst stops
        obtain ⟨rfl, rfl⟩ := Prod.mk.inj (Option.some.inj stepped)
        cases running : state.stopped with
        | true =>
          rw [State.stop, if_pos running]
          exact down running
        | false => exact stop_down listed running
      · obtain ⟨before, unrestarted⟩ := stopped_before stops stepped finallyStopped
        exact (quiet_step before unrestarted stepped).1.down (down before)
    · exact ⟨fun client inside _ => absurd inside (by simp [State.initial]),
        fun absurd => by cases absurd⟩
  exact invariant.2 stopped

/-- From a stop until the connection is run again no client is usable, none is created and none
attempts to start that did not already, and once the clients of the table have told of their
stop, the table is empty. -/
theorem shutdown_final {after : List Event} {final : State} {outputs : List Output}
    (reached : connection.Reachable State.initial state) (unrestarted : Event.run ∉ after)
    (ran : connection.run state (.stop :: after) = some (final, outputs)) :
    (∀ client, final.isUsable client = false) ∧
      final.clients.length = state.clients.length ∧
      (∀ client, final.isAttempting client = true → state.isAttempting client = true) ∧
      ((∀ client ∈ state.table, .clientStopped client ∈ after) → final.table = []) := by
  obtain ⟨atStop, first, rest, stepped, continued, -⟩ :=
    (Machine.run_cons_iff connection _ _ _ _ _).mp ran
  have stoppedThere : connection.Reachable State.initial atStop := by
    obtain ⟨events, before, reaching⟩ := reached
    exact ⟨events ++ [.stop], _, Machine.run_append_of_run connection reaching
      (Machine.run_single connection stepped)⟩
  obtain ⟨rfl, rfl⟩ := Prod.mk.inj (Option.some.inj stepped)
  have atOnce : State.Quiet { state with stopped := true } state.stop := quiet_stop state
  obtain ⟨quiet, unlisted⟩ := quiet_run atOnce.stopped unrestarted continued
  have down : final.Down := quiet.down (down_of_stopped stoppedThere atOnce.stopped)
  have whole : State.Quiet { state with stopped := true } final := atOnce.trans quiet
  refine ⟨down.not_usable, whole.length, whole.attempts, ?_⟩
  intro told
  apply List.eq_nil_iff_forall_not_mem.mpr
  intro client listed
  exact unlisted client (told client (whole.table client listed)) listed

end Steps

/-- A second client is started for the service. -/
def rebalancing : List Event := [.run, .started 0, .message 0 .connectionRebalance]

/-- What may follow a stop. -/
def stopping : List Event :=
  [.started 1, .message 1 .connectionRebalance, .clientStopped 1, .clientStopped 0]

/-- A connection is stopped while its second client is being started. -/
theorem shutdown_final_rebalancing : ∃ state final,
    connection.run State.initial rebalancing = some (state, []) ∧
    connection.run state (.stop :: stopping) = some (final, []) ∧
    (∀ client, final.isUsable client = false) ∧
      final.clients.length = state.clients.length ∧
      (∀ client, final.isAttempting client = true → state.isAttempting client = true) ∧
      ((∀ client ∈ state.table, .clientStopped client ∈ stopping) → final.table = []) :=
  ⟨_, _, rfl, rfl, shutdown_final ⟨rebalancing, _, rfl⟩ (by simp [stopping]) rfl⟩

end WebPubSub.Tunnel
