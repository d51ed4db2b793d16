import WebPubSub.Transport.Send

/-!
# One send at a time

The connection keeps its messages in order only when no two calls of
`sendToConnection` overlap. engine.io's flush respects `writable`, but `doClose`
and `ClientConnectionContext.close` enter `send` without looking at it, and a call
that ends by an exception never sets `writable` again.

A run in which no close begins while a call is in progress, and in which no call
throws, keeps a single call in progress and `writable` exactly its absence. A close
during an outstanding call breaks all three promises.
-/

namespace WebPubSub.Transport

/-- The step begins no close beside a call in progress, and no call throws. -/
def Apart (state : State) : Event → Prop
  | .doClose | .close => state.running = []
  | .failed _ => False
  | _ => True

instance (state : State) : ∀ event, Decidable (Apart state event)
  | .doClose | .close => inferInstanceAs (Decidable (state.running = []))
  | .failed _ => inferInstanceAs (Decidable False)
  | .send _ | .encoded _ | .settled _ _ | .resumed _ => inferInstanceAs (Decidable True)

/-- At most one call is in progress, and `writable` says whether there is none. -/
structure Exclusive (state : State) : Prop where
  single : state.running.length ≤ 1
  writable : state.writable = true ↔ state.running = []

/-- The number of `drain` events among some outputs. -/
def drains (outputs : List Output) : Nat := outputs.count .drain

/-- The outcome of a step by the only call in progress: it either stays the only
call and is silent about `drain`, or ends with one `drain`. -/
structure Alone (result : State × List Output) : Prop where
  exclusive : Exclusive result.1
  counted : drains result.2 + result.1.running.length = 1
  last : .drain ∈ result.2 → result.1.running = []

theorem initial_exclusive (sioMode : Bool) : Exclusive (State.initial sioMode) :=
  ⟨Nat.zero_le 1, by simp [State.initial]⟩

/-- The only call stands at another `await`; it may have told something else than
`drain` to its surroundings. -/
theorem alone_await {state : State} (awaiting : Awaiting) {added : List Output}
    (busy : state.writable = false) (only : state.running = [awaiting])
    (silent : .drain ∉ added) : Alone (state, added) where
  exclusive := ⟨by simp [only], by simp [busy, only]⟩
  counted := by simp [drains, List.count_eq_zero.mpr silent, only]
  last := fun drained => absurd drained silent

/-- The loop of the only call, after outputs other than `drain`. -/
theorem alone_loop {state : State} {awaiting : Awaiting} (told : List Output)
    (busy : state.writable = false) (only : state.running = [awaiting])
    (silent : .drain ∉ told) : Alone ((state.loop 0).1, told ++ (state.loop 0).2) := by
  rcases state.loop_cases 0 with ⟨batch, buffer, -, looped⟩ | ⟨-, looped⟩
  · rw [looped]
    exact alone_await (.payload batch) busy (by simp [State.await, only])
      (by simpa using silent)
  · rw [looped]
    have ended : ({ state with writable := true }.leave 0).running = [] := by
      simp [State.leave, only]
    refine ⟨⟨by simp [ended], ?_⟩, ?_, fun _ => ended⟩
    · simp only [ended]
      simp [State.leave]
    · simp [drains, List.count_eq_zero.mpr silent, ended]

/-- A call that begins while none is in progress. -/
theorem alone_start {state : State} (idle : state.running = []) (packets : List EioPacket) :
    Alone (state.start packets) := by
  have entered (buffer : List EioPacket) (told : List Output) (silent : .drain ∉ told) :
      Alone (({ state with writable := false, buffer := buffer }.enter).1,
        told ++ ({ state with writable := false, buffer := buffer }.enter).2) := by
    have only : ({ state with
        writable := false, buffer := buffer
        running := state.running ++ [.ready] } : State).running = [.ready] := by simp [idle]
    simpa only [State.enter, idle, List.length_nil] using alone_loop _ rfl only silent
  rcases state.start_cases packets with
    ⟨packet, buffer, -, -, -, started⟩ | ⟨packet, buffer, -, -, -, started⟩ | ⟨-, started⟩
  · rw [started]
    exact alone_await (.openPacket packet) rfl (by simp [idle]) (by simp)
  · rw [started]
    exact entered buffer [.refuse State.notOpened] (by simp)
  · rw [started]
    exact entered (state.buffer ++ packets) [] (by simp)

/-- Every admitted step from an exclusive state is a step of the only call, which
either begins with it or was the one in progress. -/
theorem step_alone (codec : Codec) {state next : State} {event : Event} {added : List Output}
    (exclusive : Exclusive state) (apart : Apart state event)
    (stepped : (transport codec).step state event = some (next, added)) :
    Alone (next, added) ∧ state.running.length + starts [event] = 1 := by
  have busy {index : Nat} {awaiting : Awaiting}
      (standing : state.running[index]? = some awaiting) :
      index = 0 ∧ state.running = [awaiting] ∧ state.writable = false := by
    obtain ⟨inside, here⟩ := List.getElem?_eq_some_iff.mp standing
    have single := exclusive.single
    obtain rfl : index = 0 := by omega
    obtain ⟨only, listed⟩ := List.length_eq_one_iff.mp (show state.running.length = 1 by omega)
    have named : only = awaiting := by simpa [listed] using here
    refine ⟨rfl, by rw [listed, named], ?_⟩
    by_contra free
    simp [exclusive.writable.mp (by simpa using free)] at listed
  cases step_taken stepped with
  | @send packets free =>
    have idle := exclusive.writable.mp free
    exact ⟨alone_start idle packets, by simp [idle, starts, Event.begins]⟩
  | doClose =>
    have idle : state.running = [] := apart
    exact ⟨alone_start idle closePackets, by simp [idle, starts, Event.begins]⟩
  | close =>
    have idle : state.running = [] := apart
    exact ⟨alone_start idle closePackets, by simp [idle, starts, Event.begins]⟩
  | failed standing => exact apart.elim
  | openEncoded standing =>
    obtain ⟨rfl, only, taken⟩ := busy standing
    exact ⟨alone_loop [_] taken only (by simp), by simp [only, starts, Event.begins]⟩
  | payloadEncoded standing =>
    obtain ⟨rfl, only, taken⟩ := busy standing
    exact ⟨alone_await _ taken (by simp [State.await, only]; rfl) (by simp),
      by simp [only, starts, Event.begins]⟩
  | settled fulfilled standing =>
    obtain ⟨rfl, only, taken⟩ := busy standing
    exact ⟨alone_await _ taken (by simp [State.await, only]; rfl) (by simp),
      by simp [only, starts, Event.begins]⟩
  | resumed standing =>
    obtain ⟨rfl, only, taken⟩ := busy standing
    exact ⟨alone_loop [] taken only (by simp), by simp [only, starts, Event.begins]⟩

/-- The state and the history of a run of admitted steps. -/
theorem run_exclusive (codec : Codec) (sioMode : Bool) {events : List Event} {state : State}
    {outputs : List Output}
    (apart : (transport codec).Meets Apart (State.initial sioMode) events)
    (ran : (transport codec).run (State.initial sioMode) events = some (state, outputs)) :
    Exclusive state ∧ drains outputs + state.running.length = starts events := by
  refine (transport codec).run_induction_meets
    (fun events outputs state =>
      Exclusive state ∧ drains outputs + state.running.length = starts events)
    ⟨initial_exclusive sioMode, rfl⟩ ?_ apart ran
  intro before told middle event next added _ held here stepped
  obtain ⟨exclusive, counted⟩ := held
  obtain ⟨alone, taken⟩ := step_alone codec exclusive here stepped
  constructor
  · exact alone.exclusive
  · have after : drains added + next.running.length = 1 := alone.counted
    simp only [drains, starts, List.count_append, List.countP_append] at *
    omega

/-- A call that is outstanding is in progress. -/
theorem State.outstanding_le (state : State) : state.outstanding ≤ state.running.length :=
  List.countP_le_length

/-- In a run without a close beside a call in progress and without an exception, at
most one `sendToConnection` is outstanding, `writable` says exactly that no call is
in progress, each call emits `drain` when it completes and never before, and a step
that emits it leaves nothing outstanding. -/
theorem sends_never_overlap (codec : Codec) (sioMode : Bool) {events : List Event}
    {state : State} {outputs : List Output}
    (apart : (transport codec).Meets Apart (State.initial sioMode) events)
    (ran : (transport codec).run (State.initial sioMode) events = some (state, outputs)) :
    state.outstanding ≤ 1 ∧ (state.writable = true ↔ state.running = []) ∧
      drains outputs + state.running.length = starts events ∧
      ∀ event next added, Apart state event →
        (transport codec).step state event = some (next, added) →
        .drain ∈ added → next.outstanding = 0 := by
  obtain ⟨exclusive, counted⟩ := run_exclusive codec sioMode apart ran
  refine ⟨state.outstanding_le.trans exclusive.single, exclusive.writable, counted, ?_⟩
  intro event next added here stepped drained
  have idle : next.running = [] := (step_alone codec exclusive here stepped).1.last drained
  simp [State.outstanding, idle]

section Overlap

/-- The open packet engine.io sends first. -/
def handshake : EioPacket := ⟨.open, .text "\x7b\"sid\":\"a\"\x7d".toList⟩

/-- A message is handed to the service, and the transport is closed before the
service has answered. -/
def closeBesideMessage : List Event :=
  [.send [handshake], .encoded 0, .send [textPacket "2[\"hi\"]".toList], .encoded 0,
    .doClose, .encoded 1]

/-- Then two calls are outstanding, and the completion of the first one emits `drain`
and sets `writable` while the other is outstanding. -/
theorem close_overlaps_message :
    ((transport Codec.engineIo).run (State.initial true) closeBesideMessage).map
        (fun result => result.1.outstanding) = some 2 ∧
      ((transport Codec.engineIo).run (State.initial true)
          (closeBesideMessage ++ [.settled 0 true, .resumed 0])).map
        (fun result => (drains result.2, result.1.writable, result.1.outstanding)) =
        some (2, true, 1) := by
  decide +kernel

/-- The same message and close one after the other, where the service fails once. -/
def closeAfterMessage : List Event :=
  [.send [handshake], .encoded 0, .send [textPacket "2[\"hi\"]".toList], .encoded 0,
    .settled 0 false, .resumed 0, .doClose, .encoded 0]

theorem sends_never_overlap_sequence : ∃ state outputs,
    (transport Codec.engineIo).run (State.initial true) closeAfterMessage =
      some (state, outputs) ∧
    state.outstanding ≤ 1 ∧ (state.writable = true ↔ state.running = []) ∧
      drains outputs + state.running.length = starts closeAfterMessage ∧
      ∀ event next added, Apart state event →
        (transport Codec.engineIo).step state event = some (next, added) →
        .drain ∈ added → next.outstanding = 0 := by
  have completed : ((transport Codec.engineIo).run (State.initial true)
      closeAfterMessage).isSome = true := by decide +kernel
  obtain ⟨⟨state, outputs⟩, ran⟩ := Option.isSome_iff_exists.mp completed
  have apart : (transport Codec.engineIo).Meets Apart (State.initial true)
      closeAfterMessage := by decide +kernel
  exact ⟨state, outputs, ran, sends_never_overlap Codec.engineIo true apart ran⟩

end Overlap

end WebPubSub.Transport
