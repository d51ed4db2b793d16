import Mathlib.Data.List.Perm.Basic
import WebPubSub.Transport.Send

/-!
# What a transport answers to the handshake

Only a transport that has not been opened can refuse, and only the call that waits
for the encoding of an open packet can accept. Every step of a transport is of one of
four kinds, told apart by its answer and by the number of such calls.
-/

namespace WebPubSub.Transport

/-- Whether a call waits for the encoding of an open packet. -/
def Awaiting.isOpening : Awaiting → Bool
  | .openPacket _ => true
  | _ => false

/-- The number of calls that wait for the encoding of an open packet. -/
def State.opening (state : State) : Nat := state.running.countP Awaiting.isOpening

/-- Whether an event lets a call accept the open packet. -/
def State.accepts (state : State) : Event → Bool
  | .encoded index => (state.running[index]?.map Awaiting.isOpening).getD false
  | _ => false

/-- The answer of a step, and what it does to the transport. -/
inductive Answering (before : State) (event : Event) (added : List Output) (next : State) :
    Prop where
  | silent (answered : answers added = []) (opened : next.opened = before.opened)
      (fewer : next.opening ≤ before.opening)
  | asked (begins : event.begins = true) (answered : answers added = [])
      (unopened : before.opened = false) (opened : next.opened = false)
      (one : next.opening = before.opening + 1)
  | refused (message : Text) (begins : event.begins = true)
      (answered : answers added = [.refuse message]) (unopened : before.opened = false)
      (opened : next.opened = false) (same : next.opening = before.opening)
  | accepted (payload : Text) (accepts : before.accepts event = true)
      (answered : answers added = [.accept payload]) (opened : next.opened = true)
      (one : next.opening + 1 = before.opening)

section Count

variable {state : State} {index : Nat} {awaiting : Awaiting}

/-- A call that ends is no longer counted. -/
theorem opening_leave (state : State) (standing : state.running[index]? = some awaiting) :
    (state.leave index).opening + [awaiting].countP Awaiting.isOpening = state.opening := by
  obtain ⟨inside, rfl⟩ := List.getElem?_eq_some_iff.mp standing
  have counted := (List.getElem_cons_eraseIdx_perm inside).countP_eq Awaiting.isOpening
  rw [← List.singleton_append, List.countP_append] at counted
  simp only [State.opening, State.leave]
  omega

/-- A call that stands at another `await` is counted as that one. -/
theorem opening_await (state : State) (standing : state.running[index]? = some awaiting)
    (other : Awaiting) :
    (state.await index other).opening + [awaiting].countP Awaiting.isOpening =
      state.opening + [other].countP Awaiting.isOpening := by
  obtain ⟨inside, named⟩ := List.getElem?_eq_some_iff.mp standing
  have counted := (List.set_perm_cons_eraseIdx inside other).countP_eq Awaiting.isOpening
  rw [← List.singleton_append, List.countP_append] at counted
  have left := opening_leave _ standing
  simp only [State.opening, State.leave, State.await] at *
  omega

/-- The loop answers nothing, and its call no longer waits for an open packet. -/
theorem loop_silent (state : State) (standing : state.running[index]? = some awaiting) :
    answers (state.loop index).2 = [] ∧ (state.loop index).1.opened = state.opened ∧
      (state.loop index).1.opening + [awaiting].countP Awaiting.isOpening = state.opening := by
  rcases state.loop_cases index with ⟨batch, buffer, -, looped⟩ | ⟨-, looped⟩
  · rw [looped]
    exact ⟨rfl, rfl, opening_await { state with buffer := buffer } standing _⟩
  · rw [looped]
    exact ⟨rfl, rfl, opening_leave { state with writable := true } standing⟩

/-- A new call that enters the loop. -/
theorem enter_silent (state : State) : answers state.enter.2 = [] ∧
    state.enter.1.opened = state.opened ∧ state.enter.1.opening = state.opening := by
  have standing : (state.running ++ [Awaiting.ready])[state.running.length]? = some .ready := by
    simp
  obtain ⟨answered, opened, counted⟩ := loop_silent
    { state with running := state.running ++ [.ready] } standing
  refine ⟨answered, opened, ?_⟩
  simpa [State.opening, Awaiting.isOpening, State.enter] using counted

end Count

/-- A call of `send` on an opened transport answers nothing; on another one it may wait
to accept, or refuse. -/
theorem start_answering {event : Event} (begins : event.begins = true) (state : State)
    (packets : List EioPacket) :
    Answering state event (state.start packets).2 (state.start packets).1 := by
  rcases state.start_cases packets with
    ⟨packet, buffer, closed, -, -, started⟩ | ⟨packet, buffer, closed, -, -, started⟩ |
      ⟨-, started⟩
  · rw [started]
    exact .asked begins rfl closed closed (by simp [State.opening, Awaiting.isOpening])
  · obtain ⟨answered, opened, counted⟩ :=
      enter_silent { state with writable := false, buffer := buffer }
    rw [started]
    exact .refused State.notOpened begins (by rw [answers_refuse, answered]) closed
      (opened.trans closed) counted
  · obtain ⟨answered, opened, counted⟩ :=
      enter_silent { state with writable := false, buffer := state.buffer ++ packets }
    rw [started]
    exact .silent answered opened counted.le

/-- Every step of a transport is of one of the four kinds. -/
theorem step_answering (codec : Codec) {state next : State} {event : Event}
    {added : List Output} (stepped : step codec state event = some (next, added)) :
    Answering state event added next := by
  cases step_taken stepped with
  | send free => exact start_answering rfl state _
  | doClose => exact start_answering rfl state closePackets
  | close => exact start_answering rfl state closePackets
  | openEncoded standing =>
    obtain ⟨answered, opened, counted⟩ := loop_silent { state with opened := true } standing
    exact .accepted _ (by simp [State.accepts, standing, Awaiting.isOpening])
      (by rw [answers_accept, answered]) opened counted
  | @payloadEncoded index batch standing =>
    have counted := opening_await _ standing (.outstanding (codec.encodePayload batch))
    exact .silent rfl rfl counted.le
  | failed standing => exact .silent rfl rfl (Nat.le.intro (opening_leave _ standing))
  | settled fulfilled standing => exact .silent rfl rfl (opening_await _ standing .ready).le
  | resumed standing =>
    obtain ⟨answered, opened, counted⟩ := loop_silent _ standing
    exact .silent answered opened counted.le

end WebPubSub.Transport
