import WebPubSub.Adapter.Acknowledgement
import WebPubSub.Library.Lines

/-!
# Acknowledged broadcasts side by side

The calls of one adapter share its decoder, its listeners and its process. A call gets the
same callbacks among others as alone when no other call disturbs it: while its response is
read, the others leave the decoder as they found it and end no process, and when an exception
has left its listener behind, no packet of theirs reaches it.

The run among others is compared with the run of the events of the one call. They agree on
its variables, and on the decoder as long as its response is read.
-/

namespace WebPubSub.Adapter.Acks

variable {rejections : UnhandledRejections} {parsers : Parsers}

namespace Parsers

/-- The decoder after some lines, up to an exception. -/
def after (parsers : Parsers) (decoder : parsers.SioDecoder) : List Text → parsers.SioDecoder
  | [] => decoder
  | line :: lines =>
    if line = [] then parsers.after decoder lines
    else
      match parsers.payload line with
      | none => decoder
      | some packets =>
        if (parsers.deliver decoder packets).returned then
          parsers.after (parsers.deliver decoder packets).decoder lines
        else (parsers.deliver decoder packets).decoder

/-- Whether no exception comes out of some lines. -/
def returns (parsers : Parsers) (decoder : parsers.SioDecoder) : List Text → Bool
  | [] => true
  | line :: lines =>
    if line = [] then parsers.returns decoder lines
    else
      match parsers.payload line with
      | none => false
      | some packets =>
        (parsers.deliver decoder packets).returned &&
          parsers.returns (parsers.deliver decoder packets).decoder lines

/-- The data of the first line that is not empty. All listeners are removed after it. -/
def heard (parsers : Parsers) (decoder : parsers.SioDecoder) :
    List Text → List (List parsers.Value)
  | [] => []
  | line :: lines =>
    if line = [] then parsers.heard decoder lines
    else
      match parsers.payload line with
      | none => []
      | some packets => (parsers.deliver decoder packets).data

end Parsers

/-- The lines that a chunk completes. -/
def State.arriving (state : State parsers) (call : Nat) (value : List UInt8) : List Text :=
  Lines.complete '\n' ((state.streams call).accumulatedData ++ Utf8.decode value)

/-- An event does not disturb a call: it is one of its own, or nobody reads the response it
is about, or it is a chunk whose lines leave the decoder as it was, unless the response of
the call has ended, and are not heard by a listener of the call. While the response of the
call is read, what ends the process disturbs it: lines that throw, and a body that fails. -/
def Spares (rejections : UnhandledRejections) (call : Nat) (state : State parsers) : Event → Prop
  | .chunk other value =>
      other = call ∨ state.exited = true ∨ (state.streams other).reading = false ∨
        (((state.streams call).reading = true →
            parsers.after state.decoder (state.arriving other value) = state.decoder ∧
              (rejections = .throw →
                parsers.returns state.decoder (state.arriving other value) = true)) ∧
          (call ∈ state.listeners →
            parsers.heard state.decoder (state.arriving other value) = []))
  | .finish _ => True
  | .failed other =>
      other = call ∨ state.exited = true ∨ (state.streams other).reading = false ∨
        ((state.streams call).reading = true → rejections = .warn)

instance [DecidableEq parsers.SioDecoder] [DecidableEq parsers.Value]
    (rejections : UnhandledRejections) (call : Nat) (state : State parsers) :
    ∀ event, Decidable (Spares rejections call state event)
  | .chunk _ _ => inferInstanceAs (Decidable (_ ∨ _ ∨ _ ∨ _ ∧ _))
  | .finish _ => inferInstanceAs (Decidable True)
  | .failed _ => inferInstanceAs (Decidable (_ ∨ _ ∨ _ ∨ _))

/-- Between two events, while the response of the call is read. -/
structure Alike (call : Nat) (main alone : State parsers) : Prop where
  stream : main.streams call = alone.streams call
  decoder : main.decoder = alone.decoder
  unheard : call ∉ main.listeners
  silent : alone.listeners = []
  running : main.exited = false ∧ alone.exited = false

/-- Between two events. -/
structure Agree (call : Nat) (main alone : State parsers) : Prop where
  stream : main.streams call = alone.streams call
  reading : (main.streams call).reading = true → Alike call main alone

/-- A line that can be read. -/
theorem handleJsonLine_read (state : State parsers) (call : Nat) {line : Text}
    {packets : List EioPacket} (nonempty : line ≠ [])
    (read : parsers.payload line = some packets) :
    state.handleJsonLine call line =
      ⟨{ decoder := (parsers.deliver state.decoder packets).decoder
         listeners := if (parsers.deliver state.decoder packets).returned then []
          else state.listeners ++ [call]
         streams := fun other =>
          { state.streams other with
            count := (state.streams other).count +
              (parsers.deliver state.decoder packets).data.length *
                (state.listeners ++ [call]).count other }
         exited := state.exited },
        (parsers.deliver state.decoder packets).data.flatMap
          (fun data => (state.listeners ++ [call]).map (fun other => .ack other data)),
        (parsers.deliver state.decoder packets).returned⟩ := by
  simp only [State.handleJsonLine, if_neg nonempty, read, State.addElements_eq, Handled.andThen,
    Handled.done, State.emitAll]
  cases (parsers.deliver state.decoder packets).returned <;> simp

/-- What a listener of the call does not hear is not counted by it, nor acked. -/
theorem heard_nothing {call other : Nat} (different : other ≠ call) {listeners : List Nat}
    {data : List (List parsers.Value)} (unheard : call ∈ listeners → data = []) :
    data.length * (listeners ++ [other]).count call = 0 ∧
      ∀ output ∈ data.flatMap (fun data =>
          (listeners ++ [other]).map (fun listener => (.ack listener data : Output parsers.Value))),
        output.call ≠ call := by
  by_cases listening : call ∈ listeners
  · simp [unheard listening]
  · have missing : call ∉ listeners ++ [other] := by simp [listening, Ne.symm different]
    constructor
    · rw [List.count_eq_zero.mpr missing, Nat.mul_zero]
    · intro output member same
      obtain ⟨data, -, listener, present, rfl⟩ : ∃ values ∈ data, ∃ listener ∈ listeners ++ [other],
          Output.ack listener values = output := by
        simpa only [List.mem_flatMap, List.mem_map] using member
      exact missing (same ▸ present)

/-- What a call does not notice of a part of a handler. -/
structure Unnoticed (call : Nat) (state : State parsers) (handled : Handled parsers) : Prop where
  stream : handled.state.streams call = state.streams call
  unheard : call ∉ state.listeners → call ∉ handled.state.listeners
  exited : handled.state.exited = state.exited
  outputs : ∀ output ∈ handled.outputs, output.call ≠ call

namespace Unnoticed

variable {call other : Nat} {state : State parsers}

theorem done : Unnoticed call state (.done state) :=
  ⟨rfl, id, rfl, fun _ member => by cases member⟩

theorem andThen {first : Handled parsers} {rest : State parsers → Handled parsers}
    (before : Unnoticed call state first)
    (after : first.returned = true → Unnoticed call first.state (rest first.state)) :
    Unnoticed call state (first.andThen rest) := by
  unfold Handled.andThen
  split
  · rename_i returned
    obtain ⟨stream, unheard, exited, outputs⟩ := after returned
    refine ⟨stream.trans before.stream, fun missing => unheard (before.unheard missing),
      exited.trans before.exited, ?_⟩
    intro output member
    obtain first | second := List.mem_append.mp member
    · exact before.outputs output first
    · exact outputs output second
  · exact before

/-- A line of another call that is not heard. -/
theorem line (different : other ≠ call) {line : Text} {packets : List EioPacket}
    (nonempty : line ≠ []) (read : parsers.payload line = some packets)
    (unheard : call ∈ state.listeners → (parsers.deliver state.decoder packets).data = []) :
    Unnoticed call state (state.handleJsonLine other line) := by
  obtain ⟨uncounted, outputs⟩ := heard_nothing different unheard
  rw [handleJsonLine_read state other nonempty read]
  refine ⟨?_, ?_, rfl, outputs⟩
  · dsimp only
    rw [uncounted, Nat.add_zero]
  · intro missing
    dsimp only
    split <;> simp [missing, Ne.symm different]

/-- The lines of another call, when no listener of the call hears the first of them. All
listeners are removed after it. -/
theorem lines (different : other ≠ call) (lines : List Text)
    (spared : call ∈ state.listeners → parsers.heard state.decoder lines = []) :
    Unnoticed call state (state.handleJsonLines other lines) := by
  induction lines generalizing state with
  | nil => exact done
  | cons line lines inductionHypothesis =>
    rw [State.handleJsonLines]
    by_cases empty : line = []
    · have skipped : state.handleJsonLine other line = .done state := if_pos empty
      rw [skipped]
      refine done.andThen (fun _ => inductionHypothesis ?_)
      simpa [Parsers.heard, empty, Handled.done] using spared
    · cases read : parsers.payload line with
      | none =>
        have threw : state.handleJsonLine other line = ⟨state, [], false⟩ := by
          simp [State.handleJsonLine, empty, read]
        rw [threw]
        exact ⟨rfl, id, rfl, fun _ member => by cases member⟩
      | some packets =>
        have unheard : call ∈ state.listeners →
            (parsers.deliver state.decoder packets).data = [] := by
          simpa [Parsers.heard, empty, read] using spared
        refine (Unnoticed.line different empty read unheard).andThen
          (fun returned => inductionHypothesis ?_)
        rw [handleJsonLine_read state other empty read] at returned ⊢
        dsimp only at returned ⊢
        rw [if_pos returned]
        intro member
        cases member

end Unnoticed

/-- What lines do to the decoder does not depend on the calls. -/
theorem handleJsonLines_decoder (state : State parsers) (call : Nat) (lines : List Text) :
    (state.handleJsonLines call lines).state.decoder = parsers.after state.decoder lines := by
  induction lines generalizing state with
  | nil => rfl
  | cons line lines inductionHypothesis =>
    rw [State.handleJsonLines, Parsers.after]
    by_cases empty : line = []
    · have skipped : state.handleJsonLine call line = .done state := if_pos empty
      rw [skipped, if_pos empty]
      exact inductionHypothesis state
    · rw [if_neg empty]
      cases read : parsers.payload line with
      | none => simp [State.handleJsonLine, empty, read, Handled.andThen]
      | some packets =>
        rw [handleJsonLine_read state call empty read]
        simp only [Handled.andThen]
        split
        · exact inductionHypothesis _
        · rfl

/-- Nor does it depend on the calls whether lines throw. -/
theorem handleJsonLines_returned (state : State parsers) (call : Nat) (lines : List Text) :
    (state.handleJsonLines call lines).returned = parsers.returns state.decoder lines := by
  induction lines generalizing state with
  | nil => rfl
  | cons line lines inductionHypothesis =>
    rw [State.handleJsonLines, Parsers.returns]
    by_cases empty : line = []
    · have skipped : state.handleJsonLine call line = .done state := if_pos empty
      rw [skipped, if_pos empty]
      exact inductionHypothesis state
    · rw [if_neg empty]
      cases read : parsers.payload line with
      | none => simp [State.handleJsonLine, empty, read, Handled.andThen]
      | some packets =>
        rw [handleJsonLine_read state call empty read]
        simp only [Handled.andThen]
        split
        · rename_i returned
          rw [returned, Bool.true_and]
          exact inductionHypothesis _
        · rename_i threw
          rw [Bool.eq_false_iff.mpr threw, Bool.false_and]

/-- The callbacks of one call. -/
def ofCall (call : Nat) (outputs : List (Output parsers.Value)) : List (Output parsers.Value) :=
  outputs.filter (fun output => output.call = call)

@[simp]
theorem ofCall_append (call : Nat) (first second : List (Output parsers.Value)) :
    ofCall call (first ++ second) = ofCall call first ++ ofCall call second := by
  simp [ofCall]

/-- Packets are acked once by the only listener of a call. -/
theorem ofCall_heard {call : Nat} {listeners : List Nat} (unheard : call ∉ listeners)
    (data : List (List parsers.Value)) :
    ofCall call (data.flatMap (fun values =>
        (listeners ++ [call]).map (fun listener => .ack listener values))) =
      data.flatMap (fun values => [.ack call values]) := by
  have none (values : List parsers.Value) :
      ofCall call (listeners.map (fun listener => .ack listener values)) = [] := by
    simp only [ofCall, List.filter_eq_nil_iff, List.mem_map]
    rintro _ ⟨listener, member, rfl⟩ same
    exact unheard (of_decide_eq_true same ▸ member)
  induction data with
  | nil => rfl
  | cons values data inductionHypothesis =>
    rw [List.flatMap_cons, ofCall_append, inductionHypothesis, List.map_append, ofCall_append,
      none, List.flatMap_cons]
    simp [ofCall, Output.call]

/-- What a call does among others and alone. -/
structure Same (call : Nat) (main alone : Handled parsers) : Prop where
  stream : main.state.streams call = alone.state.streams call
  decoder : main.state.decoder = alone.state.decoder
  returned : main.returned = alone.returned
  unheard : main.returned = true → call ∉ main.state.listeners ∧ alone.state.listeners = []
  running : main.state.exited = false ∧ alone.state.exited = false
  outputs : ofCall call main.outputs = alone.outputs

namespace Same

variable {call : Nat}

theorem alike {main alone : Handled parsers} (same : Same call main alone)
    (returned : main.returned = true) : Alike call main.state alone.state :=
  ⟨same.stream, same.decoder, (same.unheard returned).1, (same.unheard returned).2, same.running⟩

theorem done {main alone : State parsers} (alike : Alike call main alone) :
    Same call (.done main) (.done alone) :=
  ⟨alike.stream, alike.decoder, rfl, fun _ => ⟨alike.unheard, alike.silent⟩, alike.running, rfl⟩

theorem andThen {main alone : Handled parsers} {rest other : State parsers → Handled parsers}
    (before : Same call main alone)
    (after : ∀ main alone, Alike call main alone → Same call (rest main) (other alone)) :
    Same call (main.andThen rest) (alone.andThen other) := by
  unfold Handled.andThen
  cases returned : main.returned with
  | false =>
    rw [← before.returned, returned]
    exact before
  | true =>
    rw [← before.returned, returned]
    obtain ⟨stream, decoder, ended, unheard, running, outputs⟩ :=
      after _ _ (before.alike returned)
    refine ⟨stream, decoder, ended, unheard, running, ?_⟩
    simp [before.outputs, outputs]

/-- One of its lines. -/
theorem line {main alone : State parsers} (alike : Alike call main alone) (line : Text) :
    Same call (main.handleJsonLine call line) (alone.handleJsonLine call line) := by
  by_cases empty : line = []
  · simpa [State.handleJsonLine, empty] using done alike
  · cases read : parsers.payload line with
    | none =>
      simp only [State.handleJsonLine, if_neg empty, read]
      exact ⟨alike.stream, alike.decoder, rfl, nofun, alike.running, rfl⟩
    | some packets =>
      rw [handleJsonLine_read main call empty read, handleJsonLine_read alone call empty read,
        alike.silent, ← alike.decoder]
      have heard : (main.listeners ++ [call]).count call = ([] ++ [call]).count call := by
        simp [List.count_eq_zero.mpr alike.unheard]
      refine ⟨?_, rfl, rfl, fun returned => ?_, alike.running, ?_⟩
      · dsimp only
        rw [alike.stream, heard]
      · dsimp only at returned ⊢
        simp [returned]
      · exact ofCall_heard alike.unheard _

theorem lines (lines : List Text) {main alone : State parsers} (alike : Alike call main alone) :
    Same call (main.handleJsonLines call lines) (alone.handleJsonLines call lines) := by
  induction lines generalizing main alone with
  | nil => exact done alike
  | cons line lines inductionHypothesis =>
    exact (Same.line alike line).andThen (fun _ _ alike => inductionHypothesis alike)

end Same

section Steps

variable {call : Nat} {main alone : State parsers}

theorem carry_alike (alike : Alike call main alone) (text : Text) :
    Alike call (main.carry call text) (alone.carry call text) := by
  refine ⟨?_, alike.decoder, alike.unheard, alike.silent, alike.running⟩
  simp [State.carry, State.withStream, alike.stream]

/-- A chunk of the call. -/
theorem own_chunk (alike : Alike call main alone) (chunk : Text) :
    Same call (main.streamHandleResponse call chunk) (alone.streamHandleResponse call chunk) := by
  rw [State.streamHandleResponse, State.streamHandleResponse, ← alike.stream]
  exact (Same.lines _ (carry_alike alike _)).andThen
    (fun _ _ alike => Same.done (carry_alike alike _))

/-- Once nobody reads the response, the two need not agree on more than its variables. -/
theorem stop_agree (stream : main.streams call = alone.streams call) :
    Agree call (main.stop call) (alone.stop call) := by
  constructor
  · simp [State.stop, State.withStream, stream]
  · intro reading
    simp [State.stop, State.withStream] at reading

theorem reject_agree (stream : main.streams call = alone.streams call) :
    Agree call (main.reject rejections call) (alone.reject rejections call) := by
  constructor
  · exact (stop_agree stream).stream
  · intro reading
    simp [State.reject, State.stop, State.withStream] at reading

/-- An event of the call. -/
theorem own_step (agree : Agree call main alone) {event : Event} (own : event.call = call) :
    Agree call (main.step rejections event).1 (alone.step rejections event).1 ∧
      ofCall call (main.step rejections event).2 = (alone.step rejections event).2 := by
  subst own
  cases reading : (main.streams event.call).reading with
  | false =>
    have also : (alone.streams event.call).reading = false := agree.stream ▸ reading
    simp only [State.step, reading, also, Bool.false_eq_true, and_false, if_false]
    exact ⟨agree, rfl⟩
  | true =>
    have alike := agree.reading reading
    have also : (alone.streams event.call).reading = true := agree.stream ▸ reading
    simp only [State.step, reading, also, alike.running, and_self, if_true]
    cases event with
    | chunk call value =>
      have same : Same call (main.streamHandleResponse call (Utf8.decode value))
          (alone.streamHandleResponse call (Utf8.decode value)) :=
        own_chunk alike (Utf8.decode value)
      constructor
      · dsimp only
        rw [← same.returned]
        cases returned : (main.streamHandleResponse call (Utf8.decode value)).returned with
        | true => exact ⟨same.stream, fun _ => same.alike returned⟩
        | false => exact reject_agree same.stream
      · exact same.outputs
    | finish call =>
      have stream : main.streams call = alone.streams call := agree.stream
      exact ⟨stop_agree stream, by simp [ofCall, Output.call, Event.call, stream]⟩
    | failed call => exact ⟨reject_agree agree.stream, rfl⟩

/-- The variables of another call are its own. -/
theorem withStream_agree (agree : Agree call main alone) {other : Nat} (different : other ≠ call)
    (stream : Stream) : Agree call (main.withStream other stream) alone := by
  have kept : (main.withStream other stream).streams call = main.streams call :=
    Function.update_of_ne (Ne.symm different) _ _
  constructor
  · exact kept.trans agree.stream
  · intro reading
    rw [kept] at reading
    have alike := agree.reading reading
    exact ⟨kept.trans alike.stream, alike.decoder, alike.unheard, alike.silent, alike.running⟩

/-- An exception of another call, which the process survives unless the response of the call
has ended. -/
theorem reject_other (agree : Agree call main alone) {other : Nat} (different : other ≠ call)
    (survives : (main.streams call).reading = true → rejections = .warn) :
    Agree call (main.reject rejections other) alone := by
  obtain ⟨stream, reading⟩ := withStream_agree agree different
    { main.streams other with reading := false }
  refine ⟨stream, fun read => ?_⟩
  obtain ⟨same, decoder, unheard, silent, running⟩ := reading read
  have kept : (main.streams call).reading = true := by
    rw [agree.stream, ← stream]
    exact read
  exact ⟨same, decoder, unheard, silent, by simp [State.reject, survives kept], running.2⟩

/-- A chunk of another call. -/
theorem other_chunk {other : Nat} (different : other ≠ call) (value : List UInt8)
    (spared : call ∈ main.listeners →
      parsers.heard main.decoder (main.arriving other value) = []) :
    Unnoticed call main (main.streamHandleResponse other (Utf8.decode value)) ∧
      (main.streamHandleResponse other (Utf8.decode value)).state.decoder =
        parsers.after main.decoder (main.arriving other value) ∧
      (main.streamHandleResponse other (Utf8.decode value)).returned =
        parsers.returns main.decoder (main.arriving other value) := by
  have carried (state : State parsers) (text : Text) :
      (state.carry other text).streams call = state.streams call :=
    Function.update_of_ne (Ne.symm different) _ _
  let started := main.carry other ((main.streams other).accumulatedData ++ Utf8.decode value)
  refine ⟨?_, ?_, ?_⟩
  · have lines : Unnoticed call started
        (started.handleJsonLines other (main.arriving other value)) :=
      Unnoticed.lines different _ spared
    have unnoticed : Unnoticed call started
        (main.streamHandleResponse other (Utf8.decode value)) := by
      rw [State.streamHandleResponse]
      apply lines.andThen
      intro _
      exact ⟨carried _ _, id, rfl, nofun⟩
    exact ⟨unnoticed.stream.trans (carried _ _), unnoticed.unheard, unnoticed.exited,
      unnoticed.outputs⟩
  · have lines : (started.handleJsonLines other (main.arriving other value)).state.decoder =
        parsers.after main.decoder (main.arriving other value) :=
      handleJsonLines_decoder started other _
    rw [State.streamHandleResponse, Handled.andThen]
    split <;> exact lines
  · have lines : (started.handleJsonLines other (main.arriving other value)).returned =
        parsers.returns main.decoder (main.arriving other value) :=
      handleJsonLines_returned started other _
    rw [State.streamHandleResponse, Handled.andThen]
    split
    · rename_i returned
      rw [← lines]
      exact returned.symm
    · exact lines

/-- Callbacks of other calls. -/
theorem ofCall_eq_nil {outputs : List (Output parsers.Value)}
    (others : ∀ output ∈ outputs, output.call ≠ call) : ofCall call outputs = [] := by
  simpa [ofCall] using others

/-- An event of another call that spares the call. -/
theorem other_step (agree : Agree call main alone) {event : Event} (different : event.call ≠ call)
    (spared : Spares rejections call main event) :
    Agree call (main.step rejections event).1 alone ∧
      ofCall call (main.step rejections event).2 = [] := by
  unfold State.step
  split
  · rename_i read
    obtain ⟨running, reading⟩ := read
    cases event with
    | chunk other value =>
      change other ≠ call at different
      obtain ⟨kept, silent⟩ : ((main.streams call).reading = true →
          parsers.after main.decoder (main.arriving other value) = main.decoder ∧
            (rejections = .throw →
              parsers.returns main.decoder (main.arriving other value) = true)) ∧
          (call ∈ main.listeners →
            parsers.heard main.decoder (main.arriving other value) = []) := by
        obtain own | exited | ended | spared := spared
        · exact absurd own different
        · exact absurd (exited.symm.trans running) (by decide)
        · exact absurd (ended.symm.trans reading) (by decide)
        · exact spared
      obtain ⟨unnoticed, decoder, returns⟩ := other_chunk different value silent
      constructor
      · have handled : Agree call (main.streamHandleResponse other (Utf8.decode value)).state
            alone := by
          constructor
          · exact unnoticed.stream.trans agree.stream
          · intro reading
            rw [unnoticed.stream] at reading
            have alike := agree.reading reading
            refine ⟨unnoticed.stream.trans alike.stream, ?_, unnoticed.unheard alike.unheard,
              alike.silent, unnoticed.exited.trans running, alike.running.2⟩
            rw [decoder, (kept reading).1, alike.decoder]
        dsimp only
        split
        · exact handled
        · rename_i threw
          refine reject_other handled different (fun reading => ?_)
          rw [unnoticed.stream] at reading
          cases rejections with
          | warn => rfl
          | throw => exact absurd (returns.trans ((kept reading).2 rfl)) threw
      · exact ofCall_eq_nil unnoticed.outputs
    | finish other =>
      exact ⟨withStream_agree agree different _, ofCall_eq_nil (by simpa [Output.call])⟩
    | failed other =>
      change other ≠ call at different
      obtain own | exited | ended | survives := spared
      · exact absurd own different
      · exact absurd (exited.symm.trans running) (by decide)
      · exact absurd (ended.symm.trans reading) (by decide)
      · exact ⟨reject_other agree different survives, rfl⟩
  · exact ⟨agree, rfl⟩

end Steps

/-- Among others that spare it, a call does what it does alone. -/
theorem agree_run {call : Nat} {events : List Event} {main alone final : State parsers}
    {outputs : List (Output parsers.Value)} (agree : Agree call main alone)
    (spared : (machine rejections parsers).Meets (Spares rejections call) main events)
    (ran : (machine rejections parsers).run main events = some (final, outputs)) :
    ∃ last, (machine rejections parsers).run alone
        (events.filter (fun event => event.call = call)) =
      some (last, ofCall call outputs) ∧ Agree call final last := by
  apply (machine rejections parsers).run_restricted _ (fun output => output.call = call)
    (Agree call) ?_ ?_ agree spared ran
  · intro main alone event next outputs agree own _ stepped
    obtain ⟨rfl, rfl⟩ := Prod.mk.inj (Option.some.inj stepped)
    obtain ⟨agreed, same⟩ := own_step agree (of_decide_eq_true own)
    refine ⟨(alone.step rejections event).1, ?_, agreed⟩
    exact congrArg some (Prod.ext rfl same.symm)
  · intro main alone event next outputs agree other spared stepped
    obtain ⟨rfl, rfl⟩ := Prod.mk.inj (Option.some.inj stepped)
    obtain ⟨agreed, silent⟩ := other_step agree (of_decide_eq_false other) spared
    exact ⟨silent, agreed⟩

/-- The callbacks of a call among any number of others, in any interleaving, are those it
gets when it is alone, if no event of the others disturbs it. -/
theorem callbacks_isolated (rejections : UnhandledRejections) (call : Nat) (events : List Event)
    (spared : (machine rejections parsers).Meets (Spares rejections call) .initial events) :
    ∃ final outputs last, (machine rejections parsers).run .initial events = some (final, outputs) ∧
      (machine rejections parsers).run .initial (events.filter (fun event => event.call = call)) =
        some (last, ofCall call outputs) := by
  have agree : Agree call (State.initial : State parsers) .initial :=
    ⟨rfl, fun _ => ⟨rfl, rfl, List.not_mem_nil, rfl, rfl, rfl⟩⟩
  obtain ⟨final, outputs, ran⟩ := run_total rejections events (State.initial : State parsers)
  obtain ⟨last, alone, -⟩ := agree_run agree spared ran
  exact ⟨final, outputs, last, ran, alone⟩

/-- A response with one line. -/
def responseOf (payload : Text) : List UInt8 :=
  Utf8.encode (Lines.terminated '\n' [Json.single "Payload".toList payload])

/-- Two calls whose chunks alternate. -/
def alternating : List Event :=
  [.chunk 0 ((responseOf "430[\"a\"]".toList).take 5), .chunk 1 (responseOf "431[\"b\"]".toList),
    .chunk 0 ((responseOf "430[\"a\"]".toList).drop 5), .finish 1, .finish 0]

theorem callbacks_isolated_alternating :
    ∃ final outputs last,
      (machine .throw Parsers.text).run .initial alternating = some (final, outputs) ∧
      (machine .throw Parsers.text).run .initial
          (alternating.filter (fun event => event.call = 1)) =
        some (last, ofCall 1 outputs) :=
  callbacks_isolated .throw 1 alternating (by decide +kernel)

/-- A line of another call that cannot be read ends the process. Where the process survives it,
the call gets what it gets alone. -/
example :
    let malformed : List Event := [.chunk 0 (Utf8.encode (Lines.terminated '\n' [['?']])),
      .chunk 1 (responseOf "431[\"b\"]".toList), .finish 1]
    ((machine .throw Parsers.text).run .initial malformed).map Prod.snd = some [] ∧
      ((machine .warn Parsers.text).run .initial malformed).map Prod.snd =
        some [.ack 1 ["b".toList], .clientCount 1 1] := by
  constructor <;> decide +kernel

/-- The header of an ack whose attachment never comes, and then the response of a second
call. -/
def afterHeader : List Event :=
  [.chunk 0 (responseOf "461-0[\x7b\"_placeholder\":true,\"num\":0\x7d]".toList),
    .chunk 1 (responseOf "431[\"b\"]".toList), .finish 1]

/-- The decoder waits for the attachment and throws at the text of the second call, which is
then neither acked nor counted. Alone it is. -/
theorem header_disturbs :
    ((machine .throw Parsers.text).run .initial afterHeader).map (fun result => ofCall 1 result.2) =
        some [] ∧
      ((machine .throw Parsers.text).run .initial
        (afterHeader.filter (fun event => event.call = 1))).map Prod.snd =
        some [.ack 1 ["b".toList], .clientCount 1 1] := by
  constructor <;> decide +kernel

end WebPubSub.Adapter.Acks
