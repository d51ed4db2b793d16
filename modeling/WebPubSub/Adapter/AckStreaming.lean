import WebPubSub.Adapter.Acknowledgement
import WebPubSub.Library.Lines

/-!
# Acknowledgements of one response

What `broadcastWithAck` does with a response of lines that each carry one packet. The text
carried over between chunks is right wherever a line is cut. A character is not: each chunk
is decoded by itself, so a chunk must start between two characters, and not with a byte
order mark, which is removed.
-/

namespace WebPubSub.Adapter.Acks

variable {rejections : UnhandledRejections} {parsers : Parsers}

/-- A line carries one packet with the data, and nothing else for the decoder. -/
def Parsers.Carries (parsers : Parsers) (line : Text) (data : List parsers.Value) : Prop :=
  ∃ packets, parsers.payload line = some packets ∧
    parsers.deliver parsers.idle packets = ⟨parsers.idle, [data], true⟩

/-- With `JSON.parse`, any payload can be sent in a line of its own. -/
theorem payload_single (parsed : parsers.json = Json.parse) (payload : Text) :
    parsers.payload (Json.single "Payload".toList payload) =
      parsers.decodePayload (some (.string payload)) := by
  rw [Parsers.payload, parsed, Json.parse_single]
  rfl

/-- The lines that are not skipped. -/
def nonempty (lines : List Text) : List Text := lines.filter (· ≠ [])

/-- One ack for each line, in order. -/
def acks (call : Nat) (data : Text → List parsers.Value) (lines : List Text) :
    List (Output parsers.Value) :=
  (nonempty lines).map (fun line => .ack call (data line))

@[simp]
theorem nonempty_append (first second : List Text) :
    nonempty (first ++ second) = nonempty first ++ nonempty second := by
  simp [nonempty]

@[simp]
theorem acks_append (call : Nat) (data : Text → List parsers.Value) (first second : List Text) :
    acks call data (first ++ second) = acks call data first ++ acks call data second := by
  simp [acks]

/-- Lines none of which is empty. -/
theorem nonempty_eq {lines : List Text} (full : ∀ line ∈ lines, line ≠ []) :
    nonempty lines = lines := by
  simpa [nonempty] using full

namespace State

/-- No packet is under way, no listener is left, and the process is running. -/
structure Quiet (state : State parsers) : Prop where
  idle : state.decoder = parsers.idle
  unheard : state.listeners = []
  running : state.exited = false

/-- A call has counted some more packets. -/
def counted (state : State parsers) (call more : Nat) : State parsers :=
  state.withStream call
    { state.streams call with count := (state.streams call).count + more }

@[simp]
theorem counted_zero (state : State parsers) (call : Nat) : state.counted call 0 = state := by
  simp [counted, withStream]

@[simp]
theorem counted_counted (state : State parsers) (call first second : Nat) :
    (state.counted call first).counted call second = state.counted call (first + second) := by
  simp [counted, withStream, Nat.add_assoc]

theorem Quiet.withStream {state : State parsers} (quiet : state.Quiet) (call : Nat)
    (stream : Stream) : (state.withStream call stream).Quiet :=
  ⟨quiet.idle, quiet.unheard, quiet.running⟩

theorem Quiet.counted {state : State parsers} (quiet : state.Quiet) (call more : Nat) :
    (state.counted call more).Quiet :=
  quiet.withStream call _

/-- A line that carries a packet is acked and counted once. -/
theorem handleJsonLine_carried {state : State parsers} (quiet : state.Quiet) (call : Nat)
    {line : Text} {data : List parsers.Value} (nonempty : line ≠ [])
    (carried : parsers.Carries line data) :
    state.handleJsonLine call line = ⟨state.counted call 1, [.ack call data], true⟩ := by
  obtain ⟨packets, read, delivered⟩ := carried
  have streams : (fun other => { state.streams other with
      count := (state.streams other).count + [call].count other }) =
      (state.counted call 1).streams := by
    funext other
    by_cases same : other = call
    · subst same
      simp [counted, State.withStream]
    · simp [counted, State.withStream, same, Ne.symm same]
  simp only [handleJsonLine, if_neg nonempty, read, addElements_eq, quiet.idle, quiet.unheard,
    delivered, Handled.andThen, Handled.done, emitAll]
  simp [streams, counted, State.withStream, quiet.idle, quiet.unheard]

/-- Lines that carry packets are acked in order. Empty lines are skipped. -/
theorem handleJsonLines_carried {state : State parsers} (quiet : state.Quiet) (call : Nat)
    (data : Text → List parsers.Value) {lines : List Text}
    (carried : ∀ line ∈ lines, line ≠ [] → parsers.Carries line (data line)) :
    state.handleJsonLines call lines =
      ⟨state.counted call (nonempty lines).length, acks call data lines, true⟩ := by
  induction lines generalizing state with
  | nil => simp [handleJsonLines, Handled.done, nonempty, acks]
  | cons line lines inductionHypothesis =>
    have later : ∀ other ∈ lines, other ≠ [] → parsers.Carries other (data other) :=
      fun other member => carried other (.tail _ member)
    by_cases empty : line = []
    · subst empty
      simp [handleJsonLines, handleJsonLine, Handled.andThen, Handled.done,
        inductionHypothesis quiet later, nonempty, acks]
    · have first := handleJsonLine_carried quiet call empty (carried line (.head _) empty)
      have rest := inductionHypothesis (quiet.counted call 1) later
      rw [handleJsonLines, first]
      simp [Handled.andThen, rest, empty, nonempty, acks, Nat.add_comm]

/-- A chunk whose lines carry packets. -/
theorem step_chunk {state : State parsers} (quiet : state.Quiet) {call : Nat} {before : Text}
    {count : Nat} (stream : state.streams call = ⟨before, count, true⟩)
    (data : Text → List parsers.Value) {chunk : List UInt8} {text : Text}
    (arrived : text = before ++ Utf8.decode chunk)
    (carried : ∀ line ∈ Lines.complete '\n' text, line ≠ [] →
      parsers.Carries line (data line)) :
    ∃ next, state.step rejections (.chunk call chunk) =
        (next, acks call data (Lines.complete '\n' text)) ∧
      next.Quiet ∧ next.streams call = ⟨Lines.rest '\n' text,
        count + (nonempty (Lines.complete '\n' text)).length, true⟩ := by
  have carrying : (state.carry call text).Quiet := quiet.withStream call _
  have handled := handleJsonLines_carried carrying call data carried
  have lines : state.streamHandleResponse call (Utf8.decode chunk) =
      ((state.carry call text).handleJsonLines call (Lines.complete '\n' text)).andThen
        (fun next => .done (next.carry call (Lines.rest '\n' text))) := by
    rw [arrived, streamHandleResponse, stream]
    rfl
  refine ⟨((state.carry call text).counted call
    (nonempty (Lines.complete '\n' text)).length).carry call (Lines.rest '\n' text), ?_, ?_, ?_⟩
  · simp [step, Event.call, stream, lines, handled, Handled.andThen, Handled.done, quiet.running]
  · exact (carrying.counted call _).withStream call _
  · simp [carry, counted, State.withStream, stream]

end State

/-- Chunks whose lines carry packets, however they are cut. The induction is on the chunks;
the text carried over has no newline, so the lines of what follows are those that are
still to come. -/
theorem run_chunks (data : Text → List parsers.Value) (call : Nat) (chunks : List (List UInt8))
    {state : State parsers} (quiet : state.Quiet) {before : Text} {count : Nat}
    (stream : state.streams call = ⟨before, count, true⟩) (unended : '\n' ∉ before)
    {text : Text} (arrived : text = before ++ chunks.flatMap Utf8.decode)
    (carried : ∀ line ∈ Lines.complete '\n' text, line ≠ [] →
      parsers.Carries line (data line)) :
    ∃ final, (machine rejections parsers).run state (chunks.map (.chunk call)) =
        some (final, acks call data (Lines.complete '\n' text)) ∧
      final.Quiet ∧ final.streams call = ⟨Lines.rest '\n' text,
        count + (nonempty (Lines.complete '\n' text)).length, true⟩ := by
  induction chunks generalizing state before count text with
  | nil =>
    obtain rfl : text = before := by simpa using arrived
    rw [Lines.complete_of_not_mem unended, Lines.rest_of_not_mem unended]
    exact ⟨state, rfl, quiet, stream⟩
  | cons chunk chunks inductionHypothesis =>
    have parts : text = (before ++ Utf8.decode chunk) ++ chunks.flatMap Utf8.decode := by
      rw [arrived, List.flatMap_cons, List.append_assoc]
    generalize reached : before ++ Utf8.decode chunk = first at parts
    have lines : Lines.complete '\n' text = Lines.complete '\n' first ++
        Lines.complete '\n' (Lines.rest '\n' first ++ chunks.flatMap Utf8.decode) := by
      rw [parts, Lines.complete_append]
    have tail : Lines.rest '\n' text =
        Lines.rest '\n' (Lines.rest '\n' first ++ chunks.flatMap Utf8.decode) := by
      rw [parts, Lines.rest_append]
    obtain ⟨next, stepped, quieter, streamed⟩ := State.step_chunk quiet stream data reached.symm
      (fun line member => carried line (by rw [lines]; exact List.mem_append_left _ member))
    obtain ⟨final, ran, ended, counted⟩ := inductionHypothesis quieter streamed
      (Lines.not_mem_rest first) rfl
      (fun line member => carried line (by rw [lines]; exact List.mem_append_right _ member))
    refine ⟨final, ?_, ended, ?_⟩
    · rw [List.map_cons, run_cons, stepped, ran, lines]
      simp
    · rw [counted, lines, tail]
      simp [Nat.add_assoc]

/-- A whole response: its lines are acked in order, and then the number of them is given. -/
theorem run_response (rejections : UnhandledRejections) (data : Text → List parsers.Value)
    (call : Nat) (chunks : List (List UInt8))
    {state : State parsers} (quiet : state.Quiet) (fresh : state.streams call = ⟨[], 0, true⟩)
    (carried : ∀ line ∈ Lines.complete '\n' (chunks.flatMap Utf8.decode), line ≠ [] →
      parsers.Carries line (data line)) :
    ((machine rejections parsers).run state
      (chunks.map (.chunk call) ++ [.finish call])).map Prod.snd =
      some (acks call data (Lines.complete '\n' (chunks.flatMap Utf8.decode)) ++
        [.clientCount call
          (nonempty (Lines.complete '\n' (chunks.flatMap Utf8.decode))).length]) := by
  obtain ⟨final, ran, ended, counted⟩ :=
    run_chunks data call chunks quiet fresh (by simp) rfl carried
  have finished : final.step rejections (.finish call) = (final.stop call, [.clientCount call
      (nonempty (Lines.complete '\n' (chunks.flatMap Utf8.decode))).length]) := by
    simp [State.step, Event.call, counted, ended.running]
  have last : (machine rejections parsers).run final [.finish call] =
      some (final.step rejections (.finish call)) := by
    rw [run_cons]
    simp
  rw [Machine.run_append_of_run (machine rejections parsers) ran (last.trans (by rw [finished]))]
  rfl

/-- Parsers that ack each line with the line itself. -/
def Parsers.echo : Parsers where
  Value := Text
  SioDecoder := Unit
  json line := some (.object [("Payload".toList, .string line)])
  decodePayload
    | some (.string payload) => some [⟨.message, .text payload⟩]
    | _ => none
  idle := ()
  add
    | _, .text str => ((), .decoded (some [str]))
    | _, _ => ((), .threw)

theorem echo_carries (line : Text) : Parsers.echo.Carries line [line] := ⟨_, rfl, rfl⟩

section Responses

variable {lines : List Text} {chunks : List (List UInt8)}
  (full : ∀ line ∈ lines, line ≠ [] ∧ '\n' ∉ line)
  (encoded : chunks.flatten = Utf8.encode (Lines.terminated '\n' lines))

include full in
/-- A response that arrives as it was sent has the lines that were sent. -/
theorem complete_of_received
    (received : chunks.flatMap Utf8.decode = Lines.terminated '\n' lines) :
    Lines.complete '\n' (chunks.flatMap Utf8.decode) = lines := by
  have free : ∀ line ∈ lines, '\n' ∉ line := fun line member => (full line member).2
  rw [received, ← List.append_nil (Lines.terminated '\n' lines)]
  exact Lines.complete_terminated free List.not_mem_nil

include full encoded in
/-- A response whose lines that are not empty are those that were sent arrives as it was
sent: there are as many newlines as lines, and nothing follows the last of them. -/
theorem received_of_complete
    (read : nonempty (Lines.complete '\n' (chunks.flatMap Utf8.decode)) = lines) :
    chunks.flatMap Utf8.decode = Lines.terminated '\n' lines := by
  have free : ∀ line ∈ lines, '\n' ∉ line := fun line member => (full line member).2
  have sent : Lines.complete '\n' (Lines.terminated '\n' lines) = lines := by
    rw [← List.append_nil (Lines.terminated '\n' lines)]
    exact Lines.complete_terminated free List.not_mem_nil
  have many : (Lines.complete '\n' (chunks.flatMap Utf8.decode)).length = lines.length := by
    rw [Lines.length_complete, Utf8.pieces_newline encoded, ← Lines.length_complete, sent]
  have kept : Lines.complete '\n' (chunks.flatMap Utf8.decode) = lines := by
    have same : nonempty (Lines.complete '\n' (chunks.flatMap Utf8.decode)) =
        Lines.complete '\n' (chunks.flatMap Utf8.decode) :=
      List.filter_sublist.eq_of_length (by rw [many]; exact congrArg List.length read)
    rw [← same, read]
  have ended : Lines.rest '\n' (chunks.flatMap Utf8.decode) = [] := by
    obtain rfl | ⟨init, last, rfl⟩ := List.eq_nil_or_concat' lines
    · have nothing : ∀ chunk ∈ chunks, chunk = [] := by
        simpa [Lines.terminated, List.flatten_eq_nil_iff] using encoded
      have silent : chunks.flatMap Utf8.decode = [] := by
        rw [List.flatMap_eq_nil_iff]
        intro chunk member
        rw [nothing chunk member]
        rfl
      rw [silent]
      rfl
    · obtain ⟨text, arrived⟩ : ∃ text, chunks.flatMap Utf8.decode = text ++ ['\n'] := by
        apply Utf8.pieces_end
        rw [encoded, Lines.terminated_append, Lines.terminated_cons, ← List.append_assoc,
          Utf8.encode_append]
        rfl
      rw [arrived, Lines.rest_newline]
  rw [← Lines.terminated_complete (chunks.flatMap Utf8.decode), kept, ended, List.append_nil]

end Responses

/-- A response whose lines each carry one packet is acked line by line, with the number of
lines at the end, exactly when every chunk starts between two characters and not with a
byte order mark.

Proof plan:
1. the handler acks the complete lines of the text that arrives;
2. if every chunk is whole, that is the text that was sent;
3. conversely, parsers that tell all lines apart show that the text that arrives is the one
   that was sent, so every chunk is whole. -/
theorem acked_iff_whole (rejections : UnhandledRejections) (call : Nat) (lines : List Text)
    (chunks : List (List UInt8))
    (full : ∀ line ∈ lines, line ≠ [] ∧ '\n' ∉ line)
    (encoded : chunks.flatten = Utf8.encode (Lines.terminated '\n' lines)) :
    (∀ (parsers : Parsers) (data : Text → List parsers.Value) (state : State parsers),
      state.Quiet → state.streams call = ⟨[], 0, true⟩ →
      (∀ line ∈ lines, parsers.Carries line (data line)) →
      ((machine rejections parsers).run state
        (chunks.map (.chunk call) ++ [.finish call])).map Prod.snd =
        some (lines.map (fun line => .ack call (data line)) ++
          [.clientCount call lines.length])) ↔
      ∀ chunk ∈ chunks, Utf8.Whole chunk := by
  have skipped : nonempty lines = lines :=
    nonempty_eq (fun line member => (full line member).1)
  rw [← Utf8.decode_pieces_iff encoded]
  constructor
  · intro acked
    have echoed := acked Parsers.echo (fun line => [line]) State.initial ⟨rfl, rfl, rfl⟩ rfl
      (fun line _ => echo_carries line)
    rw [run_response rejections (fun line => [line]) call chunks ⟨rfl, rfl, rfl⟩ rfl
      (fun line _ _ => echo_carries line)] at echoed
    apply received_of_complete full encoded
    have same : (nonempty (Lines.complete '\n' (chunks.flatMap Utf8.decode))).map
        (fun line => (.ack call [line] : Output Text)) = lines.map (fun line => .ack call [line]) :=
      (List.append_inj' (Option.some.inj echoed) rfl).1
    have apart : Function.Injective (fun line : Text => (.ack call [line] : Output Text)) := by
      intro first second equal
      simpa using equal
    exact List.map_injective_iff.mpr apart same
  · intro received parsers data state quiet fresh carried
    have complete := complete_of_received full received
    rw [run_response rejections data call chunks quiet fresh, complete, acks, skipped]
    rw [complete]
    exact fun line member _ => carried line member

/-- A line that acks `é`. -/
def accented : Text := Json.single "Payload".toList "430[\"é\"]".toList

theorem accented_carries : Parsers.text.Carries accented ["é".toList] := by
  refine ⟨[⟨.message, .text "30[\"é\"]".toList⟩], ?_, ?_⟩
  · rw [accented, payload_single rfl]
    decide +kernel
  · apply Delivery.ext <;> decide +kernel

/-- The response of this line, in two chunks. -/
def accentedCut (first : Nat) : List (List UInt8) :=
  let bytes := Utf8.encode (Lines.terminated '\n' [accented])
  [bytes.take first, bytes.drop first]

/-- Cut within the line but after `é`, it is acked. -/
theorem acked_after_character :
    ((machine .throw Parsers.text).run .initial
      ((accentedCut 21).map (.chunk 0) ++ [.finish 0])).map Prod.snd =
      some [.ack 0 ["é".toList], .clientCount 0 1] :=
  (acked_iff_whole .throw 0 [accented] (accentedCut 21) (by decide +kernel) (by decide +kernel)).mpr
    (by decide +kernel) Parsers.text (fun _ => ["é".toList]) .initial ⟨rfl, rfl, rfl⟩ rfl
    (fun line member => by rw [List.mem_singleton.mp member]; exact accented_carries)

/-- Cut within `é`, it is acked with two replacement characters in its place. -/
theorem replaced_within_character :
    Parsers.text.Carries accented ["é".toList] ∧
      (accentedCut 19).flatten = Utf8.encode (Lines.terminated '\n' [accented]) ∧
      ((machine .throw Parsers.text).run .initial
        ((accentedCut 19).map (.chunk 0) ++ [.finish 0])).map Prod.snd =
        some [.ack 0 [[Utf8.replacement, Utf8.replacement]], .clientCount 0 1] ∧
      ((machine .throw Parsers.text).run .initial
        ((accentedCut 19).map (.chunk 0) ++ [.finish 0])).map Prod.snd ≠
        some [.ack 0 ["é".toList], .clientCount 0 1] :=
  ⟨accented_carries, by decide +kernel, by decide +kernel, by decide +kernel⟩

end WebPubSub.Adapter.Acks
