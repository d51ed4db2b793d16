import WebPubSub.Adapter.AckStreaming
import WebPubSub.Tunnel.Streaming

/-!
# Acknowledgements through the tunnel

The responses to one call of `broadcastWithAck` arrive over a tunnel connection that has other
calls under way. `invoke` throws for a status other than 200; otherwise `readBody` hands the
body to the adapter, piece by piece, as the connection yields it, and its end.

At every point of every run of the connection, the adapter has acked a front part of the lines,
each once and in order. Once all responses arrived, the connection can be served until every
line is acked and counted.
-/

namespace WebPubSub.Adapter.Acks

open Tunnel (HttpResponse Outcome connection contents responses)

/-- What `readBody` has handed over for a call that has come to this. -/
def handedOver (call : Nat) (outcome : Outcome) : List Event :=
  if outcome.promise = .fulfilled 200 then
    outcome.yielded.map (.chunk call) ++
      match outcome.ended with
      | none => []
      | some .finished => [.finish call]
      | some (.failed _) => [.failed call]
  else []

section Pieces

variable {lines : List Text} {pieces : List (List UInt8)}

/-- The lines of the pieces that have come are the first lines of the whole. -/
theorem complete_pieces (full : ∀ line ∈ lines, line ≠ [] ∧ '\n' ∉ line)
    (encoded : pieces.flatten = Utf8.encode (Lines.terminated '\n' lines))
    (whole : ∀ piece ∈ pieces, Utf8.Whole piece) {front : List (List UInt8)}
    (come : front <+: pieces) :
    Lines.complete '\n' (front.flatMap Utf8.decode) <+: lines := by
  obtain ⟨rest, rfl⟩ := come
  have received : (front ++ rest).flatMap Utf8.decode = Lines.terminated '\n' lines :=
    Utf8.decode_pieces encoded whole
  have all : Lines.complete '\n' ((front ++ rest).flatMap Utf8.decode) = lines :=
    complete_of_received full received
  rw [List.flatMap_append, Lines.complete_append] at all
  exact ⟨_, all⟩

end Pieces

section Handed

variable {parsers : Parsers} {lines : List Text} {sequence : List HttpResponse}
  {data : Text → List parsers.Value} {adapter : State parsers} {call : Nat}

/-- A body that is handed over to its end. -/
theorem run_finished (rejections : UnhandledRejections)
    (full : ∀ line ∈ lines, line ≠ [] ∧ '\n' ∉ line)
    (encoded : (contents sequence).flatten = Utf8.encode (Lines.terminated '\n' lines))
    (whole : ∀ piece ∈ contents sequence, Utf8.Whole piece)
    (carried : ∀ line ∈ lines, parsers.Carries line (data line)) (quiet : adapter.Quiet)
    (fresh : adapter.streams call = ⟨[], 0, true⟩) :
    ((machine rejections parsers).run adapter
        (handedOver call ⟨.fulfilled 200, contents sequence, some .finished⟩)).map Prod.snd =
      some (lines.map (fun line => .ack call (data line)) ++ [.clientCount call lines.length]) := by
  have all : Lines.complete '\n' ((contents sequence).flatMap Utf8.decode) = lines :=
    complete_of_received full (Utf8.decode_pieces encoded whole)
  have skipped : nonempty lines = lines :=
    nonempty_eq (fun line member => (full line member).1)
  have response := run_response rejections data call (contents sequence) quiet fresh (by
    rw [all]
    exact fun line member _ => carried line member)
  rw [all, acks, skipped] at response
  exact response

/-- Whatever of the body has been handed over, a front part of its lines is acked. -/
theorem run_handed (rejections : UnhandledRejections)
    (full : ∀ line ∈ lines, line ≠ [] ∧ '\n' ∉ line)
    (encoded : (contents sequence).flatten = Utf8.encode (Lines.terminated '\n' lines))
    (whole : ∀ piece ∈ contents sequence, Utf8.Whole piece)
    (carried : ∀ line ∈ lines, parsers.Carries line (data line)) (quiet : adapter.Quiet)
    (fresh : adapter.streams call = ⟨[], 0, true⟩) {outcome : Outcome}
    (follows : outcome.Follows sequence) :
    ∃ reached outputs, (machine rejections parsers).run adapter (handedOver call outcome) =
        some (reached, outputs) ∧
      outputs <+: lines.map (fun line => .ack call (data line)) ++
        [.clientCount call lines.length] := by
  obtain ⟨promise, yielded, ended⟩ := outcome
  by_cases accepted : promise = .fulfilled 200
  · subst accepted
    cases ended with
    | none =>
      have first := complete_pieces full encoded whole follows.yielded
      have within : ∀ line ∈ Lines.complete '\n' (yielded.flatMap Utf8.decode), line ∈ lines :=
        fun line member => first.subset member
      have skipped : nonempty (Lines.complete '\n' (yielded.flatMap Utf8.decode)) =
          Lines.complete '\n' (yielded.flatMap Utf8.decode) :=
        nonempty_eq (fun line member => (full line (within line member)).1)
      obtain ⟨reached, ran, -⟩ := run_chunks data call yielded quiet fresh List.not_mem_nil rfl
        (fun line member _ => carried line (within line member))
      rw [List.nil_append, acks, skipped] at ran
      refine ⟨reached, _, ?_, (first.map _).trans (List.prefix_append _ _)⟩
      simpa [handedOver] using ran
    | some ending =>
      obtain ⟨rfl, rfl⟩ := follows.ended ending rfl
      have response := run_finished rejections full encoded whole carried quiet fresh
      obtain ⟨⟨reached, given⟩, ran, told⟩ := Option.map_eq_some_iff.mp response
      exact ⟨reached, given, ran, [], (List.append_nil given).trans told⟩
  · exact ⟨adapter, [], by simp [handedOver, accepted], List.nil_prefix⟩

end Handed

/-- Acknowledgements over every interleaving of the connection: those that were given are a
front part of one for each line, in order; and once all responses arrived, the connection can
be served until all are given. The connection goes on after the abort of another call, which
is so where the process survives the exception of its callback. -/
theorem acks_stream (rejections : UnhandledRejections) {before events : List Tunnel.Event}
    {state final : Tunnel.State} {earlier outputs : List Tunnel.Output} {key : Option Text}
    {draws : Nat → Tunnel.Draw} {client : Nat} (front : List HttpResponse) (last : HttpResponse)
    (began : connection.run Tunnel.State.initial before = some (state, earlier))
    (found : state.getClient (key.filter (· ≠ [])) draws = some client)
    (ran : connection.run state (.invoke key false draws :: events) = some (final, outputs))
    (unfailed : .sendFailed state.invocations.length ∉ events)
    (marked : ∀ response ∈ front, response.notCompleted = true)
    (completes : last.notCompleted = false)
    (arriving : responses state.invocations.length events <+: front ++ [last])
    (accepted : ∀ first ∈ (front ++ [last]).head?, first.statusCode = 200)
    {lines : List Text} (full : ∀ line ∈ lines, line ≠ [] ∧ '\n' ∉ line)
    (encoded : (contents (front ++ [last])).flatten = Utf8.encode (Lines.terminated '\n' lines))
    (whole : ∀ piece ∈ contents (front ++ [last]), Utf8.Whole piece)
    {parsers : Parsers} {data : Text → List parsers.Value}
    (carried : ∀ line ∈ lines, parsers.Carries line (data line))
    {adapter : State parsers} (quiet : adapter.Quiet) {call : Nat}
    (fresh : adapter.streams call = ⟨[], 0, true⟩) :
    (∃ outcome reached given, final.outcome state.invocations.length = some outcome ∧
      (machine rejections parsers).run adapter (handedOver call outcome) = some (reached, given) ∧
      given <+: lines.map (fun line => .ack call (data line)) ++
        [.clientCount call lines.length]) ∧
    (responses state.invocations.length events = front ++ [last] → ∃ rest finished outcome,
      (∀ event ∈ rest, event.Serves state.invocations.length) ∧
      connection.run final rest = some (finished, []) ∧
      finished.outcome state.invocations.length = some outcome ∧
      ((machine rejections parsers).run adapter (handedOver call outcome)).map Prod.snd =
        some (lines.map (fun line => .ack call (data line)) ++
          [.clientCount call lines.length])) := by
  have bounded : state.Bounded := connection.invariant_reachable Tunnel.State.Bounded
    (fun _ _ _ _ bounded stepped => Tunnel.bounded_step bounded stepped) Tunnel.initial_bounded
    ⟨before, earlier, began⟩
  obtain ⟨next, handed, rest, stepped, continued, -⟩ :=
    (connection.run_cons_iff _ _ _ _ _).mp ran
  obtain ⟨rfl, rfl⟩ := Prod.mk.inj (Option.some.inj stepped)
  constructor
  · obtain ⟨outcome, come, follows⟩ :=
      Tunnel.invoked_follows bounded found continued unfailed marked arriving
    obtain ⟨reached, given, acked, front⟩ :=
      run_handed rejections full encoded whole carried quiet fresh follows
    exact ⟨outcome, reached, given, come, acked, front⟩
  · intro arrived
    obtain ⟨later, finished, served, ranLater, first, member, come⟩ :=
      Tunnel.invoked_completes bounded found continued unfailed marked completes arrived
    rw [accepted first member] at come
    exact ⟨later, finished, _, served, ranLater, come,
      run_finished rejections full encoded whole carried quiet fresh⟩

/-- Between two other calls, a line in two responses. -/
def linedResponses : List Tunnel.Event :=
  [.message 0 (.httpResponse ⟨2, 200, true, some ((accentedCut 21).headD [])⟩), .tick, .sent 1,
    .ask 1, .message 0 (.httpResponse ⟨1, 204, false, none⟩), .tick,
    .message 0 (.httpResponse ⟨2, 200, false, some ((accentedCut 21).getLastD [])⟩)]

theorem acks_stream_lined : ∃ state final outputs rest finished outcome,
    connection.run state (.invoke none false (fun _ => ⟨0, 1, Nat.zero_lt_one⟩) ::
      linedResponses) = some (final, outputs) ∧
      connection.run final rest = some (finished, []) ∧
      finished.outcome 1 = some outcome ∧
      ((machine .throw Parsers.text).run .initial (handedOver 0 outcome)).map Prod.snd =
        some [.ack 0 ["é".toList], .clientCount 0 1] := by
  have completed : (connection.run Tunnel.State.initial Tunnel.connected).map (fun result =>
      (result.1.invocations.length,
        result.1.getClient none (fun _ => ⟨0, 1, Nat.zero_lt_one⟩),
        (connection.run result.1 (.invoke none false (fun _ => ⟨0, 1, Nat.zero_lt_one⟩) ::
          linedResponses)).isSome)) = some (1, some 0, true) := by decide +kernel
  obtain ⟨⟨state, earlier⟩, began, same⟩ := Option.map_eq_some_iff.mp completed
  simp only [Prod.mk.injEq] at same
  obtain ⟨length, found, ended⟩ := same
  obtain ⟨⟨final, outputs⟩, ran⟩ := Option.isSome_iff_exists.mp ended
  have drawn : state.getClient ((none : Option Text).filter (· ≠ [])) _ = some 0 := found
  have carried : ∀ line ∈ [accented], Parsers.text.Carries line ["é".toList] :=
    fun line member => by rw [List.mem_singleton.mp member]; exact accented_carries
  obtain ⟨-, finishes⟩ := acks_stream .throw
    [⟨2, 200, true, some ((accentedCut 21).headD [])⟩]
    ⟨2, 200, false, some ((accentedCut 21).getLastD [])⟩ began drawn ran
    (by simp [linedResponses]) (by simp) rfl (by rw [length]; decide +kernel) (by simp)
    (by decide +kernel : ∀ line ∈ [accented], line ≠ [] ∧ '\n' ∉ line) (by decide +kernel)
    (by decide +kernel) carried (⟨rfl, rfl, rfl⟩ : (State.initial : State Parsers.text).Quiet) rfl
  rw [length] at finishes
  obtain ⟨rest, finished, outcome, -, continued, come, acked⟩ := finishes (by decide +kernel)
  exact ⟨state, final, outputs, rest, finished, outcome, ran, continued, come, acked⟩

end WebPubSub.Adapter.Acks
