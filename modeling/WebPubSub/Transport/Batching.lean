import WebPubSub.Transport.Send

/-!
# Whole units in every payload

engine.io hands the packets of a connection to `send` in arbitrary cuts. The service
must receive a binary Socket.IO packet together with all its attachments, so `send`
keeps an unfinished unit in `_buffer` until its last packet arrives. Here the cuts
are those of any sequence of calls, each begun after the previous one has finished,
while the stream itself is the open packet followed by whole units.

The units are the intended reading of the stream; the code sees packets only. The
results relate the two at every `await` and after every call.
-/

namespace WebPubSub.Transport

/-- The packets passed to `send` in a run. -/
def passed (events : List Event) : List EioPacket :=
  events.flatMap (fun
    | .send packets => packets
    | _ => [])

/-- The payloads handed to the connection context. -/
def messages (outputs : List Output) : List Text :=
  outputs.filterMap (fun
    | .sendToConnection message => some message
    | _ => none)

section Outputs

variable (before added : List Output) (text : Text)

@[simp] theorem messages_append :
    messages (before ++ added) = messages before ++ messages added :=
  List.filterMap_append ..

@[simp] theorem messages_drain : messages [.drain] = [] := rfl

@[simp] theorem messages_accept : messages [.accept text] = [] := rfl

@[simp] theorem messages_sendToConnection : messages [.sendToConnection text] = [text] := rfl

end Outputs

/-- The packets taken off the buffer whose encoding is not finished. -/
def State.encoding (state : State) : List EioPacket :=
  state.running.flatMap (fun
    | .payload batch => batch
    | _ => [])

/-- The events of flushed sends: no close, and no exception. -/
def Event.Ordinary : Event → Prop
  | .doClose | .close | .failed _ => False
  | _ => True

/-- The events by which a call of `send` goes on. -/
def Event.Continues : Event → Prop
  | .encoded _ | .settled _ _ | .resumed _ => True
  | _ => False

theorem WholeUnit.nonempty {unit : List EioPacket} (whole : WholeUnit unit) : unit ≠ [] := by
  cases whole <;> simp

/-- Every cut of a concatenation of units is a number of units followed by a beginning
of the next one. -/
theorem prefix_split {rest : List (List EioPacket)} {buffer : List EioPacket}
    (cut : buffer <+: rest.flatten) :
    ∃ front back tail, rest = front ++ back ∧ buffer = front.flatten ++ tail ∧
      Trailing back tail := by
  induction rest generalizing buffer with
  | nil => exact ⟨[], [], [], rfl, by simpa using cut, Or.inl rfl⟩
  | cons unit rest inductionHypothesis =>
    rw [List.flatten_cons] at cut
    by_cases short : buffer.length < unit.length
    · have beginning : buffer <+: unit :=
        List.prefix_of_prefix_length_le cut (List.prefix_append _ _) short.le
      exact ⟨[], unit :: rest, buffer, rfl, rfl, Or.inr ⟨unit, rest, rfl, beginning, short⟩⟩
    · obtain ⟨remaining, rfl⟩ : unit <+: buffer :=
        List.prefix_of_prefix_length_le (List.prefix_append _ _) cut (by omega)
      obtain ⟨front, back, tail, rfl, rfl, trailing⟩ :=
        inductionHypothesis ((List.prefix_append_right_inj unit).mp cut)
      exact ⟨unit :: front, back, tail, rfl, by simp, trailing⟩

/-- The loop takes exactly the whole units in front of a cut, and ends when there are
none. -/
theorem nextBatch_units {front back : List (List EioPacket)} {tail : List EioPacket}
    (whole : ∀ unit ∈ front ++ back, WholeUnit unit) (trailing : Trailing back tail) :
    nextBatch true (front.flatten ++ tail) =
      if front = [] then none else some (front.flatten, tail) := by
  have counted := getPacketNumber_units whole trailing
  unfold nextBatch
  by_cases none : front = []
  · subst none
    simp only [List.flatten_nil, List.length_nil, Nat.cast_zero, List.nil_append] at counted
    simp [counted]
  · have positive : 0 < front.flatten.length := by
      refine List.length_pos_iff.mpr (fun empty => ?_)
      obtain ⟨unit, units, rfl⟩ := List.exists_cons_of_ne_nil none
      exact (whole unit (by simp)).nonempty (List.flatten_eq_nil_iff.mp empty unit (by simp))
    have filled : ¬(front.flatten ++ tail).length = 0 := by
      rw [List.length_append]
      omega
    have taken : ¬(front.flatten.length : Int) ≤ 0 := by omega
    simp only [counted, none, filled, taken, if_false, Int.toNat_natCast, List.splitAt_eq,
      List.take_left, List.drop_left]

section Stream

variable (codec : Codec) (openPacket : EioPacket) (units : List (List EioPacket))

/-- The accounting of an opened transport: the units handed over in groups, those of
the batch being encoded, and those of which no packet has left the buffer. -/
structure Handed (groups : List (List (List EioPacket))) (pending rest : List (List EioPacket))
    (received : List EioPacket) (outputs : List Output) (state : State) : Prop where
  sioMode : state.sioMode = true
  opened : state.opened = true
  split : units = groups.flatten ++ pending ++ rest
  ordered : received =
    openPacket :: (groups.flatten.flatten ++ pending.flatten ++ state.buffer)
  answered : answers outputs = [.accept ((codec.encodePacket openPacket).drop 1)]
  told : messages outputs = groups.map (fun group => codec.encodePayload group.flatten)

/-- Where a transport stands after flushed sends of some packets. -/
inductive Progress (received : List EioPacket) (outputs : List Output) (state : State) : Prop where
  | fresh (nothing : received = []) (initial : state = State.initial true)
      (unanswered : answers outputs = []) (silent : messages outputs = [])
  | opening (ordered : received = openPacket :: state.buffer) (sioMode : state.sioMode = true)
      (running : state.running = [.openPacket openPacket]) (busy : state.writable = false)
      (unanswered : answers outputs = []) (silent : messages outputs = [])
  | waiting (groups : List (List (List EioPacket))) (rest : List (List EioPacket))
      (handed : Handed codec openPacket units groups [] rest received outputs state)
      (running : state.running = []) (free : state.writable = true)
      (trailing : Trailing rest state.buffer)
  | encoding (groups : List (List (List EioPacket))) (pending rest : List (List EioPacket))
      (handed : Handed codec openPacket units groups pending rest received outputs state)
      (running : state.running = [.payload pending.flatten]) (busy : state.writable = false)
  | sending (groups : List (List (List EioPacket))) (rest : List (List EioPacket))
      (awaiting : Awaiting)
      (handed : Handed codec openPacket units groups [] rest received outputs state)
      (running : state.running = [awaiting]) (busy : state.writable = false)
      (sent : awaiting = .ready ∨ ∃ message, awaiting = .outstanding message)

variable {codec openPacket units}

/-- The loop of an opened transport: it splits the cut and either batches the whole
units in front or ends the call with the unfinished unit in the buffer. -/
theorem progress_loop (whole : ∀ unit ∈ units, WholeUnit unit)
    {groups : List (List (List EioPacket))} {rest : List (List EioPacket)}
    {received : List EioPacket} {outputs : List Output} {state : State} {awaiting : Awaiting}
    (handed : Handed codec openPacket units groups [] rest received outputs state)
    (running : state.running = [awaiting]) (busy : state.writable = false)
    (cut : received <+: openPacket :: units.flatten) :
    Progress codec openPacket units received (outputs ++ (state.loop 0).2) (state.loop 0).1 := by
  obtain ⟨sioMode, opened, split, ordered, answered, told⟩ := handed
  have buffered : state.buffer <+: rest.flatten := by
    rw [ordered, split] at cut
    simpa [List.prefix_append_right_inj] using cut
  obtain ⟨front, back, tail, restSplit, bufferSplit, trailing⟩ := prefix_split buffered
  have taken : nextBatch state.sioMode state.buffer =
      if front = [] then none else some (front.flatten, tail) := by
    rw [sioMode, bufferSplit]
    exact nextBatch_units (fun unit member => whole unit (by simp [split, restSplit, member]))
      trailing
  unfold State.loop
  by_cases none : front = []
  · subst none
    simp only [taken, if_true]
    simp only [List.nil_append, List.flatten_nil] at restSplit bufferSplit
    refine .waiting groups rest ⟨sioMode, opened, split, ordered, ?_, ?_⟩ ?_ rfl ?_
    · simpa using answered
    · simpa using told
    · simp [State.leave, running]
    · simpa [State.leave, restSplit, bufferSplit] using trailing
  · simp only [taken, none, if_false, List.append_nil]
    refine .encoding groups front back ⟨sioMode, opened, ?_, ?_, answered, told⟩ ?_ busy
    · simpa [restSplit] using split
    · simpa [State.await, bufferSplit] using ordered
    · simp [State.await, running]

/-- A flush of some more packets, before which no call was in progress. -/
theorem progress_send (isOpen : openPacket.type = .open)
    (whole : ∀ unit ∈ units, WholeUnit unit) {received packets : List EioPacket}
    {outputs added : List Output} {state next : State}
    (progress : Progress codec openPacket units received outputs state)
    (free : state.writable = true) (started : state.start packets = (next, added))
    (cut : received ++ packets <+: openPacket :: units.flatten) :
    Progress codec openPacket units (received ++ packets) (outputs ++ added) next := by
  cases progress with
  | opening ordered sioMode running busy => simp [busy] at free
  | encoding groups pending rest handed running busy => simp [busy] at free
  | sending groups rest awaiting handed running busy => simp [busy] at free
  | fresh nothing initial unanswered silent =>
    subst nothing initial
    match packets with
    | [] =>
      obtain ⟨rfl, rfl⟩ := Prod.mk.inj started
      exact .fresh rfl rfl (by rw [answers_append, unanswered]; rfl)
        (by rw [messages_append, silent]; rfl)
    | packet :: packets =>
      obtain ⟨rfl, -⟩ := List.cons_prefix_cons.mp cut
      obtain ⟨rfl, rfl⟩ : _ = next ∧ [] = added := by
        simpa [State.start, State.initial, isOpen] using started
      exact .opening rfl rfl rfl rfl (by simpa using unanswered) (by simpa using silent)
  | waiting groups rest handed running _ trailing =>
    rcases state.start_cases packets with
      ⟨packet, buffer, closed, -⟩ | ⟨packet, buffer, closed, -⟩ | ⟨-, entered⟩
    · simp [handed.opened] at closed
    · simp [handed.opened] at closed
    · have looped := entered.symm.trans started
      rw [State.enter, running] at looped
      have extended : Handed codec openPacket units groups [] rest (received ++ packets) outputs
          { state with
            writable := false, buffer := state.buffer ++ packets, running := [.ready] } := by
        refine ⟨handed.sioMode, handed.opened, handed.split, ?_, handed.answered, handed.told⟩
        simp [handed.ordered]
      have ended := progress_loop whole extended rfl rfl cut
      simp only [List.nil_append, List.length_nil] at looped
      simpa only [looped] using ended

/-- The encoder answers the only call: the open packet is accepted and the loop begins,
or a batch of whole units is handed over. -/
theorem progress_encoded (whole : ∀ unit ∈ units, WholeUnit unit) {received : List EioPacket}
    {outputs added : List Output} {state next : State} {index : Nat}
    (progress : Progress codec openPacket units received outputs state)
    (stepped : step codec state (.encoded index) = some (next, added))
    (cut : received <+: openPacket :: units.flatten) :
    Progress codec openPacket units received (outputs ++ added) next := by
  cases step_taken stepped with
  | @openEncoded _ packet standing =>
    cases progress with
    | opening ordered sioMode running busy unanswered silent =>
      obtain ⟨rfl, rfl⟩ : index = 0 ∧ openPacket = packet := by
        simpa [running, List.getElem?_singleton] using standing
      have handed : Handed codec openPacket units [] [] units received
          (outputs ++ [.accept ((codec.encodePacket openPacket).drop 1)])
          { state with opened := true } := by
        refine ⟨sioMode, rfl, rfl, ordered, ?_, ?_⟩
        · simp [unanswered]
        · simp [silent]
      simpa using progress_loop whole handed running busy cut
    | fresh nothing initial => simp [initial, State.initial] at standing
    | waiting groups rest handed running => simp [running] at standing
    | encoding groups pending rest handed running =>
      simp [running, List.getElem?_singleton] at standing
    | sending groups rest awaiting handed running busy sent =>
      rcases sent with rfl | ⟨message, rfl⟩ <;> simp [running, List.getElem?_singleton] at standing
  | @payloadEncoded _ batch standing =>
    cases progress with
    | encoding groups pending rest handed running busy =>
      obtain ⟨rfl, rfl⟩ : index = 0 ∧ pending.flatten = batch := by
        simpa [running, List.getElem?_singleton] using standing
      refine .sending (groups ++ [pending]) rest
        (.outstanding (codec.encodePayload pending.flatten)) ?_ ?_ busy (Or.inr ⟨_, rfl⟩)
      · refine ⟨handed.sioMode, handed.opened, ?_, ?_, ?_, ?_⟩
        · simpa using handed.split
        · simpa [State.await] using handed.ordered
        · simpa using handed.answered
        · simp [handed.told]
      · simp [State.await, running]
    | fresh nothing initial => simp [initial, State.initial] at standing
    | opening ordered sioMode running => simp [running, List.getElem?_singleton] at standing
    | waiting groups rest handed running => simp [running] at standing
    | sending groups rest awaiting handed running busy sent =>
      rcases sent with rfl | ⟨message, rfl⟩ <;> simp [running, List.getElem?_singleton] at standing

/-- A call that has handed its batch over is the only one in progress, and nothing is
being encoded. -/
theorem progress_sent {received : List EioPacket} {outputs : List Output} {state : State}
    {index : Nat} {awaiting : Awaiting}
    (progress : Progress codec openPacket units received outputs state)
    (standing : state.running[index]? = some awaiting)
    (sent : awaiting = .ready ∨ ∃ message, awaiting = .outstanding message) :
    index = 0 ∧ state.running = [awaiting] ∧ state.writable = false ∧
      ∃ groups rest, Handed codec openPacket units groups [] rest received outputs state := by
  cases progress with
  | fresh nothing initial => simp [initial, State.initial] at standing
  | opening ordered sioMode running =>
    rcases sent with rfl | ⟨message, rfl⟩ <;> simp [running, List.getElem?_singleton] at standing
  | waiting groups rest handed running => simp [running] at standing
  | encoding groups pending rest handed running =>
    rcases sent with rfl | ⟨message, rfl⟩ <;> simp [running, List.getElem?_singleton] at standing
  | sending groups rest other handed running busy =>
    obtain ⟨rfl, rfl⟩ : index = 0 ∧ other = awaiting := by
      simpa [running, List.getElem?_singleton] using standing
    exact ⟨rfl, running, busy, groups, rest, handed⟩

/-- `sendToConnection` settles, one way or the other. -/
theorem progress_settled {received : List EioPacket} {outputs added : List Output}
    {state next : State} {index : Nat} {fulfilled : Bool}
    (progress : Progress codec openPacket units received outputs state)
    (stepped : step codec state (.settled index fulfilled) = some (next, added)) :
    Progress codec openPacket units received (outputs ++ added) next := by
  cases step_taken stepped with
  | @settled _ message _ standing =>
    obtain ⟨rfl, running, busy, groups, rest, handed⟩ :=
      progress_sent progress standing (Or.inr ⟨message, rfl⟩)
    rw [List.append_nil]
    refine .sending groups rest .ready ?_ (by simp [State.await, running]) busy (Or.inl rfl)
    exact ⟨handed.sioMode, handed.opened, handed.split, handed.ordered, handed.answered,
      handed.told⟩

/-- The call goes on with its loop. -/
theorem progress_resumed (whole : ∀ unit ∈ units, WholeUnit unit) {received : List EioPacket}
    {outputs added : List Output} {state next : State} {index : Nat}
    (progress : Progress codec openPacket units received outputs state)
    (stepped : step codec state (.resumed index) = some (next, added))
    (cut : received <+: openPacket :: units.flatten) :
    Progress codec openPacket units received (outputs ++ added) next := by
  cases step_taken stepped with
  | resumed standing =>
    obtain ⟨rfl, running, busy, groups, rest, handed⟩ :=
      progress_sent progress standing (Or.inl rfl)
    exact progress_loop whole handed running busy cut

/-- One step of a flushed send keeps the accounting, as long as the packets passed so
far are a cut of the stream. -/
theorem progress_step (isOpen : openPacket.type = .open) (whole : ∀ unit ∈ units, WholeUnit unit)
    {received : List EioPacket} {outputs added : List Output} {state next : State}
    {event : Event} (progress : Progress codec openPacket units received outputs state)
    (ordinary : event.Ordinary)
    (stepped : (transport codec).step state event = some (next, added))
    (cut : received ++ passed [event] <+: openPacket :: units.flatten) :
    Progress codec openPacket units (received ++ passed [event]) (outputs ++ added) next := by
  simp only [transport] at stepped
  cases event with
  | doClose => exact ordinary.elim
  | close => exact ordinary.elim
  | failed index => exact ordinary.elim
  | send packets =>
    obtain ⟨free, started⟩ : state.writable = true ∧ state.start packets = (next, added) := by
      simpa [step] using stepped
    have received' : passed [.send packets] = packets := by simp [passed]
    rw [received'] at cut ⊢
    exact progress_send isOpen whole progress free started cut
  | encoded index =>
    have received' : passed [.encoded index] = [] := rfl
    rw [received', List.append_nil] at cut ⊢
    exact progress_encoded whole progress stepped cut
  | settled index fulfilled =>
    have received' : passed [.settled index fulfilled] = [] := rfl
    rw [received', List.append_nil]
    exact progress_settled progress stepped
  | resumed index =>
    have received' : passed [.resumed index] = [] := rfl
    rw [received', List.append_nil] at cut ⊢
    exact progress_resumed whole progress stepped cut

/-- Every run of flushed sends over a cut of the stream keeps the accounting. -/
theorem progress_run (isOpen : openPacket.type = .open) (whole : ∀ unit ∈ units, WholeUnit unit)
    {events : List Event} {outputs : List Output} {state : State}
    (ordinary : ∀ event ∈ events, event.Ordinary)
    (ran : (transport codec).run (State.initial true) events = some (state, outputs))
    (cut : passed events <+: openPacket :: units.flatten) :
    Progress codec openPacket units (passed events) outputs state := by
  refine (transport codec).run_induction
    (fun events outputs state => (∀ event ∈ events, event.Ordinary) →
      passed events <+: openPacket :: units.flatten →
      Progress codec openPacket units (passed events) outputs state)
    (fun _ _ => .fresh rfl rfl rfl rfl) ?_ ran ordinary cut
  intro before told middle event next added _ held stepped ordinary cut
  have joined : passed (before ++ [event]) = passed before ++ passed [event] :=
    List.flatMap_append ..
  rw [joined] at cut ⊢
  have reached := held (fun other member => ordinary other (List.mem_append_left _ member))
    ((List.prefix_append _ _).trans cut)
  exact progress_step isOpen whole reached (ordinary event (by simp)) stepped cut

end Stream

section Completion

/-- The loop always takes something off the buffer when it takes a batch. -/
theorem nextBatch_shorter {sioMode : Bool} {buffer batch kept : List EioPacket}
    (taken : nextBatch sioMode buffer = some (batch, kept)) : kept.length < buffer.length := by
  unfold nextBatch at taken
  simp only [Option.ite_none_left_eq_some, Option.some.injEq, List.splitAt_eq,
    Prod.mk.injEq] at taken
  obtain ⟨filled, positive, -, rfl⟩ := taken
  rw [List.length_drop]
  omega

/-- The calls in progress can all go on to their ends. -/
def Completes (codec : Codec) (state : State) : Prop :=
  ∃ more final added, (∀ event ∈ more, event.Continues) ∧
    (transport codec).run state more = some (final, added) ∧ final.running = []

variable {codec : Codec} {state next : State} {added : List Output}

theorem completes_of_idle (idle : state.running = []) : Completes codec state :=
  ⟨[], state, [], by simp, rfl, idle⟩

/-- A step of a call in progress may come first. -/
theorem completes_of_step (event : Event) (added : List Output) (continues : event.Continues)
    (stepped : step codec state event = some (next, added)) (completes : Completes codec next) :
    Completes codec state := by
  obtain ⟨more, final, rest, later, ran, ended⟩ := completes
  have first : (transport codec).run state [event] = some (next, added) :=
    (transport codec).run_single stepped
  refine ⟨event :: more, final, _, ?_, (transport codec).run_append_of_run first ran, ended⟩
  intro other member
  rcases List.mem_cons.mp member with rfl | member
  · exact continues
  · exact later other member

/-- An encoded batch is handed over, settles, and leaves its call ready. -/
theorem completes_of_payload (batch : List EioPacket) (running : state.running = [.payload batch])
    (completes : Completes codec { state with running := [.ready] }) : Completes codec state := by
  have settled : Completes codec
      { state with running := [.outstanding (codec.encodePayload batch)] } :=
    completes_of_step (.settled 0 true) [] trivial
      (by simp [step, State.await]) completes
  exact completes_of_step (.encoded 0) [.sendToConnection (codec.encodePayload batch)] trivial
    (by simp [step, State.await, running]) settled

/-- A call that is alone and ready to go on comes to its end. The induction is on the
length of the buffer, which every batch makes shorter. -/
theorem ready_completes (running : state.running = [.ready]) : Completes codec state := by
  induction size : state.buffer.length using Nat.strong_induction_on generalizing state with
  | _ length inductionHypothesis =>
    have resumed : step codec state (.resumed 0) = some (state.loop 0) := by
      simp [step, running]
    rcases state.loop_cases 0 with ⟨batch, kept, taken, looped⟩ | ⟨-, looped⟩
    · have shorter : kept.length < length := size ▸ nextBatch_shorter taken
      apply completes_of_step (.resumed 0) _ trivial (resumed.trans (congrArg some looped))
      apply completes_of_payload batch (by simp [State.await, running])
      exact inductionHypothesis kept.length shorter rfl rfl
    · apply completes_of_step (.resumed 0) _ trivial (resumed.trans (congrArg some looped))
      exact completes_of_idle (by simp [State.leave, running])

/-- A call that is alone comes to its end, wherever it stands. -/
theorem only_completes {awaiting : Awaiting} (running : state.running = [awaiting]) :
    Completes codec state := by
  cases awaiting with
  | ready => exact ready_completes running
  | payload batch => exact completes_of_payload batch running (ready_completes rfl)
  | outstanding message =>
    exact completes_of_step (.settled 0 true) [] trivial
      (by simp [step, State.await, running]) (show Completes codec { state with
        running := [.ready] } from ready_completes rfl)
  | openPacket packet =>
    have encoded : step codec state (.encoded 0) =
        some (({ state with opened := true }.loop 0).1,
          .accept ((codec.encodePacket packet).drop 1) ::
            ({ state with opened := true }.loop 0).2) := by
      simp [step, running]
    apply completes_of_step (.encoded 0) _ trivial encoded
    rcases State.loop_cases { state with opened := true } 0 with
      ⟨batch, kept, -, looped⟩ | ⟨-, looped⟩
    · rw [looped]
      exact completes_of_payload batch (by simp [State.await, running])
        (ready_completes rfl)
    · rw [looped]
      exact completes_of_idle (by simp [State.leave, running])

end Completion

/-- What flushed sends of some packets have achieved. The open packet has answered the
handshake once no call is in progress. The units are handed over in groups, one payload
for each; these, the batch being encoded and the buffer are the packets received after
the open packet, in order; and without a call in progress nothing is being encoded and
the buffer is the unfinished unit at the end. The calls in progress can go on to their
ends. -/
structure Batched (codec : Codec) (openPacket : EioPacket) (units : List (List EioPacket))
    (received : List EioPacket) (outputs : List Output) (state : State) : Prop where
  answered : state.running = [] → answers outputs =
    if received = [] then [] else [.accept ((codec.encodePacket openPacket).drop 1)]
  delivered : ∃ (groups : List (List (List EioPacket))) (pending rest : List (List EioPacket)),
    units = groups.flatten ++ pending ++ rest ∧
    messages outputs = groups.map (fun group => codec.encodePayload group.flatten) ∧
    state.encoding = pending.flatten ∧
    received.drop 1 = groups.flatten.flatten ++ pending.flatten ++ state.buffer ∧
    (state.running = [] → pending = [] ∧ Trailing rest state.buffer)
  completes : Completes codec state

/-- Flushed sends over any cut of the stream `openPacket` followed by whole units batch
whole units, whatever the cuts, the failures of the service and the moment of the
observation.

Proof: the accounting of `Progress` holds after every run; the claim is read off in each
of its phases, and every phase has at most one call, which completes. -/
theorem batches_are_whole_units (codec : Codec) (openPacket : EioPacket)
    (isOpen : openPacket.type = .open) (units : List (List EioPacket))
    (whole : ∀ unit ∈ units, WholeUnit unit) (events : List Event)
    (ordinary : ∀ event ∈ events, event.Ordinary) (state : State) (outputs : List Output)
    (ran : (transport codec).run (State.initial true) events = some (state, outputs))
    (cut : passed events <+: openPacket :: units.flatten) :
    Batched codec openPacket units (passed events) outputs state := by
  cases progress_run isOpen whole ordinary ran cut with
  | fresh nothing initial unanswered silent =>
    subst initial
    refine ⟨fun _ => by simp [nothing, unanswered],
      ⟨[], [], units, rfl, silent, rfl, by rw [nothing]; rfl, fun _ => ⟨rfl, Or.inl rfl⟩⟩,
      completes_of_idle rfl⟩
  | opening ordered sioMode running busy unanswered silent =>
    refine ⟨fun idle => by simp [running] at idle,
      ⟨[], [], units, rfl, silent, by simp [State.encoding, running], by simp [ordered],
        fun idle => by simp [running] at idle⟩, only_completes running⟩
  | waiting groups rest handed running free trailing =>
    refine ⟨fun _ => by simp [handed.ordered, handed.answered],
      ⟨groups, [], rest, handed.split, handed.told, by simp [State.encoding, running],
        by simp [handed.ordered], fun _ => ⟨rfl, trailing⟩⟩, completes_of_idle running⟩
  | encoding groups pending rest handed running busy =>
    refine ⟨fun idle => by simp [running] at idle,
      ⟨groups, pending, rest, handed.split, handed.told, by simp [State.encoding, running],
        by simp [handed.ordered], fun idle => by simp [running] at idle⟩, only_completes running⟩
  | sending groups rest awaiting handed running busy sent =>
    have idleEncoder : state.encoding = [] := by
      rcases sent with rfl | ⟨message, rfl⟩ <;> simp [State.encoding, running]
    refine ⟨fun idle => by simp [running] at idle,
      ⟨groups, [], rest, handed.split, handed.told, idleEncoder, by simp [handed.ordered],
        fun idle => by simp [running] at idle⟩, only_completes running⟩

section Attachments

/-- A binary event with two attachments, a message and a ping. -/
def mixedUnits : List (List EioPacket) :=
  [textPacket (binaryHeader .binaryEvent 2 "[\"a\"]".toList) ::
      [[1], [2, 3]].map attachment,
    [textPacket (SioPacketType.digit .event :: "[\"b\"]".toList)],
    [⟨.ping, .absent⟩]]

/-- Flushes that cut the binary event twice; the service refuses its payload. -/
def cutAttachments : List Event :=
  [.send [⟨.open, .text "{}".toList⟩, textPacket (binaryHeader .binaryEvent 2 "[\"a\"]".toList)],
    .encoded 0, .send [attachment [1]],
    .send [attachment [2, 3], textPacket (SioPacketType.digit .event :: "[\"b\"]".toList)],
    .encoded 0, .settled 0 false, .resumed 0]

theorem mixedUnits_whole : ∀ unit ∈ mixedUnits, WholeUnit unit := by
  intro unit member
  simp only [mixedUnits, List.mem_cons, List.not_mem_nil, or_false] at member
  rcases member with rfl | rfl | rfl
  · exact .binary .binaryEvent _ [[1], [2, 3]] rfl (by decide) (by decide)
  · exact .text .event _ rfl
  · exact .control _ (by decide)

theorem batches_are_whole_units_attachments : ∃ state outputs,
    (transport Codec.engineIo).run (State.initial true) cutAttachments = some (state, outputs) ∧
      Batched Codec.engineIo ⟨.open, .text "{}".toList⟩ mixedUnits (passed cutAttachments)
        outputs state := by
  have completed : ((transport Codec.engineIo).run (State.initial true)
      cutAttachments).isSome = true := by decide +kernel
  obtain ⟨⟨state, outputs⟩, ran⟩ := Option.isSome_iff_exists.mp completed
  have ordinary : ∀ event ∈ cutAttachments, event.Ordinary := by
    simp [cutAttachments, Event.Ordinary]
  have cut : passed cutAttachments <+: ⟨.open, .text "{}".toList⟩ :: mixedUnits.flatten :=
    ⟨[⟨.ping, .absent⟩], by decide +kernel⟩
  exact ⟨state, outputs, ran, batches_are_whole_units Codec.engineIo ⟨.open, .text "{}".toList⟩ rfl
    mixedUnits mixedUnits_whole cutAttachments ordinary state outputs ran cut⟩

end Attachments

end WebPubSub.Transport
