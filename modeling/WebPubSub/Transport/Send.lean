import WebPubSub.Library.Machine
import WebPubSub.Transport.NextSend

/-!
# Sending on a transport

`send` of `web-pubsub-transport.ts` as a machine. A call runs without interruption
up to its next `await`; between two of its steps any other event may happen, so
several calls can be in progress at once. A call in progress is named by its place
among those in progress, oldest first.

`doClose` and `ClientConnectionContext.close` both call `send` with one close packet
and do not look at `writable`; engine.io calls `send` only while `writable` is true.
`ClientConnectionContext.send` catches every failure of `sendToConnection`, so a
failure of the service is one of the ways its promise settles. The encoders of
`engine.io-parser` are given; a rejection by one of them, or an exception in
`onAcceptEioConnection`, ends the call where it stands.
-/

namespace WebPubSub.Transport

/-- The `await` at which a call of `send` stands. The promise of a `ready` call has
settled, and its next turn of the loop is scheduled. -/
inductive Awaiting where
  | openPacket (packet : EioPacket)
  | payload (batch : List EioPacket)
  | outstanding (message : Text)
  | ready
deriving DecidableEq, Repr

/-- The fields of a transport, and its calls of `send` in progress. -/
structure State where
  sioMode : Bool
  opened : Bool
  writable : Bool
  buffer : List EioPacket
  running : List Awaiting
deriving DecidableEq, Repr

/-- A transport as its constructor leaves it. -/
def State.initial (sioMode : Bool) : State := ⟨sioMode, false, true, [], []⟩

/-- What happens to a transport. -/
inductive Event where
  /-- engine.io flushes its write buffer. -/
  | send (packets : List EioPacket)
  /-- engine.io closes the transport. -/
  | doClose
  /-- `ClientConnectionContext.close`. -/
  | close
  /-- The encoder answers the call at this place. -/
  | encoded (index : Nat)
  /-- The encoder, or the acceptance of the open packet, throws in this call. -/
  | failed (index : Nat)
  /-- `sendToConnection` of this call fulfils or rejects. -/
  | settled (index : Nat) (fulfilled : Bool)
  /-- The call at this place goes on after its settled promise. -/
  | resumed (index : Nat)
deriving DecidableEq, Repr

/-- What a transport does to its surroundings. -/
inductive Output where
  /-- `onAcceptEioConnection`. -/
  | accept (openPacketPayload : Text)
  /-- `onRefuseEioConnection`. -/
  | refuse (errorMessage : Text)
  /-- A call of `sendToConnection`. -/
  | sendToConnection (message : Text)
  /-- The event `drain`. -/
  | drain
deriving DecidableEq, Repr

/-- The packets of `doClose` and `close`. -/
def closePackets : List EioPacket := [⟨.close, .absent⟩]

/-- The head of the loop: the packets to encode next and the packets that stay, or
nothing when the loop ends. An error in the count sends the whole buffer. -/
def nextBatch (sioMode : Bool) (buffer : List EioPacket) :
    Option (List EioPacket × List EioPacket) :=
  if buffer.length = 0 then none
  else
    let sentNumber : Int := match getPacketNumberForNextSend sioMode buffer with
      | .ok number => number
      | .error _ => buffer.length
    if sentNumber ≤ 0 then none else some (buffer.splitAt sentNumber.toNat)

namespace State

/-- The call at a place stands at another `await`. -/
def await (state : State) (index : Nat) (awaiting : Awaiting) : State :=
  { state with running := state.running.set index awaiting }

/-- The call at a place has ended. -/
def leave (state : State) (index : Nat) : State :=
  { state with running := state.running.eraseIdx index }

/-- The loop of `send` and, when it ends, the rest of the call. -/
def loop (state : State) (index : Nat) : State × List Output :=
  match nextBatch state.sioMode state.buffer with
  | some (batch, buffer) => ({ state with buffer := buffer }.await index (.payload batch), [])
  | none => ({ state with writable := true }.leave index, [.drain])

/-- A new call of `send` comes to the head of its loop. -/
def enter (state : State) : State × List Output :=
  { state with running := state.running ++ [.ready] : State }.loop state.running.length

/-- The error text for a transport that was not opened by its first packet. -/
def notOpened : Text :=
  "First packet must be a valid packet whose type is 'open', got packet = [object Object].".toList

/-- A call of `send`, up to its first `await`. -/
def start (state : State) (packets : List EioPacket) : State × List Output :=
  let state := { state with writable := false, buffer := state.buffer ++ packets }
  match state.opened, state.buffer with
  | false, firstPacket :: buffer =>
    if firstPacket.type = .open then
      ({ state with
          buffer := buffer
          running := state.running ++ [.openPacket firstPacket] }, [])
    else
      let (next, outputs) := { state with buffer := buffer }.enter
      (next, .refuse notOpened :: outputs)
  | _, _ => state.enter

end State

/-- One event. An event that does not fit the state is refused. -/
def step (codec : Codec) (state : State) : Event → Option (State × List Output)
  | .send packets => if state.writable then some (state.start packets) else none
  | .doClose | .close => some (state.start closePackets)
  | .encoded index =>
    match state.running[index]? with
    | some (.openPacket packet) =>
      let (next, outputs) := { state with opened := true }.loop index
      some (next, .accept ((codec.encodePacket packet).drop 1) :: outputs)
    | some (.payload batch) =>
      let message := codec.encodePayload batch
      some (state.await index (.outstanding message), [.sendToConnection message])
    | _ => none
  | .failed index =>
    match state.running[index]? with
    | some (.openPacket _) | some (.payload _) => some (state.leave index, [])
    | _ => none
  | .settled index _ =>
    match state.running[index]? with
    | some (.outstanding _) => some (state.await index .ready, [])
    | _ => none
  | .resumed index =>
    match state.running[index]? with
    | some .ready => some (state.loop index)
    | _ => none

/-- What a step does with its event, and with which call of `send`. -/
inductive Taken (codec : Codec) (state : State) : Event → State → List Output → Prop where
  | send {packets : List EioPacket} (free : state.writable = true) :
      Taken codec state (.send packets) (state.start packets).1 (state.start packets).2
  | doClose : Taken codec state .doClose (state.start closePackets).1 (state.start closePackets).2
  | close : Taken codec state .close (state.start closePackets).1 (state.start closePackets).2
  | openEncoded {index : Nat} {packet : EioPacket}
      (standing : state.running[index]? = some (.openPacket packet)) :
      Taken codec state (.encoded index) ({ state with opened := true }.loop index).1
        (.accept ((codec.encodePacket packet).drop 1) ::
          ({ state with opened := true }.loop index).2)
  | payloadEncoded {index : Nat} {batch : List EioPacket}
      (standing : state.running[index]? = some (.payload batch)) :
      Taken codec state (.encoded index)
        (state.await index (.outstanding (codec.encodePayload batch)))
        [.sendToConnection (codec.encodePayload batch)]
  | failed {index : Nat} {awaiting : Awaiting} (standing : state.running[index]? = some awaiting) :
      Taken codec state (.failed index) (state.leave index) []
  | settled {index : Nat} {message : Text} (fulfilled : Bool)
      (standing : state.running[index]? = some (.outstanding message)) :
      Taken codec state (.settled index fulfilled) (state.await index .ready) []
  | resumed {index : Nat} (standing : state.running[index]? = some .ready) :
      Taken codec state (.resumed index) (state.loop index).1 (state.loop index).2

/-- Every step is one of these. -/
theorem step_taken {codec : Codec} {state next : State} {event : Event} {outputs : List Output}
    (stepped : step codec state event = some (next, outputs)) :
    Taken codec state event next outputs := by
  cases event with
  | send packets =>
    obtain ⟨free, started⟩ := Option.ite_none_right_eq_some.mp stepped
    obtain ⟨rfl, rfl⟩ := Prod.mk.inj (Option.some.inj started)
    exact .send free
  | doClose =>
    obtain ⟨rfl, rfl⟩ := Prod.mk.inj (Option.some.inj stepped)
    exact .doClose
  | close =>
    obtain ⟨rfl, rfl⟩ := Prod.mk.inj (Option.some.inj stepped)
    exact .close
  | encoded index =>
    simp only [step] at stepped
    split at stepped
    · next packet standing =>
      obtain ⟨rfl, rfl⟩ := Prod.mk.inj (Option.some.inj stepped)
      exact .openEncoded standing
    · next batch standing =>
      obtain ⟨rfl, rfl⟩ := Prod.mk.inj (Option.some.inj stepped)
      exact .payloadEncoded standing
    · cases stepped
  | failed index =>
    simp only [step] at stepped
    split at stepped
    · next packet standing =>
      obtain ⟨rfl, rfl⟩ := Prod.mk.inj (Option.some.inj stepped)
      exact .failed standing
    · next batch standing =>
      obtain ⟨rfl, rfl⟩ := Prod.mk.inj (Option.some.inj stepped)
      exact .failed standing
    · cases stepped
  | settled index fulfilled =>
    simp only [step] at stepped
    split at stepped
    · next message standing =>
      obtain ⟨rfl, rfl⟩ := Prod.mk.inj (Option.some.inj stepped)
      exact .settled fulfilled standing
    · cases stepped
  | resumed index =>
    simp only [step] at stepped
    split at stepped
    · next standing =>
      obtain ⟨rfl, rfl⟩ := Prod.mk.inj (Option.some.inj stepped)
      exact .resumed standing
    · cases stepped

/-- The transport of one connection. -/
def transport (codec : Codec) : Machine State Event Output := ⟨step codec⟩

/-- Whether an event begins a call of `send`. -/
def Event.begins : Event → Bool
  | .send _ | .doClose | .close => true
  | _ => false

/-- The number of calls of `send` begun in a run. -/
def starts (events : List Event) : Nat := events.countP Event.begins

/-- The answers to the handshake among some outputs. -/
def answers (outputs : List Output) : List Output :=
  outputs.filter (fun
    | .accept _ | .refuse _ => true
    | _ => false)

section Answers

variable (before added : List Output) (text : Text)

@[simp] theorem answers_nil : answers [] = [] := rfl

@[simp] theorem answers_append : answers (before ++ added) = answers before ++ answers added :=
  List.filter_append ..

@[simp] theorem answers_drain : answers [.drain] = [] := rfl

@[simp] theorem answers_accept : answers (.accept text :: added) = .accept text :: answers added :=
  rfl

@[simp] theorem answers_refuse : answers (.refuse text :: added) = .refuse text :: answers added :=
  rfl

@[simp] theorem answers_sendToConnection : answers [.sendToConnection text] = [] := rfl

end Answers

/-- The calls of `sendToConnection` that have not settled. -/
def State.outstanding (state : State) : Nat :=
  state.running.countP (fun
    | .outstanding _ => true
    | _ => false)

section Loop

variable {state : State} {index : Nat} {awaiting : Awaiting} {added : List Output}

/-- The loop either takes a batch off the buffer or ends the call. -/
theorem State.loop_cases (state : State) (index : Nat) :
    (∃ batch buffer, nextBatch state.sioMode state.buffer = some (batch, buffer) ∧
      state.loop index = ({ state with buffer := buffer }.await index (.payload batch), [])) ∨
    (nextBatch state.sioMode state.buffer = none ∧
      state.loop index = ({ state with writable := true }.leave index, [.drain])) := by
  unfold State.loop
  cases nextBatch state.sioMode state.buffer with
  | none => exact Or.inr ⟨rfl, rfl⟩
  | some split => exact Or.inl ⟨split.1, split.2, rfl, rfl⟩

/-- What a call of `send` does before its first `await`: it waits for the encoding of
the open packet, or comes to its loop, after a refusal when the transport was not
opened by its first packet. -/
theorem State.start_cases (state : State) (packets : List EioPacket) :
    (∃ packet buffer, state.opened = false ∧ state.buffer ++ packets = packet :: buffer ∧
      packet.type = .open ∧
      state.start packets = ({ state with
        writable := false
        buffer := buffer
        running := state.running ++ [.openPacket packet] }, [])) ∨
    (∃ packet buffer, state.opened = false ∧ state.buffer ++ packets = packet :: buffer ∧
      packet.type ≠ .open ∧
      state.start packets =
        let (next, outputs) := { state with writable := false, buffer := buffer }.enter
        (next, .refuse notOpened :: outputs)) ∨
    ((state.opened = true ∨ state.buffer ++ packets = []) ∧
      state.start packets =
        { state with writable := false, buffer := state.buffer ++ packets }.enter) := by
  unfold State.start
  cases opened : state.opened with
  | true => exact Or.inr (Or.inr ⟨Or.inl rfl, by simp⟩)
  | false =>
    cases buffered : state.buffer ++ packets with
    | nil => exact Or.inr (Or.inr ⟨Or.inr rfl, by simp⟩)
    | cons packet buffer =>
      by_cases first : packet.type = .open
      · exact Or.inl ⟨packet, buffer, rfl, rfl, first, by simp [first]⟩
      · exact Or.inr (Or.inl ⟨packet, buffer, rfl, rfl, first, by simp [first]⟩)

end Loop

end WebPubSub.Transport
