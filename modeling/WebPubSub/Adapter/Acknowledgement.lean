import WebPubSub.Library.Json
import WebPubSub.Library.Machine
import WebPubSub.Library.Utf8
import WebPubSub.Packets

/-!
# The response streams of acknowledged broadcasts

The handlers of `broadcastWithAck`, from the first chunk of the response on. All calls of
one adapter share its Socket.IO decoder and the listeners of its `decoded` event, which are
attached for one line of a response at a time. A stream is read chunk by chunk, so an event
of the machine is one chunk, the end of the body or a failure of it, for one of the calls.

An exception ends the reading of the stream it comes from and skips what follows it, so the
listener of the call stays. `invoke` drops the promise of the reading, so the exception is a
rejection that nobody handles. Up to version 14 node only warns of it, and the package admits
such versions; since then it ends the process, and with it the reading of all streams.

The parsers are outside the repository. The `ack` and `clientCountCallback` given by
Socket.IO are called and are taken to return.
-/

namespace WebPubSub.Adapter.Acks

/-- What `add` of the Socket.IO decoder does: nothing, emit a packet, or throw. The data of
a packet is absent when it is not iterable. -/
inductive Added (Value : Type) where
  | quiet
  | decoded (data : Option (List Value))
  | threw

/-- `JSON.parse`, `EioParser.decodePayload` and the Socket.IO decoder. The first two are
`none` when they throw; `decodePayload` is given `none` for `undefined`. The decoder has
done its work before it calls the listeners, so it is the same whether they throw. -/
structure Parsers where
  Value : Type
  SioDecoder : Type
  json : Text → Option Json
  decodePayload : Option Json → Option (List EioPacket)
  idle : SioDecoder
  add : SioDecoder → RawData → SioDecoder × Added Value

/-- The packets of `emitWithAckResponse.Payload`, `none` when it cannot be read. -/
def Parsers.payload (parsers : Parsers) (line : Text) : Option (List EioPacket) := do
  let emitWithAckResponse ← parsers.json line
  let payload ← emitWithAckResponse.member "Payload".toList
  parsers.decodePayload payload

/-- The variables of one call, and whether its response is still read. -/
structure Stream where
  accumulatedData : Text
  count : Nat
  reading : Bool
deriving DecidableEq

/-- What node does about a rejection that nobody handles. -/
inductive UnhandledRejections where
  | warn
  | throw
deriving DecidableEq

/-- The adapter, and whether its process has ended. A call is known by its number. -/
structure State (parsers : Parsers) where
  decoder : parsers.SioDecoder
  listeners : List Nat
  streams : Nat → Stream
  exited : Bool

/-- A call of a callback. -/
inductive Output (Value : Type) where
  | ack (call : Nat) (data : List Value)
  | clientCount (call count : Nat)
deriving DecidableEq

/-- The call a callback belongs to. -/
def Output.call {Value : Type} : Output Value → Nat
  | .ack call _ => call
  | .clientCount call _ => call

inductive Event where
  | chunk (call : Nat) (value : List UInt8)
  | finish (call : Nat)
  | failed (call : Nat)
deriving DecidableEq

/-- The call whose response an event is about. -/
def Event.call : Event → Nat
  | .chunk call _ => call
  | .finish call => call
  | .failed call => call

/-- What a part of a handler did, and whether it returned or threw. -/
structure Handled (parsers : Parsers) where
  state : State parsers
  outputs : List (Output parsers.Value)
  returned : Bool

namespace Handled

variable {parsers : Parsers}

def done (state : State parsers) : Handled parsers := ⟨state, [], true⟩

/-- What follows is skipped after an exception. -/
def andThen (first : Handled parsers) (rest : State parsers → Handled parsers) :
    Handled parsers :=
  if first.returned then
    { rest first.state with outputs := first.outputs ++ (rest first.state).outputs }
  else first

end Handled

variable {parsers : Parsers}

namespace State

/-- An adapter that has made no call. -/
def initial : State parsers := ⟨parsers.idle, [], fun _ => ⟨[], 0, true⟩, false⟩

/-- Emitting a packet: every listener acks it and counts it. -/
def emit (state : State parsers) (data : List parsers.Value) : Handled parsers where
  state := { state with
    streams := fun call =>
      { state.streams call with
        count := (state.streams call).count + state.listeners.count call } }
  outputs := state.listeners.map (fun call => .ack call data)
  returned := true

/-- `this._sioDecoder.add(element.data)`. Spreading data that is not iterable throws in the
first listener, and there always is one. -/
def addElement (state : State parsers) (element : EioPacket) : Handled parsers :=
  match parsers.add state.decoder element.data with
  | (decoder, .quiet) => .done { state with decoder }
  | (decoder, .decoded (some data)) => emit { state with decoder } data
  | (decoder, .decoded none) => ⟨{ state with decoder }, [], false⟩
  | (decoder, .threw) => ⟨{ state with decoder }, [], false⟩

def addElements (state : State parsers) : List EioPacket → Handled parsers
  | [] => .done state
  | element :: elements =>
      (state.addElement element).andThen (fun next => next.addElements elements)

/-- One line. `off("decoded")` removes the listeners of all calls. -/
def handleJsonLine (state : State parsers) (call : Nat) (line : Text) : Handled parsers :=
  if line = [] then .done state
  else
    match parsers.payload line with
    | none => ⟨state, [], false⟩
    | some eioPackets =>
      (addElements { state with listeners := state.listeners ++ [call] } eioPackets).andThen
        (fun next => .done { next with listeners := [] })

def handleJsonLines (state : State parsers) (call : Nat) : List Text → Handled parsers
  | [] => .done state
  | line :: lines =>
      (state.handleJsonLine call line).andThen (fun next => next.handleJsonLines call lines)

/-- Another stream in the place of that of a call. -/
def withStream (state : State parsers) (call : Nat) (stream : Stream) : State parsers :=
  { state with streams := Function.update state.streams call stream }

def carry (state : State parsers) (call : Nat) (accumulatedData : Text) : State parsers :=
  state.withStream call { state.streams call with accumulatedData }

/-- The response of a call is not read any more. -/
def stop (state : State parsers) (call : Nat) : State parsers :=
  state.withStream call { state.streams call with reading := false }

/-- The reading of a call ends with an exception. -/
def reject (state : State parsers) (rejections : UnhandledRejections) (call : Nat) :
    State parsers :=
  { state.stop call with exited := decide (rejections = .throw) }

/-- `streamHandleResponse`: all lines but the last, which is carried over. -/
def streamHandleResponse (state : State parsers) (call : Nat) (chunk : Text) : Handled parsers :=
  let accumulatedData := (state.streams call).accumulatedData ++ chunk
  let lines := accumulatedData.splitOn '\n'
  ((state.carry call accumulatedData).handleJsonLines call lines.dropLast).andThen
    (fun next => .done (next.carry call (lines.getLastD [])))

/-- `bodyHandler`, as it is called by the loop that reads the body. Nothing of a body is
taken once the loop or the process has ended. -/
def step (rejections : UnhandledRejections) (state : State parsers) (event : Event) :
    State parsers × List (Output parsers.Value) :=
  if state.exited = false ∧ (state.streams event.call).reading = true then
    match event with
    | .chunk call value =>
      let handled := state.streamHandleResponse call (Utf8.decode value)
      (if handled.returned then handled.state else handled.state.reject rejections call,
        handled.outputs)
    | .finish call => (state.stop call, [.clientCount call (state.streams call).count])
    | .failed call => (state.reject rejections call, [])
  else (state, [])

end State

def machine (rejections : UnhandledRejections) (parsers : Parsers) :
    Machine (State parsers) Event (Output parsers.Value) :=
  ⟨fun state event => some (state.step rejections event)⟩

/-- What the decoder makes of packets by itself: its state, the data it emits, and whether
nothing threw. -/
@[ext]
structure Delivery (parsers : Parsers) where
  decoder : parsers.SioDecoder
  data : List (List parsers.Value)
  returned : Bool

namespace Parsers

/-- The packets of one line, without the listeners. -/
def deliver (parsers : Parsers) (decoder : parsers.SioDecoder) :
    List EioPacket → Delivery parsers
  | [] => ⟨decoder, [], true⟩
  | element :: elements =>
    match parsers.add decoder element.data with
    | (decoder, .quiet) => parsers.deliver decoder elements
    | (decoder, .decoded (some data)) =>
      let rest := parsers.deliver decoder elements
      { rest with data := data :: rest.data }
    | (decoder, .decoded none) => ⟨decoder, [], false⟩
    | (decoder, .threw) => ⟨decoder, [], false⟩

end Parsers

namespace State

/-- The listeners ack and count the data of several packets. -/
def emitAll (state : State parsers) (decoder : parsers.SioDecoder)
    (data : List (List parsers.Value)) : State parsers where
  decoder := decoder
  listeners := state.listeners
  streams := fun call =>
    { state.streams call with
      count := (state.streams call).count + data.length * state.listeners.count call }
  exited := state.exited

/-- The packets of a line are delivered to the listeners, up to an exception. -/
theorem addElements_eq (state : State parsers) (elements : List EioPacket) :
    state.addElements elements =
      ⟨state.emitAll (parsers.deliver state.decoder elements).decoder
          (parsers.deliver state.decoder elements).data,
        (parsers.deliver state.decoder elements).data.flatMap
          (fun data => state.listeners.map (fun call => .ack call data)),
        (parsers.deliver state.decoder elements).returned⟩ := by
  induction elements generalizing state with
  | nil => simp [addElements, Handled.done, Parsers.deliver, emitAll]
  | cons element elements inductionHypothesis =>
    simp only [addElements, addElement, Parsers.deliver]
    cases parsers.add state.decoder element.data with | mk decoder added =>
    cases added with
    | quiet => simp [Handled.andThen, Handled.done, inductionHypothesis, emitAll]
    | decoded data =>
      cases data with
      | none => simp [Handled.andThen, emitAll]
      | some data =>
        simp only [Handled.andThen, emit, if_true, inductionHypothesis, emitAll,
          List.flatMap_cons, List.length_cons, Nat.succ_mul]
        simp only [Nat.add_assoc, Nat.add_left_comm, Nat.add_comm]
    | threw => simp [Handled.andThen, emitAll]

end State

/-- The data of an encoded packet after its type and attachments, in the default namespace.
Values that are not strings are left out. -/
def textData (str : Text) : Option (List Text) :=
  match Json.parse (str.dropWhile Char.isDigit) with
  | some (.array items) => some (items.filterMap (fun
      | .string text => some text
      | _ => none))
  | _ => none

/-- Parsers for messages whose data are strings. An attachment is counted and not put in. -/
def Parsers.text : Parsers where
  Value := Text
  SioDecoder := Option (Nat × Option (List Text))
  json := Json.parse
  decodePayload
    | some (.string payload) => some ((payload.splitOn (Char.ofNat 30)).map (fun
        | '4' :: data => ⟨.message, .text data⟩
        | _ => ⟨.error, .text "parser error".toList⟩))
    | _ => none
  idle := none
  add
    | none, .text str =>
      match decodeStringPartial str with
      | .error _ => (none, .threw)
      | .ok ⟨type, .finite attachments⟩ =>
        if type.withBinary then
          let data := textData ((str.dropWhile (· ≠ '-')).drop 1)
          (some (attachments.num.toNat, data),
            if attachments = 0 then .decoded data else .quiet)
        else (none, .decoded (textData (str.drop 1)))
      | .ok _ => (none, .threw)
    | some (left, data), .binary _ =>
      if left ≤ 1 then (none, .decoded data) else (some (left - 1, data), .quiet)
    | decoder, _ => (decoder, .threw)

instance : DecidableEq Parsers.text.Value := inferInstanceAs (DecidableEq Text)

instance : DecidableEq Parsers.text.SioDecoder :=
  inferInstanceAs (DecidableEq (Option (Nat × Option (List Text))))

section Runs

variable (rejections : UnhandledRejections)

/-- Every event is taken. -/
theorem run_cons (state : State parsers) (event : Event) (events : List Event) :
    (machine rejections parsers).run state (event :: events) =
      ((machine rejections parsers).run (state.step rejections event).1 events).map
        (fun result => (result.1, (state.step rejections event).2 ++ result.2)) :=
  Machine.run_cons_of_step (machine rejections parsers) rfl events

theorem run_total (events : List Event) (state : State parsers) :
    ∃ final outputs, (machine rejections parsers).run state events = some (final, outputs) := by
  induction events generalizing state with
  | nil => exact ⟨state, [], rfl⟩
  | cons event events inductionHypothesis =>
    obtain ⟨final, outputs, ran⟩ := inductionHypothesis (state.step rejections event).1
    exact ⟨final, (state.step rejections event).2 ++ outputs, by rw [run_cons, ran]; rfl⟩

end Runs

end WebPubSub.Adapter.Acks
