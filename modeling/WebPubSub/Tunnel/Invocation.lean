import WebPubSub.Packets
import WebPubSub.Tunnel.AsyncIterator

/-!
# One invocation

The part of `invokeAsync` of `TunnelConnection.ts` that concerns a single request: the
promise of its first response, the body that its responses fill, and the callback of
its `AckEntity`, which the entity defers for every write. What the callback does
depends on the invocation alone, except for the release of its consistent key.

Headers of requests and responses are passed on unread and are left out.
-/

namespace WebPubSub.Tunnel

/-- `TunnelHttpResponseMessage`. -/
structure HttpResponse where
  ackId : Nat
  statusCode : Nat
  notCompleted : Bool
  content : Option (List UInt8)
deriving DecidableEq, Repr

/-- The arguments of a deferred call of the reader of an `AckEntity`. -/
structure Callback where
  data : Option HttpResponse
  error : Option Text
  done : Bool
deriving DecidableEq, Repr

/-- The write of a response. -/
def Callback.ofResponse (response : HttpResponse) : Callback :=
  ⟨some response, none, !response.notCompleted⟩

/-- The write of an abort. -/
def Callback.aborted : Callback := ⟨none, some "aborted".toList, true⟩

/-- The state of `sendAsync`. -/
inductive Sending where
  | pending | sent | failed
deriving DecidableEq, Repr

/-- The abort signal of an invocation. -/
inductive AbortSignal where
  | absent | waiting | aborted
deriving DecidableEq, Repr

/-- The local variables of a call of `invokeAsync` that has found a client. The key is
absent when it is empty, and `resolved` is the status the first response had. -/
structure Invocation where
  key : Option Text
  client : Nat
  signal : AbortSignal
  sending : Sending
  firstResponse : Bool
  resolved : Option Nat
  body : Iteration (List UInt8)
deriving DecidableEq, Repr

/-- The promise of `invokeAsync`. -/
inductive Settlement where
  | pending
  | rejected
  | fulfilled (statusCode : Nat)
deriving DecidableEq, Repr

namespace Invocation

/-- An invocation that was handed to a client. -/
def handed (key : Option Text) (client : Nat) (abortable : Bool) : Invocation where
  key := key
  client := client
  signal := if abortable then .waiting else .absent
  sending := .pending
  firstResponse := false
  resolved := none
  body := .empty

/-- The promise waits for the send and then for the first response. -/
def promise (invocation : Invocation) : Settlement :=
  match invocation.sending, invocation.resolved with
  | .pending, _ => .pending
  | .failed, _ => .rejected
  | .sent, none => .pending
  | .sent, some statusCode => .fulfilled statusCode

/-- The callback of the entity. It throws when there is no data, after it has passed
the error on, and when content comes after the body was closed. -/
def reader (invocation : Invocation) (callback : Callback) : Invocation × Bool :=
  let failed := match callback.error with
    | some error => invocation.body.produce (invocation.body.iterator.error error)
    | none => invocation.body
  match callback.data with
  | none => ({ invocation with body := failed }, true)
  | some data =>
    let added := match data.content with
      | some content => (failed.iterator.add content).map failed.produce
      | none => some failed
    match added with
    | none => ({ invocation with body := failed }, true)
    | some body =>
      let body := if callback.done then body.produce body.iterator.close else body
      if invocation.firstResponse then ({ invocation with body := body }, false)
      else ({ invocation with
        body := body, firstResponse := true, resolved := some data.statusCode }, false)

/-- Whether the callback releases the consistent key: the first response was read. -/
def releases (invocation : Invocation) (callback : Callback) : Bool :=
  !invocation.firstResponse && (invocation.reader callback).1.firstResponse

/-- The consumer has the body once the promise is fulfilled. -/
def hasBody (invocation : Invocation) : Bool :=
  match invocation.promise with
  | .fulfilled _ => true
  | _ => false

section Reader

variable (invocation : Invocation) (callback : Callback)

/-- The reader leaves everything but the body and the first response alone. -/
theorem reader_frame :
    (invocation.reader callback).1.key = invocation.key ∧
      (invocation.reader callback).1.client = invocation.client ∧
      (invocation.reader callback).1.signal = invocation.signal ∧
      (invocation.reader callback).1.sending = invocation.sending := by
  unfold reader
  dsimp only
  split
  · simp
  · split
    · simp
    · split <;> simp

/-- A first response stays the first. -/
theorem reader_firstResponse (seen : invocation.firstResponse = true) :
    (invocation.reader callback).1.firstResponse = true ∧
      (invocation.reader callback).1.resolved = invocation.resolved := by
  unfold reader
  dsimp only
  split
  · simp [seen]
  · split
    · simp [seen]
    · simp [seen]

/-- Data is read as long as the body is open. -/
theorem reader_reads (data : callback.data ≠ none)
    (opened : invocation.body.iterator.isClosed = false) :
    (invocation.reader callback).1.firstResponse = true := by
  obtain ⟨response, present⟩ := Option.ne_none_iff_exists'.mp data
  cases seen : invocation.firstResponse with
  | true => exact (invocation.reader_firstResponse callback seen).1
  | false =>
    cases failing : callback.error <;> cases content : response.content <;>
      simp [reader, present, failing, content, seen, AsyncIterator.add, AsyncIterator.error,
        Iteration.produce, opened]

/-- Without data only the error is passed on. -/
theorem reader_absent (absent : callback.data = none) :
    (invocation.reader callback).1.firstResponse = invocation.firstResponse ∧
      (invocation.reader callback).1.body.iterator.isClosed =
        invocation.body.iterator.isClosed := by
  simp only [reader, absent, true_and]
  cases callback.error <;> rfl

end Reader

end Invocation

end WebPubSub.Tunnel
