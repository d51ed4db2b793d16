import WebPubSub.Library.Family
import WebPubSub.Tunnel.Messages
import WebPubSub.Tunnel.ProxiedUrl

/-!
# Requests that come through the tunnel

The branch of `processMessage` in `TunnelConnection.ts` for an HttpRequest, with the handler
that `HttpServerProxy.ts` installs and the recording that `commander.ts` puts around it. One
activity is begun for each request; it waits for the handler, for the record, for the
callbacks of the upstream call and for the send of the response, and it ends early when
something throws: the outer `catch` only logs.

The modules of Node are outside. A call they take is closed by an end, an error, a cut or an
upgrade. A cut comes after the response has begun and before its end; an upgrade is an
answer with status 101 or to the method CONNECT. Nothing listens for these two.

The tool drops the promise of `UpdateTraffic`, and Node 16, the first that the tool runs on,
ends the process when it rejects. Then nothing more happens to any request.

An event that comes after the promise of the call was resolved changes nothing and is left
out, and so are the log and the webview.
-/

namespace WebPubSub.Tunnel

open Json (Numeral)

/-- What Node decides of a call at once. -/
structure HttpModule where
  /-- The URL that `sendHttpRequest` builds from that of the request and the target; `none`
  when a constructor of `URL` throws. -/
  proxiedUrl : Text → Text → Option Text
  /-- Whether `http.request`, `setHeader`, `write` or `end` throws. -/
  refuses : Text → TunnelHttpRequestMessage → Bool

/-- `TunnelOutgoingMessage`. -/
structure TunnelOutgoingMessage where
  statusCode : Numeral
  headers : Headers
  content : List UInt8

/-- A value in `IncomingHttpHeaders`. -/
inductive HeaderValue where
  | undefined
  | one (value : Text)
  | many (values : List Text)

/-- `convertHeaders`. -/
def convertHeaders (headers : List (Text × HeaderValue)) : Headers :=
  Headers.ofEntries (headers.filterMap (fun entry =>
    match entry.2 with
    | .undefined => none
    | .one value => some (entry.1, [value])
    | .many values => some (entry.1, values)))

/-- The upstream response as its callback is given it. -/
structure IncomingMessage where
  statusCode : Option Numeral
  headers : List (Text × HeaderValue)

/-- The call that `httpInvoke` made and has not resolved. -/
structure UpstreamCall where
  response : Option IncomingMessage
  chunks : List (List UInt8)
  isOpen : Bool

/-- A call without a response. -/
def UpstreamCall.initial : UpstreamCall := ⟨none, [], true⟩

/-- What `requestHandler` is when a request arrives: the one that `HttpServerProxy` installs,
with or without the recording of the tool, or any other. -/
inductive RequestHandler where
  | absent
  | custom
  | proxy (target : Text) (records : Bool)

/-- A request with the client that delivered it. -/
structure Receipt where
  handler : RequestHandler
  client : Nat
  request : TunnelHttpRequestMessage

/-- Where the handling of a request stands. -/
inductive Phase where
  /-- The promise of another handler is awaited. -/
  | handling
  /-- `AddTraffic` is awaited. -/
  | recording (url : Text)
  /-- `httpInvoke` is awaited. -/
  | calling (call : UpstreamCall)
  /-- `sendAsync` is awaited. -/
  | sending (response : TunnelOutgoingMessage)
  | answered
  | unanswered

/-- The handling of a request. `updating` says that `UpdateTraffic` was called for it. -/
structure Handling where
  receipt : Receipt
  phase : Phase
  updating : Bool

/-- What happens to the handling of a request. -/
inductive HandlingEvent where
  | handlerReturned (response : Option TunnelOutgoingMessage)
  | handlerThrew
  | recorded
  | recordFailed
  | responded (message : IncomingMessage)
  | data (chunk : List UInt8)
  | ended
  | requestError (message : Text)
  | cut
  | upgraded
  /-- The abort signal fires. -/
  | cancelled
  | sent
  | sendFailed
  /-- The promise of `UpdateTraffic` rejects. -/
  | updateFailed

/-- A response that a client has sent. -/
structure Answer where
  client : Nat
  message : TunnelHttpResponseMessage

def statusZero : Numeral := ⟨['0'], rfl⟩

def statusError : Numeral := ⟨['5', '0', '0'], rfl⟩

/-- `errorResponse`. -/
def errorResponse (message : Text) : TunnelOutgoingMessage :=
  ⟨statusError, Headers.ofEntries [], Utf8.encode message⟩

/-- The response that an upstream response comes to at its end. -/
def upstreamResponse (message : IncomingMessage) (chunks : List (List UInt8)) :
    TunnelOutgoingMessage :=
  ⟨message.statusCode.getD statusZero, convertHeaders message.headers, chunks.flatten⟩

/-- The message that carries a response back. -/
def Receipt.respond (receipt : Receipt) (response : TunnelOutgoingMessage) : Answer where
  client := receipt.client
  message :=
    { ackId := receipt.request.ackId
      localRouting := receipt.request.localRouting
      statusCode := response.statusCode
      channelName := receipt.request.channelName
      notCompleted := false
      headers := some response.headers
      content := some response.content }

/-- `httpInvoke` up to its first callback; what is thrown rejects its promise. -/
def httpInvoke (http : HttpModule) (url : Text) (request : TunnelHttpRequestMessage) : Phase :=
  if http.refuses url request then .unanswered else .calling .initial

/-- `processMessage` up to its first `await`. -/
def processRequest (http : HttpModule) (receipt : Receipt) : Handling where
  receipt := receipt
  phase :=
    match receipt.handler with
    | .absent => .unanswered
    | .custom => .handling
    | .proxy target records =>
      match http.proxiedUrl receipt.request.url target with
      | none => .unanswered
      | some url => if records then .recording url else httpInvoke http url receipt.request
  updating := false

/-- A callback of the upstream call. -/
def UpstreamCall.act (call : UpstreamCall) : HandlingEvent → Option Phase
  | .responded message =>
    if call.isOpen ∧ call.response.isNone then
      some (.calling { call with response := some message })
    else none
  | .data chunk =>
    if call.isOpen ∧ call.response.isSome then
      some (.calling { call with chunks := call.chunks ++ [chunk] })
    else none
  | .ended =>
    if call.isOpen then
      call.response.map (fun message => .sending (upstreamResponse message call.chunks))
    else none
  | .requestError message => if call.isOpen then some (.sending (errorResponse message)) else none
  | .cut =>
    if call.isOpen ∧ call.response.isSome then some (.calling { call with isOpen := false })
    else none
  | .upgraded =>
    if call.isOpen ∧ call.response.isNone then some (.calling { call with isOpen := false })
    else none
  | .cancelled => some (.sending (errorResponse "Request cancelled".toList))
  | _ => none

/-- The tool puts its recording around the handler. -/
def RequestHandler.records : RequestHandler → Bool
  | .proxy _ records => records
  | _ => false

/-- The promise of `httpInvoke` is resolved. -/
def Phase.isSending : Phase → Bool
  | .sending _ => true
  | _ => false

/-- What the awaited promises and the callbacks do. -/
def Handling.advance (http : HttpModule) (handling : Handling) (event : HandlingEvent) :
    Option (Handling × List Answer) :=
  match handling.phase, event with
  | .handling, .handlerReturned (some response) =>
      some ({ handling with phase := .sending response }, [])
  | .handling, .handlerReturned none => some ({ handling with phase := .unanswered }, [])
  | .handling, .handlerThrew => some ({ handling with phase := .unanswered }, [])
  | .recording url, .recorded =>
      some ({ handling with phase := httpInvoke http url handling.receipt.request }, [])
  | .recording _, .recordFailed => some ({ handling with phase := .unanswered }, [])
  | .calling call, event =>
      (call.act event).map (fun phase => ({ handling with
        phase := phase
        updating := phase.isSending && handling.receipt.handler.records }, []))
  | .sending response, .sent =>
      some ({ handling with phase := .answered }, [handling.receipt.respond response])
  | .sending _, .sendFailed => some ({ handling with phase := .unanswered }, [])
  | _, _ => none

def Handling.step (http : HttpModule) (handling : Handling) :
    HandlingEvent → Option (Handling × List Answer)
  | .updateFailed => if handling.updating then some (handling, []) else none
  | event => handling.advance http event

/-- The handling of one request. -/
def handlingMachine (http : HttpModule) : Machine Handling HandlingEvent Answer :=
  ⟨Handling.step http⟩

/-- The event ends the process. -/
def endsProcess : Machine.FamilyEvent Receipt HandlingEvent → Bool
  | .own _ .updateFailed => true
  | _ => false

/-- The handling of all requests by one process; the flag says that it runs. -/
def requestMachine (http : HttpModule) :
    Machine (List Handling × Bool) (Machine.FamilyEvent Receipt HandlingEvent) (Nat × Answer) :=
  (Machine.family (processRequest http) (handlingMachine http)).halting endsProcess

/-- Nothing more happens to a request by itself. -/
def Handling.settled (handling : Handling) : Bool :=
  match handling.phase with
  | .answered | .unanswered => true
  | .calling call => !call.isOpen
  | _ => false

/-! ## When a request is answered -/

/-- The request can be started: there is a handler, and neither the URL nor the modules of
Node refuse it. -/
def Receipt.startable (http : HttpModule) (receipt : Receipt) : Bool :=
  match receipt.handler with
  | .absent => false
  | .custom => true
  | .proxy target _ => (http.proxiedUrl receipt.request.url target).any
      (fun url => !http.refuses url receipt.request)

/-- The event ends the handling without an answer. -/
def HandlingEvent.spoils : HandlingEvent → Bool
  | .handlerReturned none | .handlerThrew | .recordFailed | .sendFailed => true
  | _ => false

/-- The event fails the upstream call. -/
def HandlingEvent.fails : HandlingEvent → Bool
  | .requestError _ | .cancelled => true
  | _ => false

/-- The event closes the upstream call, and nothing hears of it. -/
def HandlingEvent.drops : HandlingEvent → Bool
  | .cut | .upgraded => true
  | _ => false

def HandlingEvent.isCancelled : HandlingEvent → Bool
  | .cancelled => true
  | _ => false

def HandlingEvent.isSent : HandlingEvent → Bool
  | .sent => true
  | _ => false

/-- Nothing among the events of a request keeps it from its answer: none of them spoils it,
and its call is not dropped, unless the request is cancelled afterwards. -/
structure Answerable (http : HttpModule) (receipt : Receipt) (events : List HandlingEvent) :
    Prop where
  startable : receipt.startable http = true
  spared : events.any HandlingEvent.spoils = false
  whole : events.any HandlingEvent.drops = true → events.any HandlingEvent.isCancelled = true

/-- Exactly one response is sent for a request, with its ack id, on its client, and with
status 500 after a failure. -/
def AnsweredOnce (receipt : Receipt) (events : List HandlingEvent) (answers : List Answer) : Prop :=
  ∃ message, answers = [⟨receipt.client, message⟩] ∧ message.ackId = receipt.request.ackId ∧
    (events.any HandlingEvent.fails = true → message.statusCode = statusError)

/-- What the events of a request and its answers so far are to where its handling stands. -/
def Follows (http : HttpModule) (receipt : Receipt) (events : List HandlingEvent)
    (answers : List Answer) (phase : Phase) : Prop :=
  match phase with
  | .handling => answers = [] ∧ events = [] ∧ receipt.startable http = true
  | .recording url => answers = [] ∧ events = [] ∧
      receipt.startable http = !http.refuses url receipt.request
  | .calling call => answers = [] ∧ receipt.startable http = true ∧
      events.any HandlingEvent.spoils = false ∧ events.any HandlingEvent.fails = false ∧
      events.any HandlingEvent.drops = !call.isOpen ∧ events.any HandlingEvent.isSent = false
  | .sending response => answers = [] ∧ Answerable http receipt events ∧
      (events.any HandlingEvent.fails = true → response.statusCode = statusError) ∧
      events.any HandlingEvent.isSent = false
  | .answered => Answerable http receipt events ∧ AnsweredOnce receipt events answers ∧
      events.any HandlingEvent.isSent = true
  | .unanswered => answers = [] ∧ ¬Answerable http receipt events

section Follows

variable {http : HttpModule} {receipt : Receipt} {events : List HandlingEvent}

theorem follows_httpInvoke {url : Text}
    (started : receipt.startable http = !http.refuses url receipt.request)
    (spared : events.any HandlingEvent.spoils = false)
    (whole : events.any HandlingEvent.fails = false)
    (kept : events.any HandlingEvent.drops = false)
    (unsent : events.any HandlingEvent.isSent = false) :
    Follows http receipt events [] (httpInvoke http url receipt.request) := by
  unfold httpInvoke
  split
  · rename_i refused
    constructor
    · rfl
    · intro answerable
      have startable := answerable.startable
      rw [started, refused] at startable
      cases startable
  · rename_i taken
    refine ⟨rfl, ?_, spared, whole, kept, unsent⟩
    rw [started]
    simpa using taken

/-- The handling begins so. -/
theorem follows_processRequest :
    Follows http receipt [] [] (processRequest http receipt).phase := by
  have unstarted (refused : receipt.startable http = false) :
      Follows http receipt [] [] .unanswered := by
    constructor
    · rfl
    · intro answerable
      rw [answerable.startable] at refused
      cases refused
  obtain ⟨handler, client, request⟩ := receipt
  cases handler with
  | absent => exact unstarted rfl
  | custom => exact ⟨rfl, rfl, rfl⟩
  | proxy target records =>
    cases built : http.proxiedUrl request.url target with
    | none =>
      simp only [processRequest, built]
      exact unstarted (by simp [Receipt.startable, built])
    | some url =>
      have started : Receipt.startable http ⟨.proxy target records, client, request⟩ =
          !http.refuses url request := by
        simp [Receipt.startable, built]
      simp only [processRequest, built]
      split
      · exact ⟨rfl, rfl, started⟩
      · exact follows_httpInvoke started rfl rfl rfl rfl

/-- An upstream call goes on, or it comes to the response of a request that is not spoiled. -/
theorem follows_act {answers : List Answer} {call : UpstreamCall} {event : HandlingEvent}
    {next : Phase} (follows : Follows http receipt events answers (.calling call))
    (acted : call.act event = some next) :
    Follows http receipt (events ++ [event]) answers next := by
  obtain ⟨unanswered, startable, spared, whole, dropped, unsent⟩ := follows
  have sending {response : TunnelOutgoingMessage} (spoils : event.spoils = false)
      (drops : event.drops = false) (settles : call.isOpen = true ∨ event.isCancelled = true)
      (status : event.fails = true → response.statusCode = statusError)
      (sends : event.isSent = false) :
      Follows http receipt (events ++ [event]) answers (.sending response) := by
    refine ⟨unanswered, ⟨startable, ?_, ?_⟩, ?_, ?_⟩
    · simp [spared, spoils]
    · intro wasDropped
      cases settles with
      | inl isOpen => simp [dropped, isOpen, drops] at wasDropped
      | inr cancelled => simp [cancelled]
    · intro failed
      apply status
      simpa [whole] using failed
    · simp [unsent, sends]
  have calling {after : UpstreamCall} (spoils : event.spoils = false)
      (fails : event.fails = false) (sends : event.isSent = false)
      (open_iff : (!call.isOpen || event.drops) = !after.isOpen) :
      Follows http receipt (events ++ [event]) answers (.calling after) := by
    refine ⟨unanswered, startable, ?_, ?_, ?_, ?_⟩
    · simp [spared, spoils]
    · simp [whole, fails]
    · simpa [dropped] using open_iff
    · simp [unsent, sends]
  cases event with
  | responded message =>
    simp only [UpstreamCall.act, Option.ite_none_right_eq_some, Option.some.injEq] at acted
    obtain ⟨-, rfl⟩ := acted
    exact calling rfl rfl rfl (Bool.or_false _)
  | data chunk =>
    simp only [UpstreamCall.act, Option.ite_none_right_eq_some, Option.some.injEq] at acted
    obtain ⟨-, rfl⟩ := acted
    exact calling rfl rfl rfl (Bool.or_false _)
  | ended =>
    simp only [UpstreamCall.act, Option.ite_none_right_eq_some] at acted
    obtain ⟨isOpen, acted⟩ := acted
    obtain ⟨message, -, rfl⟩ := Option.map_eq_some_iff.mp acted
    exact sending rfl rfl (Or.inl isOpen) (fun failed => by cases failed) rfl
  | requestError message =>
    simp only [UpstreamCall.act, Option.ite_none_right_eq_some, Option.some.injEq] at acted
    obtain ⟨isOpen, rfl⟩ := acted
    exact sending rfl rfl (Or.inl isOpen) (fun _ => rfl) rfl
  | cut =>
    simp only [UpstreamCall.act, Option.ite_none_right_eq_some, Option.some.injEq] at acted
    obtain ⟨-, rfl⟩ := acted
    exact calling rfl rfl rfl (Bool.or_true _)
  | upgraded =>
    simp only [UpstreamCall.act, Option.ite_none_right_eq_some, Option.some.injEq] at acted
    obtain ⟨-, rfl⟩ := acted
    exact calling rfl rfl rfl (Bool.or_true _)
  | cancelled =>
    obtain rfl := Option.some.inj acted
    exact sending rfl rfl (Or.inr rfl) (fun _ => rfl) rfl
  | _ => cases acted

/-- An event that spoils a request leaves it unanswered. -/
theorem follows_spoiled {event : HandlingEvent} (spoils : event.spoils = true) :
    Follows http receipt (events ++ [event]) [] .unanswered := by
  constructor
  · rfl
  · intro answerable
    have spared := answerable.spared
    simp [spoils] at spared

/-- An answerable request stays so with an event that does not touch it. -/
theorem Answerable.append (answerable : Answerable http receipt events) {event : HandlingEvent}
    (spoils : event.spoils = false) (drops : event.drops = false) :
    Answerable http receipt (events ++ [event]) where
  startable := answerable.startable
  spared := by simpa [spoils] using answerable.spared
  whole := by
    intro dropped
    have cancelled := answerable.whole (by simpa [drops] using dropped)
    simp [cancelled]

/-- `UpdateTraffic` is not called before the upstream call is. -/
def Handling.UpdatesLate (handling : Handling) : Prop :=
  match handling.phase with
  | .handling | .recording _ => handling.updating = false
  | _ => True

/-- A rejection of `UpdateTraffic` leaves the handling where it stands. -/
theorem follows_updateFailed {answers : List Answer} {handling : Handling}
    (follows : Follows http receipt events answers handling.phase) (late : handling.UpdatesLate)
    (updates : handling.updating = true) :
    Follows http receipt (events ++ [.updateFailed]) answers handling.phase := by
  have same (test : HandlingEvent → Bool) (silent : test .updateFailed = false) :
      (events ++ [HandlingEvent.updateFailed]).any test = events.any test := by
    simp [silent]
  have spoils := same HandlingEvent.spoils rfl
  have fails := same HandlingEvent.fails rfl
  have drops := same HandlingEvent.drops rfl
  have sends := same HandlingEvent.isSent rfl
  obtain ⟨holder, phase, updating⟩ := handling
  cases phase with
  | handling => exact absurd (late.symm.trans updates) Bool.false_ne_true
  | recording url => exact absurd (late.symm.trans updates) Bool.false_ne_true
  | calling call =>
    simp only [Follows, spoils, fails, drops, sends]
    exact follows
  | sending response =>
    obtain ⟨unanswered, answerable, status, unsent⟩ := follows
    simp only [Follows, fails, sends]
    exact ⟨unanswered, answerable.append rfl rfl, status, unsent⟩
  | answered =>
    obtain ⟨answerable, answered, sent⟩ := follows
    simp only [Follows, AnsweredOnce, fails, sends]
    exact ⟨answerable.append rfl rfl, answered, sent⟩
  | unanswered =>
    obtain ⟨none, unanswerable⟩ := follows
    refine ⟨none, fun answerable => unanswerable ⟨answerable.startable, ?_, ?_⟩⟩
    · exact spoils ▸ answerable.spared
    · intro dropped
      have cancelled := answerable.whole (drops.trans dropped)
      rwa [same HandlingEvent.isCancelled rfl] at cancelled

/-- Every other event of a request keeps to this. -/
theorem follows_advance {answers added : List Answer} {handling next : Handling}
    {event : HandlingEvent} (follows : Follows http handling.receipt events answers handling.phase)
    (advanced : handling.advance http event = some (next, added)) :
    next.receipt = handling.receipt ∧ next.UpdatesLate ∧
      Follows http handling.receipt (events ++ [event]) (answers ++ added) next.phase := by
  obtain ⟨receipt, phase, updating⟩ := handling
  cases phase with
  | handling =>
    obtain ⟨unanswered, fresh, startable⟩ := follows
    subst unanswered fresh
    cases event with
    | handlerReturned response =>
      cases response with
      | none =>
        obtain ⟨rfl, rfl⟩ := Prod.mk.inj (Option.some.inj advanced)
        exact ⟨rfl, trivial, follows_spoiled rfl⟩
      | some response =>
        obtain ⟨rfl, rfl⟩ := Prod.mk.inj (Option.some.inj advanced)
        refine ⟨rfl, trivial, rfl, ⟨startable, rfl, ?_⟩, ?_, rfl⟩
        · intro dropped
          cases dropped
        · intro failed
          cases failed
    | handlerThrew =>
      obtain ⟨rfl, rfl⟩ := Prod.mk.inj (Option.some.inj advanced)
      exact ⟨rfl, trivial, follows_spoiled rfl⟩
    | _ => cases advanced
  | recording url =>
    obtain ⟨unanswered, fresh, started⟩ := follows
    subst unanswered fresh
    cases event with
    | recorded =>
      obtain ⟨rfl, rfl⟩ := Prod.mk.inj (Option.some.inj advanced)
      refine ⟨rfl, ?_, follows_httpInvoke started rfl rfl rfl rfl⟩
      show Handling.UpdatesLate ⟨receipt, httpInvoke http url receipt.request, updating⟩
      unfold httpInvoke
      split <;> exact trivial
    | recordFailed =>
      obtain ⟨rfl, rfl⟩ := Prod.mk.inj (Option.some.inj advanced)
      exact ⟨rfl, trivial, follows_spoiled rfl⟩
    | _ => cases advanced
  | calling call =>
    obtain ⟨after, acted, result⟩ := Option.map_eq_some_iff.mp advanced
    obtain ⟨rfl, rfl⟩ := Prod.mk.inj result
    rw [List.append_nil]
    refine ⟨rfl, ?_, follows_act follows acted⟩
    cases after <;> trivial
  | sending response =>
    obtain ⟨unanswered, answerable, status, unsent⟩ := follows
    subst unanswered
    cases event with
    | sent =>
      obtain ⟨rfl, rfl⟩ := Prod.mk.inj (Option.some.inj advanced)
      refine ⟨rfl, trivial, answerable.append rfl rfl, ?_, ?_⟩
      · refine ⟨(receipt.respond response).message, rfl, rfl, ?_⟩
        intro failed
        apply status
        simpa [HandlingEvent.fails] using failed
      · simp [HandlingEvent.isSent]
    | sendFailed =>
      obtain ⟨rfl, rfl⟩ := Prod.mk.inj (Option.some.inj advanced)
      exact ⟨rfl, trivial, follows_spoiled rfl⟩
    | _ => cases advanced
  | answered => cases advanced
  | unanswered => cases advanced

theorem follows_step {answers added : List Answer} {handling next : Handling}
    {event : HandlingEvent} (follows : Follows http handling.receipt events answers handling.phase)
    (late : handling.UpdatesLate) (stepped : handling.step http event = some (next, added)) :
    next.receipt = handling.receipt ∧ next.UpdatesLate ∧
      Follows http handling.receipt (events ++ [event]) (answers ++ added) next.phase := by
  cases event with
  | updateFailed =>
    obtain ⟨updates, same⟩ := Option.ite_none_right_eq_some.mp stepped
    obtain ⟨rfl, rfl⟩ := Prod.mk.inj (Option.some.inj same)
    rw [List.append_nil]
    exact ⟨rfl, late, follows_updateFailed follows late updates⟩
  | _ => exact follows_advance follows stepped

/-- So does every run. -/
theorem follows_run {answers : List Answer} {handling : Handling}
    (ran : (handlingMachine http).run (processRequest http receipt) events =
      some (handling, answers)) :
    Follows http receipt events answers handling.phase := by
  have held : handling.receipt = receipt ∧ handling.UpdatesLate ∧
      Follows http receipt events answers handling.phase := by
    refine (handlingMachine http).run_induction (fun events answers handling =>
      handling.receipt = receipt ∧ handling.UpdatesLate ∧
        Follows http receipt events answers handling.phase) ?_ ?_ ran
    · refine ⟨rfl, ?_, follows_processRequest⟩
      rw [Handling.UpdatesLate]
      split <;> first | rfl | trivial
    · intro before answers handling event next added _ held stepped
      obtain ⟨rfl, late, follows⟩ := held
      exact follows_step follows late stepped
  exact held.2.2

/-- Where nothing more happens, a request was answered or cannot be. -/
theorem answered_iff_of_settled {answers : List Answer} {handling : Handling} {running : Bool}
    (follows : Follows http receipt events answers handling.phase)
    (settled : running = true → handling.settled = true) :
    AnsweredOnce receipt events answers ↔ Answerable http receipt events ∧
      (running = false → events.any HandlingEvent.isSent = true) := by
  have without (none : answers = []) : ¬AnsweredOnce receipt events answers := by
    rintro ⟨message, one, -⟩
    rw [none] at one
    cases one
  -- without an answer the process has ended unsent, or the request is not answerable
  have unanswered (none : answers = [])
      (lost : Answerable http receipt events → running = false ∧
        events.any HandlingEvent.isSent = false) :
      AnsweredOnce receipt events answers ↔ Answerable http receipt events ∧
        (running = false → events.any HandlingEvent.isSent = true) := by
    constructor
    · exact fun answered => absurd answered (without none)
    · rintro ⟨answerable, sent⟩
      obtain ⟨ended, unsent⟩ := lost answerable
      rw [sent ended] at unsent
      cases unsent
  have stopped (unsettled : handling.settled = false) : running = false := by
    rw [← Bool.not_eq_true]
    intro runs
    rw [settled runs] at unsettled
    cases unsettled
  obtain ⟨holder, phase, updating⟩ := handling
  cases phase with
  | handling =>
    obtain ⟨none, fresh, -⟩ := follows
    exact unanswered none (fun _ => ⟨stopped rfl, by rw [fresh]; rfl⟩)
  | recording url =>
    obtain ⟨none, fresh, -⟩ := follows
    exact unanswered none (fun _ => ⟨stopped rfl, by rw [fresh]; rfl⟩)
  | calling call =>
    obtain ⟨none, -, -, whole, dropped, unsent⟩ := follows
    refine unanswered none (fun answerable => ⟨?_, unsent⟩)
    cases isOpen : call.isOpen with
    | true => exact stopped (by simp [Handling.settled, isOpen])
    | false =>
      have cancelled := answerable.whole (by rw [dropped, isOpen]; rfl)
      have failed : events.any HandlingEvent.fails = true := by
        obtain ⟨event, listed, isCancelled⟩ := List.any_eq_true.mp cancelled
        apply List.any_eq_true.mpr
        refine ⟨event, listed, ?_⟩
        cases event <;> first | rfl | cases isCancelled
      rw [whole] at failed
      cases failed
  | sending response =>
    obtain ⟨none, -, -, unsent⟩ := follows
    exact unanswered none (fun _ => ⟨stopped rfl, unsent⟩)
  | answered =>
    obtain ⟨answerable, answered, sent⟩ := follows
    exact ⟨fun _ => ⟨answerable, fun _ => sent⟩, fun _ => answered⟩
  | unanswered =>
    obtain ⟨none, unanswerable⟩ := follows
    exact unanswered none (fun answerable => absurd answerable unanswerable)

end Follows

/-- In every run of the process a request that is over was answered exactly once, exactly
when it could be started, no event of it spoils it, its call is not dropped, and no failed
update of any request has ended the process before its response was sent. A request is over
when nothing more happens to it by itself, or when the process has ended. -/
theorem requests_answered_once (http : HttpModule)
    {events : List (Machine.FamilyEvent Receipt HandlingEvent)} {handlings : List Handling}
    {running : Bool} {outputs : List (Nat × Answer)}
    (ran : (requestMachine http).run ([], true) events = some ((handlings, running), outputs))
    {index : Nat} {receipt : Receipt} {handling : Handling}
    (received : (Machine.seeds events)[index]? = some receipt)
    (found : handlings[index]? = some handling)
    (settled : events.any endsProcess = false → handling.settled = true) :
    AnsweredOnce receipt (Machine.ownEvents index events) (Machine.ownOutputs index outputs) ↔
      Answerable http receipt (Machine.ownEvents index events) ∧
      (events.any endsProcess = true →
        (Machine.ownEvents index events).any HandlingEvent.isSent = true) := by
  obtain ⟨together, ends⟩ := Machine.run_of_halting ran
  obtain ⟨standing, held, alone⟩ := (Machine.family_apart together).alone index receipt received
  obtain rfl : handling = standing := by simpa [found] using held
  obtain rfl : running = !events.any endsProcess := ends
  have settles : (!events.any endsProcess) = true → handling.settled = true := by
    simpa using settled
  simpa using answered_iff_of_settled (follows_run alone) settles

/-! ## Runs -/

/-- A character of an HTTP token. -/
def isTokenChar (char : Char) : Bool :=
  char.isAlphanum || "!#$%&'*+-.^_\x60|~".toList.contains char

/-- A character that a header value may have. -/
def isValueChar (char : Char) : Bool :=
  char = '\t' || (0x20 ≤ char.toNat && char.toNat ≤ 0x7E) ||
    (0x80 ≤ char.toNat && char.toNat ≤ 0xFF)

/-- The modules of Node: `http.request` takes no other scheme than `http`, no method and no
header name that is not a token, no value with other characters, and no array for `Host`. -/
def HttpModule.node (hosts : Url.HostParser) : HttpModule where
  proxiedUrl requestUrl target :=
    ((Url.parse hosts target).bind Url.toBase).bind (fun base =>
      (Tunnel.proxiedUrl hosts base requestUrl).map Url.href)
  refuses url request :=
    !(http ++ [':']).isPrefixOf url || !request.httpMethod.all isTokenChar ||
      request.headers.any (fun headers => headers.entries.any (fun entry =>
        entry.1.map Char.toLower = "host".toList || entry.1.isEmpty ||
          !entry.1.all isTokenChar || entry.2.any (fun value => !value.all isValueChar)))

theorem seven_numeral : Json.Number.isNumeral ['7'] = true := rfl

/-- A request of an event handler. -/
def hookRequest : TunnelHttpRequestMessage where
  ackId := ⟨['7'], seven_numeral⟩
  localRouting := true
  channelName := "hub".toList
  httpMethod := "POST".toList
  url := "http://service/hook".toList
  headers := none
  content := none

/-- The receipt of the request by the handler of a target. -/
def hookReceipt (target : String) (records : Bool) : Receipt :=
  ⟨.proxy target.toList records, 4, hookRequest⟩

/-- The upstream server answers a request that the tool has recorded. The update of the
record fails when the response has been sent. -/
def answeredRun : List (Machine.FamilyEvent Receipt HandlingEvent) :=
  [.begun (hookReceipt "http://localhost:3000" true), .own 0 .recorded,
    .own 0 (.responded ⟨some ⟨"204".toList, rfl⟩, []⟩), .own 0 .ended, .own 0 .sent,
    .own 0 .updateFailed]

theorem requests_answered_once_hook : ∃ final outputs,
    (requestMachine (.node plainHosts)).run ([], true) answeredRun = some (final, outputs) ∧
      AnsweredOnce (hookReceipt "http://localhost:3000" true) (Machine.ownEvents 0 answeredRun)
        (Machine.ownOutputs 0 outputs) := by
  have ends : ((requestMachine (.node plainHosts)).run ([], true) answeredRun).any
      (fun result => (result.1.1[0]?).any Handling.settled) = true := by decide +kernel
  obtain ⟨⟨⟨handlings, running⟩, outputs⟩, ran, standing⟩ := (Option.any_eq_true _ _).mp ends
  obtain ⟨handling, found, settled⟩ := (Option.any_eq_true _ _).mp standing
  refine ⟨(handlings, running), outputs, ran, ?_⟩
  apply (requests_answered_once (.node plainHosts) ran rfl found (fun _ => settled)).mpr
  refine ⟨⟨?_, rfl, ?_⟩, fun _ => rfl⟩
  · decide +kernel
  · intro dropped
    cases dropped

/-- The target is the one that the options name as their example: `http.request` throws for
it, and nothing is sent back. -/
def unansweredRun : List (Machine.FamilyEvent Receipt HandlingEvent) :=
  [.begun (hookReceipt "https://localhost:8080" false)]

theorem request_unanswered : ∃ handlings outputs handling,
    (requestMachine (.node plainHosts)).run ([], true) unansweredRun =
      some ((handlings, true), outputs) ∧
      handlings[0]? = some handling ∧ handling.settled = true ∧
      ¬AnsweredOnce (hookReceipt "https://localhost:8080" false)
        (Machine.ownEvents 0 unansweredRun) (Machine.ownOutputs 0 outputs) := by
  have ends : ((requestMachine (.node plainHosts)).run ([], true) unansweredRun).any
      (fun result => result.1.2 && ((result.1.1[0]?).any Handling.settled && result.2.isEmpty)) =
      true := by decide +kernel
  obtain ⟨⟨⟨handlings, running⟩, outputs⟩, ran, standing⟩ := (Option.any_eq_true _ _).mp ends
  obtain ⟨runs, standing⟩ := Bool.and_eq_true_iff.mp standing
  obtain ⟨unfinished, none⟩ := Bool.and_eq_true_iff.mp standing
  obtain ⟨handling, found, settled⟩ := (Option.any_eq_true _ _).mp unfinished
  have running_eq : running = true := runs
  subst running_eq
  refine ⟨handlings, outputs, handling, ran, found, settled, ?_⟩
  have nothing : outputs = [] := List.isEmpty_iff.mp none
  subst nothing
  rintro ⟨message, one, -⟩
  cases one

end WebPubSub.Tunnel
