import WebPubSub.Reliable.Delivery

/-!
# A program that publishes

The program `clientpub`: a loop that sends one message after another, each again and again until
it is acked, over the client that reconnects. The service executes what it is sent at most once
for each `ackId` of a connection and answers each request; a request or an answer may be lost,
and a request may be read late, even after the socket it was sent on.

The `ackId` counts in a `ulong`, which begins again at zero behind its greatest number.
-/

namespace WebPubSub.Reliable

open Redelivery (numbered)

/-! ## Acks -/

/-- The `AckMessage` of the program. -/
structure AckMessage where
  type : Option Text
  ackId : Nat
  success : Bool

/-- A property of the message of type `string`. -/
def readString (json : Json) (key : Text) : Option (Option Text) :=
  match json.property key with
  | none | some .null => some none
  | some (.string text) => some (some text)
  | some _ => none

/-- A property of type `ulong`. -/
def readUlong (json : Json) (key : Text) : Option Nat :=
  match json.property key with
  | none => some 0
  | some value => getUlong value

/-- A property of type `bool`. -/
def readBool (json : Json) (key : Text) : Option Bool :=
  match json.property key with
  | none => some false
  | some (.bool value) => some value
  | some _ => none

/-- `JsonSerializer.Deserialize<AckMessage>`, which throws for values of other types. -/
def deserialize (json : Json) : Option AckMessage :=
  match json with
  | .object _ =>
      (readString json "type".toList).bind (fun type =>
        (readUlong json "ackId".toList).bind (fun ackId =>
          (readBool json "success".toList).map (AckMessage.mk type ackId)))
  | _ => none

/-- The ack in a message that is handed over, or `none` when reading it throws. -/
def ackOf (text : Text) : Option (Option (Nat × Bool)) :=
  ((Json.parse text).bind deserialize).map (fun message =>
    if message.type = some "ack".toList then some (message.ackId, message.success) else none)

/-- Whether a message is an ack by its type. -/
def isAck (json : Json) : Bool :=
  match json.property "type".toList with
  | some (.string type) => type = "ack".toList
  | _ => false

/-- The ack of a request. One that was executed before is a duplicate. -/
def ackBody (ackId : Nat) (success : Bool) : Body where
  members := [("type".toList, .string "ack".toList),
    ("ackId".toList, .number (Nat.toDigits 10 ackId)), ("success".toList, .bool success)]
  numeric := by
    simp [Json.numericMembers, Json.numericMember, Json.numeric, Json.Number.isNumeral_toDigits]
  distinct := by
    show ["type".toList, "ackId".toList, "success".toList].Nodup
    decide
  unnumbered := by
    show "sequenceId".toList ∉ ["type".toList, "ackId".toList, "success".toList]
    decide

/-! ## The program and the service -/

/-- Where `SafeSendMessage` stands with the call of `SendAsync`. -/
inductive Call where
  | ready
  | sending (entity : Nat)
  | waiting (entity : Nat)

/-- The program with its client, whether it still observes `MessageReceived`, how many
connections were made, the requests that the service has not read, each with the connection it
was sent on, and what the service has executed. -/
structure Publisher where
  system : System
  subscribed : Bool
  session : Nat
  ackId : Nat
  call : Call
  requests : List (Nat × Nat)
  executed : List (Nat × Nat)

inductive Action where
  | transport (event : Event)
  /-- `SendAsync` is called, after the first connection was made, and makes an `AckEntity`. -/
  | create
  /-- The socket takes the message or throws, and the message may be delivered or not. -/
  | write (delivered thrown : Bool)
  /-- The task of the `AckEntity` has ended. -/
  | resume
  /-- The service reads a request. -/
  | execute (index : Nat)
  /-- The service answers a request without executing it. -/
  | refuse (index : Nat)
  | lose (index : Nat)

namespace Publisher

def initial : Publisher := ⟨.initial, true, 0, 1, .ready, [], []⟩

/-- The subscription of `MessageReceived`. An exception ends it, and reaches `Listen` and ends
that too. -/
def received (publisher : Publisher) (text : Text) : Publisher :=
  let client := publisher.system.client
  if publisher.subscribed then
    match ackOf text with
    | none =>
        { publisher with
          system := { publisher.system with client := client.endListen false, down := [] }
          subscribed := false }
    | some none => publisher
    | some (some (ackId, success)) =>
        { publisher with
          system := { publisher.system with client := client.handleAck ackId success } }
  else publisher

/-- The service answers on the socket of the connection, if there is one. -/
def answer (publisher : Publisher) (session ackId : Nat) (success : Bool) : Publisher :=
  if session = publisher.session ∧ publisher.system.client.phase = .listening then
    { publisher with
      system := { publisher.system with
        down := publisher.system.down ++ [.notice (ackBody ackId success)] } }
  else publisher

end Publisher

/-- What the service sends of its own accord is no ack. -/
def Event.silent : Event → Bool
  | .post body | .notice body => !isAck (.object body.members)
  | _ => true

def Event.isOpened : Event → Bool
  | .opened _ _ _ => true
  | _ => false

variable (written : Json → Text)

/-- The program with the service. The outputs are the numbers that are published. -/
def publisher : Machine Publisher Action Nat where
  step publisher action :=
    match action with
    | .transport event =>
        if event.silent then
          ((machine written).step publisher.system event).map (fun moved =>
            (moved.2.foldl Publisher.received { publisher with
              system := moved.1
              session := if event.isOpened then publisher.session + 1 else publisher.session }, []))
        else none
    | .create =>
        match publisher.call with
        | .ready =>
          if publisher.session ≠ 0 then
            let made := publisher.system.client.createAckEntity publisher.ackId
            some ({ publisher with
              system := { publisher.system with client := made.1 }
              call := .sending made.2 }, [])
          else none
        | _ => none
    | .write delivered thrown =>
        match publisher.call with
        | .sending entity =>
            let client := publisher.system.client
            some ({ publisher with
              system := { publisher.system with
                client := if thrown then client.complete entity .exception else client }
              requests :=
                if delivered then publisher.requests ++ [(publisher.session, publisher.ackId)]
                else publisher.requests
              call := .waiting entity }, [])
        | _ => none
    | .resume =>
        match publisher.call with
        | .waiting entity =>
            match publisher.system.client.entities[entity]? with
            | some (some (.result _)) =>
                some ({ publisher with
                  ackId := (publisher.ackId + 1) % ulongSize
                  call := .ready }, [])
            | some (some _) => some ({ publisher with call := .ready }, [])
            | _ => none
        | _ => none
    | .execute index =>
        match publisher.requests[index]? with
        | some (session, ackId) =>
            let publisher := { publisher with requests := publisher.requests.eraseIdx index }
            if (session, ackId) ∈ publisher.executed then
              some (publisher.answer session ackId false, [])
            else
              some ({ publisher with
                executed := publisher.executed ++ [(session, ackId)] }.answer session ackId true,
                [ackId])
        | none => none
    | .refuse index =>
        match publisher.requests[index]? with
        | some (session, ackId) =>
            some ({ publisher with
              requests := publisher.requests.eraseIdx index }.answer session ackId false, [])
        | none => none
    | .lose index =>
        some ({ publisher with requests := publisher.requests.eraseIdx index }, [])

/-! ## Reading acks -/

theorem isAck_of_ackOf {json : Json} {text : Text} (parsed : Json.parse text = some json)
    {ack : Nat × Bool} (read : ackOf text = some (some ack)) : isAck json = true := by
  rw [ackOf, parsed, Option.bind_some] at read
  obtain ⟨message, given, told⟩ := Option.map_eq_some_iff.mp read
  obtain ⟨named, -⟩ := Option.ite_none_right_eq_some.mp told
  unfold deserialize at given
  split at given
  · obtain ⟨type, typed, rest⟩ := Option.bind_eq_some_iff.mp given
    obtain ⟨ackId, -, later⟩ := Option.bind_eq_some_iff.mp rest
    obtain ⟨success, -, rfl⟩ := Option.map_eq_some_iff.mp later
    obtain rfl : type = some "ack".toList := named
    unfold readString at typed
    unfold isAck
    split at typed
    · cases typed
    · cases typed
    · rename_i text found
      obtain rfl : text = "ack".toList := Option.some.inj (Option.some.inj typed)
      rw [found]
      exact decide_eq_true rfl
    · cases typed
  · cases given

/-- The number before a message does not change its type. -/
theorem isAck_message (body : Body) (sequenceId : Nat) :
    isAck (Sent.message body sequenceId).json = isAck (.object body.members) := by
  have skipped : [("sequenceId".toList, Json.number (Nat.toDigits 10 sequenceId))].find?
      (fun member => member.1 = "type".toList) = none := rfl
  have found : (Sent.message body sequenceId).json.property "type".toList =
      (Json.object body.members).property "type".toList := by
    simp only [Sent.json, Json.property, Json.member, List.reverse_cons, List.find?_append,
      skipped, Option.or_none]
  rw [isAck, isAck, found]

/-- The ack of a request names the request. -/
theorem ackId_of_ackOf {ackId read : Nat} {success told : Bool}
    (given : ackOf (Sent.notice (ackBody ackId success)).text = some (some (read, told))) :
    read = ackId := by
  have message : deserialize (Sent.notice (ackBody ackId success)).json =
      (getUlong (.number (Nat.toDigits 10 ackId))).bind
        (fun ackId => some ⟨some "ack".toList, ackId, success⟩) := rfl
  rw [ackOf, Sent.parse_text, Option.bind_some, message, getUlong_toDigits] at given
  by_cases small : ackId < ulongSize
  · rw [if_pos small] at given
    have same : (ackId, success) = (read, told) := Option.some.inj (Option.some.inj given)
    exact (congrArg Prod.fst same).symm
  · rw [if_neg small] at given
    cases given

/-! ## What a step of the transport leaves -/

namespace Client

variable {written : Json → Text}

/-- What reading a message does not touch. -/
structure Kept (client other : Client) : Prop where
  cache : other.cache = client.cache
  entities : other.entities = client.entities
  initialized : client.initialized = true → other.initialized = true

theorem kept_readConnected (written : Json → Text) (client : Client) (json : Json) :
    client.Kept (client.readConnected written json).1 := by
  have same : client.Kept client := ⟨rfl, rfl, id⟩
  unfold readConnected
  split
  · exact same
  · rename_i fresh
    split
    · exact same
    · split
      · exact same
      · split
        · exact same
        · split
          · exact same
          · split
            · exact same
            · split
              · exact ⟨rfl, rfl, id⟩
              · exact ⟨rfl, rfl, fun _ => rfl⟩

theorem kept_readSequence {client next : Client} {json : Json} {sequenceAck : Option Nat}
    {duplicated : Bool} (read : client.readSequence json = some (next, sequenceAck, duplicated)) :
    client.Kept next := by
  unfold readSequence at read
  split at read
  · cases read
  · cases read
    exact ⟨rfl, rfl, id⟩
  · obtain ⟨sequenceId, -, shape⟩ := Option.map_eq_some_iff.mp read
    split at shape <;> cases shape <;> exact ⟨rfl, rfl, id⟩

theorem kept_handle (written : Json → Text) (client : Client) (text : Text) :
    client.Kept (client.handle written text).1 := by
  unfold handle
  split
  · exact ⟨rfl, rfl, id⟩
  · rename_i json parsed
    have first := kept_readConnected written client json
    split
    · rename_i next shape
      rw [shape] at first
      exact first
    · rename_i next shape
      rw [shape] at first
      split
      · exact first
      · rename_i last sequenceAck duplicated read
        have second := kept_readSequence read
        exact ⟨second.cache.trans first.cache, second.entities.trans first.entities,
          second.initialized ∘ first.initialized⟩

/-- Only the text that was read is handed over. -/
theorem handle_next {client : Client} {text next : Text} {sequenceAck : Option Nat}
    (handled : (client.handle written text).2 = .handled sequenceAck (some next)) :
    next = text := by
  unfold handle at handled
  split at handled
  · cases handled
  · split at handled
    · cases handled
    · split at handled
      · cases handled
      · rename_i duplicated _
        obtain ⟨-, shape⟩ := Outcome.handled.inj handled
        cases duplicated with
        | false => exact (Option.some.inj shape).symm
        | true => cases shape

theorem entities_complete (client : Client) (entity other : Nat) (completion : Completion) :
    (client.complete entity completion).entities[other]? =
      if other = entity then
        client.entities[other]?.map (fun done => done.or (some completion))
      else client.entities[other]? := by
  rw [complete, List.getElem?_modify]
  by_cases same : other = entity
  · simp [same]
  · simp [same, Ne.symm same]

/-- Cancelling gives no result. -/
theorem result_cancel (cache : List (Nat × Nat)) (client : Client) {entity : Nat} {success : Bool}
    (told : (cache.foldl (fun client entry => client.complete entry.2 .cancelled)
      client).entities[entity]? = some (some (.result success))) :
    client.entities[entity]? = some (some (.result success)) := by
  induction cache generalizing client with
  | nil => exact told
  | cons entry cache inductionHypothesis =>
    have before := inductionHypothesis (client.complete entry.2 .cancelled) told
    rw [entities_complete] at before
    split at before
    · obtain ⟨done, found, shape⟩ := Option.map_eq_some_iff.mp before
      cases done with
      | none => cases shape
      | some completion => exact found.trans (congrArg some shape)
    · exact before

theorem length_cancel (cache : List (Nat × Nat)) (client : Client) :
    (cache.foldl (fun client entry => client.complete entry.2 .cancelled)
      client).entities.length = client.entities.length := by
  induction cache generalizing client with
  | nil => rfl
  | cons entry cache inductionHypothesis =>
    rw [List.foldl_cons, inductionHypothesis]
    exact List.length_modify _ _ _

end Client

/-- No message of a connection is an ack. -/
def System.Quiet (system : System) : Prop :=
  ∀ body ∈ system.log, isAck (.object body.members) = false

/-- What a step of the transport leaves of what the program relies on. -/
structure Moved (system next : System) (texts : List Text) : Prop where
  initialized : system.client.initialized = true → next.client.initialized = true
  quiet : next.Quiet
  acks : ∀ sent ∈ next.down, isAck sent.json = true → sent ∈ system.down
  texts : ∀ text ∈ texts, ∃ sent ∈ system.down, text = sent.text ∧
    (isAck sent.json = true → system.client.initialized = true)
  cache : ∀ entry ∈ next.client.cache, entry ∈ system.client.cache
  length : next.client.entities.length = system.client.entities.length
  results : ∀ (entity : Nat) (success : Bool),
    next.client.entities[entity]? = some (some (Completion.result success)) →
      system.client.entities[entity]? = some (some (Completion.result success))

variable {written} {system next : System} {event : Event} {texts : List Text}

theorem isAck_connected (userId : Option Text) (connectionId reconnectionToken : Text) :
    isAck (Sent.connected userId connectionId reconnectionToken).json = false := by
  cases userId <;> rfl

/-- A message that is sent again is no ack. -/
theorem System.Quiet.resent {log : List Body}
    (quiet : ∀ body ∈ log, isAck (.object body.members) = false) {position : Nat} {sent : Sent}
    (listed : sent ∈ ((numbered log).drop position).map
      (fun entry => Sent.message entry.1 entry.2)) : isAck sent.json = false := by
  obtain ⟨entry, found, rfl⟩ := List.mem_map.mp listed
  rw [isAck_message]
  exact quiet _ (Redelivery.mem_of_mem_numbered (List.mem_of_mem_drop found))

/-- A turn of `Listen`. -/
theorem moved_listen (written : Json → Text) (consistent : system.Consistent) (quiet : system.Quiet)
    (listening : system.client.phase = .listening) {sent : Sent} {down : List Sent}
    (head : system.down = sent :: down) :
    Moved system (system.afterListen down (system.client.handle written sent.text)).1
      (system.afterListen down (system.client.handle written sent.text)).2 := by
  have kept := Client.kept_handle written system.client sent.text
  have read : isAck sent.json = true → system.client.initialized = true := by
    intro ack
    cases initialized : system.client.initialized with
    | true => rfl
    | false =>
      obtain ⟨connection, -, userId, token, -, rest, shape⟩ :=
        consistent.started listening initialized
      obtain ⟨rfl, -⟩ := List.cons.inj (head.symm.trans shape)
      rw [isAck_connected] at ack
      cases ack
  have further {other : Sent} (listed : other ∈ down) : other ∈ system.down :=
    head ▸ List.mem_cons_of_mem sent listed
  cases outcome : (system.client.handle written sent.text).2 with
  | ended =>
    simp only [System.afterListen, outcome]
    exact {
      initialized := kept.initialized
      quiet := quiet
      acks := fun _ listed => absurd listed List.not_mem_nil
      texts := fun _ listed => absurd listed List.not_mem_nil
      cache := fun _ listed => kept.cache ▸ listed
      length := congrArg List.length kept.entities
      results := fun entity _ told => kept.entities ▸ told }
  | handled sequenceAck next =>
    simp only [System.afterListen, outcome]
    exact {
      initialized := kept.initialized
      quiet := quiet
      acks := fun _ listed _ => further listed
      texts := by
        intro text listed
        obtain rfl : next = some text := Option.mem_toList.mp listed
        have same : text = sent.text := Client.handle_next outcome
        exact ⟨sent, head ▸ List.mem_cons_self, same, read⟩
      cache := fun _ listed => kept.cache ▸ listed
      length := congrArg List.length kept.entities
      results := fun entity _ told => kept.entities ▸ told }

/-- A step that hands nothing over and leaves the calls as they are. -/
theorem moved_of_calls (initialized : next.client.initialized = system.client.initialized)
    (cache : next.client.cache = system.client.cache)
    (entities : next.client.entities = system.client.entities) (quiet : next.Quiet)
    (acks : ∀ sent ∈ next.down, isAck sent.json = true → sent ∈ system.down) :
    Moved system next [] where
  initialized := fun known => initialized.trans known
  quiet := quiet
  acks := acks
  texts := fun _ listed => absurd listed List.not_mem_nil
  cache := fun _ listed => cache ▸ listed
  length := congrArg List.length entities
  results := fun _ _ told => entities ▸ told

/-- Any step, when the service sends no ack of its own accord. -/
theorem moved_step (consistent : system.Consistent) (quiet : system.Quiet)
    (silent : event.silent = true)
    (stepped : (machine written).step system event = some (next, texts)) :
    Moved system next texts := by
  cases event with
  | opened userId connectionId reconnectionToken =>
    obtain ⟨-, moved⟩ := Option.ite_none_right_eq_some.mp stepped
    obtain ⟨rfl, rfl⟩ := Prod.mk.inj (Option.some.inj moved)
    refine moved_of_calls rfl rfl rfl (fun _ listed => absurd listed List.not_mem_nil) ?_
    intro sent listed ack
    rw [List.mem_singleton.mp listed, isAck_connected] at ack
    cases ack
  | recovered position userId again =>
    simp only [machine] at stepped
    split at stepped
    · rename_i connectionId reconnectionToken connection phase standing
      obtain ⟨-, moved⟩ := Option.ite_none_right_eq_some.mp stepped
      obtain ⟨rfl, rfl⟩ := Prod.mk.inj (Option.some.inj moved)
      have silentLog : ∀ body ∈ connection.log, isAck (.object body.members) = false := by
        simpa [System.Quiet, System.log, standing] using quiet
      refine moved_of_calls rfl rfl rfl silentLog ?_
      intro sent listed ack
      rcases List.mem_append.mp listed with first | resent
      · obtain ⟨token, -, rfl⟩ := List.mem_map.mp first
        rw [isAck_connected] at ack
        cases ack
      · rw [System.Quiet.resent silentLog resent] at ack
        cases ack
    · cases stepped
  | post body =>
    obtain ⟨connection, standing, moved⟩ := Option.map_eq_some_iff.mp stepped
    obtain ⟨rfl, rfl⟩ := Prod.mk.inj moved
    have plain : isAck (.object body.members) = false := by simpa [Event.silent] using silent
    refine moved_of_calls rfl rfl rfl ?_ ?_
    · intro other listed
      rcases List.mem_append.mp listed with before | same
      · exact quiet other (by simpa [System.log, standing] using before)
      · exact List.mem_singleton.mp same ▸ plain
    · intro sent listed ack
      by_cases listening : system.client.phase = .listening
      · rw [if_pos listening] at listed
        rcases List.mem_append.mp listed with before | same
        · exact before
        · rw [List.mem_singleton.mp same, isAck_message, plain] at ack
          cases ack
      · rwa [if_neg listening] at listed
  | notice body =>
    obtain ⟨-, moved⟩ := Option.ite_none_right_eq_some.mp stepped
    obtain ⟨rfl, rfl⟩ := Prod.mk.inj (Option.some.inj moved)
    have plain : isAck (.object body.members) = false := by simpa [Event.silent] using silent
    refine moved_of_calls rfl rfl rfl quiet ?_
    intro sent listed ack
    rcases List.mem_append.mp listed with before | same
    · exact before
    · obtain rfl := List.mem_singleton.mp same
      exact absurd (ack.symm.trans plain) (by decide)
  | listen buffer frames =>
    obtain ⟨sent, down, listening, head, after⟩ := step_listen stepped
    have result := moved_listen written consistent quiet listening head
    rwa [after] at result
  | acknowledge index =>
    simp only [machine] at stepped
    split at stepped
    · rename_i sequenceId connection waits standing
      obtain ⟨rfl, rfl⟩ := Prod.mk.inj (Option.some.inj stepped)
      exact moved_of_calls rfl rfl rfl (by simpa [System.Quiet, System.log, standing] using quiet)
        (fun _ listed _ => listed)
    · cases stepped
  | drop policyViolation =>
    obtain ⟨-, moved⟩ := Option.ite_none_right_eq_some.mp stepped
    obtain ⟨rfl, rfl⟩ := Prod.mk.inj (Option.some.inj moved)
    exact moved_of_calls rfl rfl rfl quiet (fun _ listed => absurd listed List.not_mem_nil)
  | handleReconnection =>
    obtain ⟨ended, moved⟩ := Option.ite_none_right_eq_some.mp stepped
    obtain ⟨rfl, rfl⟩ := Prod.mk.inj (Option.some.inj moved)
    exact {
      initialized := fun known => system.client.alike_handleReconnection.initialized.trans known
      quiet := quiet
      acks := fun _ listed _ => listed
      texts := fun _ listed => absurd listed List.not_mem_nil
      cache := fun _ listed => absurd listed List.not_mem_nil
      length := Client.length_cancel system.client.cache system.client
      results := fun _ _ told => Client.result_cancel system.client.cache system.client told }
  | stop =>
    obtain ⟨rfl, rfl⟩ := Prod.mk.inj (Option.some.inj stepped)
    exact moved_of_calls rfl rfl rfl quiet (fun _ listed _ => listed)

end WebPubSub.Reliable
