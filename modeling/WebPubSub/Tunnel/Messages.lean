import WebPubSub.Packets
import WebPubSub.Library.JsonText

/-!
# The messages of the tunnel

`messages.ts`: the seven kinds of message with their fields, what `JSON.stringify` sees of
one, and the reading of a parsed object under the declared type of its kind.

A number is one that JSON can write, hence neither `NaN` nor infinite. An optional field
that is absent and one that is `null` are not told apart.
-/

namespace WebPubSub.Tunnel

open Json (Numeral)

/-- `TunnelMessageType`. -/
inductive TunnelMessageType where
  | none | httpRequest | httpResponse | serviceStatus | connectionReconnect | connectionClose
  | connectionRebalance | connectionConnected
deriving DecidableEq, Repr

def TunnelMessageType.number : TunnelMessageType → Nat
  | .none => 0
  | .httpRequest => 1
  | .httpResponse => 2
  | .serviceStatus => 5
  | .connectionReconnect => 6
  | .connectionClose => 7
  | .connectionRebalance => 8
  | .connectionConnected => 10

/-- The number as JSON writes it. -/
def TunnelMessageType.source (type : TunnelMessageType) : Text := Nat.toDigits 10 type.number

theorem TunnelMessageType.numeral_source (type : TunnelMessageType) :
    Json.Number.isNumeral type.source = true := by
  cases type <;> rfl

theorem TunnelMessageType.source_inj {type other : TunnelMessageType} :
    type.source = other.source ↔ type = other := by
  cases type <;> cases other <;> decide

/-! ## Headers -/

/-- A `Record` of header values under distinct names. -/
structure Headers where
  entries : List (Text × List Text)
  distinct : (entries.map Prod.fst).Nodup
deriving DecidableEq

namespace Headers

def names (headers : Headers) : List Text := headers.entries.map Prod.fst

/-- The last entry of each name. -/
def lastEntries : List (Text × List Text) → List (Text × List Text)
  | [] => []
  | entry :: entries =>
      if entry.1 ∈ entries.map Prod.fst then lastEntries entries else entry :: lastEntries entries

theorem names_lastEntries (entries : List (Text × List Text)) {name : Text}
    (listed : name ∈ (lastEntries entries).map Prod.fst) : name ∈ entries.map Prod.fst := by
  induction entries with
  | nil => exact listed
  | cons entry entries inductionHypothesis =>
    rw [lastEntries] at listed
    split at listed
    · exact List.mem_cons_of_mem _ (inductionHypothesis listed)
    · cases List.mem_cons.mp listed with
      | inl first => exact List.mem_cons.mpr (Or.inl first)
      | inr later => exact List.mem_cons_of_mem _ (inductionHypothesis later)

theorem distinct_lastEntries (entries : List (Text × List Text)) :
    ((lastEntries entries).map Prod.fst).Nodup := by
  induction entries with
  | nil => exact List.nodup_nil
  | cons entry entries inductionHypothesis =>
    rw [lastEntries]
    split
    · exact inductionHypothesis
    · rename_i fresh
      apply List.nodup_cons.mpr
      constructor
      · intro again
        exact fresh (names_lastEntries entries again)
      · exact inductionHypothesis

theorem lastEntries_of_distinct {entries : List (Text × List Text)}
    (distinct : (entries.map Prod.fst).Nodup) : lastEntries entries = entries := by
  induction entries with
  | nil => rfl
  | cons entry entries inductionHypothesis =>
    obtain ⟨fresh, others⟩ := List.nodup_cons.mp distinct
    rw [lastEntries, if_neg fresh, inductionHypothesis others]

/-- The headers that a list of members gives, the last of a name counting. -/
def ofEntries (entries : List (Text × List Text)) : Headers :=
  ⟨lastEntries entries, distinct_lastEntries entries⟩

/-- The headers whose name is kept. -/
def keep (kept : Text → Bool) (headers : Headers) : Headers where
  entries := headers.entries.filter (fun entry => kept entry.1)
  distinct := headers.distinct.sublist (List.filter_sublist.map Prod.fst)

/-- Nothing changes exactly when every name is kept. -/
theorem keep_eq_iff (kept : Text → Bool) (headers : Headers) :
    headers.keep kept = headers ↔ ∀ name ∈ headers.names, kept name = true := by
  obtain ⟨entries, distinct⟩ := headers
  simp [keep, names, List.filter_eq_self]

end Headers

/-! ## Messages -/

/-- `TunnelHttpRequestMessage`. -/
structure TunnelHttpRequestMessage where
  ackId : Numeral
  localRouting : Bool
  channelName : Text
  httpMethod : Text
  url : Text
  headers : Option Headers
  content : Option (List UInt8)
deriving DecidableEq

/-- `TunnelHttpResponseMessage`. -/
structure TunnelHttpResponseMessage where
  ackId : Numeral
  localRouting : Bool
  statusCode : Numeral
  channelName : Text
  notCompleted : Bool
  headers : Option Headers
  content : Option (List UInt8)
deriving DecidableEq

/-- The seven kinds, with the fields of each. -/
inductive TunnelMessageKind where
  | httpRequest (message : TunnelHttpRequestMessage)
  | httpResponse (message : TunnelHttpResponseMessage)
  | serviceStatus (message : Text)
  | connectionReconnect (targetId endpoint message : Text)
  | connectionClose (message : Text)
  | connectionRebalance (targetId endpoint message : Text)
  | connectionConnected (connectionId : Text) (userId reconnectionToken : Option Text)
deriving DecidableEq

/-- `TunnelMessage`, whose `TracingId` every kind has. -/
structure TunnelMessage where
  tracingId : Option Numeral
  kind : TunnelMessageKind
deriving DecidableEq

namespace TunnelMessage

def type (message : TunnelMessage) : TunnelMessageType :=
  match message.kind with
  | .httpRequest _ => .httpRequest
  | .httpResponse _ => .httpResponse
  | .serviceStatus _ => .serviceStatus
  | .connectionReconnect .. => .connectionReconnect
  | .connectionClose _ => .connectionClose
  | .connectionRebalance .. => .connectionRebalance
  | .connectionConnected .. => .connectionConnected

/-- The `Content` of a `TunnelByteContentMessage`; the other kinds have none. -/
def content (message : TunnelMessage) : Option (List UInt8) :=
  match message.kind with
  | .httpRequest request => request.content
  | .httpResponse response => response.content
  | _ => none

/-- The `Headers` of a message. -/
def headers (message : TunnelMessage) : Option Headers :=
  match message.kind with
  | .httpRequest request => request.headers
  | .httpResponse response => response.headers
  | _ => none

end TunnelMessage

/-! ## What `JSON.stringify` sees -/

def numberValue (number : Numeral) : Json := .number number.source

/-- An array of strings. -/
def textsValue (texts : List Text) : Json := .array (texts.map .string)

def headersValue (headers : Headers) : Json :=
  .object (headers.entries.map (fun entry => (entry.1, textsValue entry.2)))

/-- A `Uint8Array`, which JSON takes for an object of its elements. -/
def bytesValue (bytes : List UInt8) : Json :=
  .object (bytes.zipIdx.map
    (fun element => (Nat.toDigits 10 element.2, .number (Nat.toDigits 10 element.1.toNat))))

/-- The properties of an object, with those that are `undefined`. -/
abbrev Slots := List (Text × Option Json)

def typeSlot (type : TunnelMessageType) : Text × Option Json :=
  ("Type".toList, some (.number type.source))

/-- The properties of each kind. The field of the type is set behind those of the parameters. -/
def TunnelMessageKind.slots : TunnelMessageKind → Slots
  | .httpRequest request =>
      [("Content".toList, request.content.map bytesValue),
        ("AckId".toList, some (numberValue request.ackId)),
        ("LocalRouting".toList, some (.bool request.localRouting)),
        ("ChannelName".toList, some (.string request.channelName)),
        ("HttpMethod".toList, some (.string request.httpMethod)),
        ("Url".toList, some (.string request.url)),
        ("Headers".toList, request.headers.map headersValue),
        typeSlot .httpRequest]
  | .httpResponse response =>
      [("Content".toList, response.content.map bytesValue),
        ("AckId".toList, some (numberValue response.ackId)),
        ("LocalRouting".toList, some (.bool response.localRouting)),
        ("StatusCode".toList, some (numberValue response.statusCode)),
        ("ChannelName".toList, some (.string response.channelName)),
        ("NotCompleted".toList, some (.bool response.notCompleted)),
        ("Headers".toList, response.headers.map headersValue),
        typeSlot .httpResponse]
  | .serviceStatus message =>
      [("Message".toList, some (.string message)), typeSlot .serviceStatus]
  | .connectionReconnect targetId endpoint message =>
      [("TargetId".toList, some (.string targetId)),
        ("Endpoint".toList, some (.string endpoint)),
        ("Message".toList, some (.string message)),
        typeSlot .connectionReconnect]
  | .connectionClose message =>
      [("Message".toList, some (.string message)), typeSlot .connectionClose]
  | .connectionRebalance targetId endpoint message =>
      [("TargetId".toList, some (.string targetId)),
        ("Endpoint".toList, some (.string endpoint)),
        ("Message".toList, some (.string message)),
        typeSlot .connectionRebalance]
  | .connectionConnected connectionId userId reconnectionToken =>
      [("ConnectionId".toList, some (.string connectionId)),
        ("UserId".toList, userId.map .string),
        ("ReconnectionToken".toList, reconnectionToken.map .string),
        typeSlot .connectionConnected]

def TunnelMessage.slots (message : TunnelMessage) : Slots :=
  ("TracingId".toList, message.tracingId.map numberValue) :: message.kind.slots

/-- The object behind a message. -/
def TunnelMessage.value (message : TunnelMessage) : Json := Json.record message.slots

/-! ## Reading a parsed object -/

def readNumber : Json → Option Numeral
  | .number source =>
      if numeral : Json.Number.isNumeral source = true then some ⟨source, numeral⟩ else none
  | _ => none

def readBool : Json → Option Bool
  | .bool value => some value
  | _ => none

def readText : Json → Option Text
  | .string text => some text
  | _ => none

def readTexts : Json → Option (List Text)
  | .array items => items.mapM readText
  | _ => none

def readHeaders : Json → Option Headers
  | .object members =>
      (members.mapM (fun member => (readTexts member.2).map (fun values => (member.1, values)))).map
        Headers.ofEntries
  | _ => none

/-- The properties of an object by their names. -/
abbrev Fields := Text → Option Json

namespace Fields

variable {Value : Type}

def required (fields : Fields) (name : String) (read : Json → Option Value) : Option Value :=
  (fields name.toList).bind read

/-- A property that may be absent or `null`. -/
def optional (fields : Fields) (name : String) (read : Json → Option Value) :
    Option (Option Value) :=
  match fields name.toList with
  | none | some .null => some none
  | some value => (read value).map some

def readRequest (fields : Fields) (content : Option (List UInt8)) :
    Option TunnelHttpRequestMessage := do
  return {
    ackId := ← fields.required "AckId" readNumber
    localRouting := ← fields.required "LocalRouting" readBool
    channelName := ← fields.required "ChannelName" Tunnel.readText
    httpMethod := ← fields.required "HttpMethod" Tunnel.readText
    url := ← fields.required "Url" Tunnel.readText
    headers := ← fields.optional "Headers" readHeaders
    content }

def readResponse (fields : Fields) (content : Option (List UInt8)) :
    Option TunnelHttpResponseMessage := do
  return {
    ackId := ← fields.required "AckId" readNumber
    localRouting := ← fields.required "LocalRouting" readBool
    statusCode := ← fields.required "StatusCode" readNumber
    channelName := ← fields.required "ChannelName" Tunnel.readText
    notCompleted := ← fields.required "NotCompleted" readBool
    headers := ← fields.optional "Headers" readHeaders
    content }

def readConnected (fields : Fields) : Option TunnelMessageKind := do
  return .connectionConnected (← fields.required "ConnectionId" Tunnel.readText)
    (← fields.optional "UserId" Tunnel.readText)
    (← fields.optional "ReconnectionToken" Tunnel.readText)

/-- The three texts that an order to another target has. -/
def readRetarget (fields : Fields) (kind : Text → Text → Text → TunnelMessageKind) :
    Option TunnelMessageKind := do
  return kind (← fields.required "TargetId" Tunnel.readText)
    (← fields.required "Endpoint" Tunnel.readText) (← fields.required "Message" Tunnel.readText)

def readMessage (fields : Fields) : Option Text := fields.required "Message" Tunnel.readText

/-- The fields under the type that the property `Type` names. -/
def readKind (fields : Fields) (content : Option (List UInt8)) : Option TunnelMessageKind := do
  let type ← fields.required "Type" readNumber
  if type.source = TunnelMessageType.httpRequest.source then
    (fields.readRequest content).map .httpRequest
  else if type.source = TunnelMessageType.httpResponse.source then
    (fields.readResponse content).map .httpResponse
  else if type.source = TunnelMessageType.serviceStatus.source then
    fields.readMessage.map .serviceStatus
  else if type.source = TunnelMessageType.connectionReconnect.source then
    fields.readRetarget .connectionReconnect
  else if type.source = TunnelMessageType.connectionClose.source then
    fields.readMessage.map .connectionClose
  else if type.source = TunnelMessageType.connectionRebalance.source then
    fields.readRetarget .connectionRebalance
  else if type.source = TunnelMessageType.connectionConnected.source then fields.readConnected
  else none

/-- The message that an object with these properties is. -/
def readTunnelMessage (fields : Fields) (content : Option (List UInt8)) : Option TunnelMessage := do
  return ⟨← fields.optional "TracingId" readNumber, ← fields.readKind content⟩

end Fields

/-! ## Reading what was written -/

@[simp]
theorem readNumber_numberValue (number : Numeral) : readNumber (numberValue number) = some number := by
  obtain ⟨source, numeral⟩ := number
  simp [readNumber, numberValue, numeral]

theorem readTexts_textsValue (texts : List Text) : readTexts (textsValue texts) = some texts := by
  change (texts.map Json.string).mapM readText = some texts
  induction texts with
  | nil => rfl
  | cons text texts inductionHypothesis =>
    rw [List.map_cons, List.mapM_cons, inductionHypothesis]
    rfl

theorem readHeaders_headersValue (headers : Headers) :
    readHeaders (headersValue headers) = some headers := by
  obtain ⟨entries, distinct⟩ := headers
  have members : (entries.map (fun entry => (entry.1, textsValue entry.2))).mapM
      (fun member => (readTexts member.2).map (fun values => (member.1, values))) =
      some entries := by
    clear distinct
    induction entries with
    | nil => rfl
    | cons entry entries inductionHypothesis =>
      simp [readTexts_textsValue, inductionHypothesis]
  have same : Headers.ofEntries entries = ⟨entries, distinct⟩ := by
    simp [Headers.ofEntries, Headers.lastEntries_of_distinct distinct]
  simp only [readHeaders, headersValue]
  rw [members, Option.map_some, same]

end WebPubSub.Tunnel
