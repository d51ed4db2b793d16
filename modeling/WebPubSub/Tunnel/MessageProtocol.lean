import WebPubSub.Library.MsgPack
import WebPubSub.Tunnel.Messages

/-!
# The encoding of tunnel messages

`TunnelMessageProtocol.ts`: a message is an array of its type, its JSON without the body,
and the body, behind a length of four bytes. The length is written without a sign and read
with one, and the replacer that leaves the body out goes by the name `Content` wherever it
meets it.

MessagePack is outside the repository. Nothing is assumed of it but that it reads back what
it wrote, and that it takes no part of an encoding for a whole one. JavaScript's limits on
the size of a buffer are left out.
-/

namespace WebPubSub.Tunnel

open Json (Numeral)
open MsgPack (Bytes Scalar)

/-- `encode` and `decode` of a flat array, which throw by giving `none`. -/
structure Packing where
  encode : List Scalar → Option Bytes
  decode : Bytes → Option (List Scalar)
  inverts : ∀ {items bytes}, encode items = some bytes → decode bytes = some items
  truncated : ∀ {items bytes part}, encode items = some bytes → part <+: bytes → part ≠ bytes →
    decode part = none

/-- MessagePack itself. -/
def Packing.msgPack : Packing where
  encode := MsgPack.encode
  decode := MsgPack.decode
  inverts := MsgPack.decode_encode
  truncated := MsgPack.decode_truncated

/-! ## Writing -/

/-- The name that the replacer leaves out. -/
def isContent (key : Text) : Bool := key = "Content".toList

/-- `setUint32` at the start of a buffer, the lowest byte first. -/
def setUint32 (value : Nat) : Bytes :=
  [UInt8.ofNat value, UInt8.ofNat (value / 256), UInt8.ofNat (value / 65536),
    UInt8.ofNat (value / 16777216)]

/-- The array that a message is written as. -/
def elements (message : TunnelMessage) : List Scalar :=
  [.integer message.type.number, .text (message.value.without isContent).stringify,
    match message.content with
    | some bytes => .binary bytes
    | none => .nil]

/-- `getBytes`. -/
def getBytes (packing : Packing) (message : TunnelMessage) : Option Bytes :=
  (packing.encode (elements message)).map (fun encodedMessage =>
    setUint32 encodedMessage.length ++ encodedMessage)

/-! ## Reading -/

/-- `getInt32` at the start of a buffer; it throws when the buffer is too short. -/
def getInt32 : Bytes → Option Int
  | first :: second :: third :: fourth :: _ =>
      let value : Nat := first.toNat + second.toNat * 256 + third.toNat * 65536 +
        fourth.toNat * 16777216
      some (if value < 2147483648 then value else (value : Int) - 4294967296)
  | _ => none

/-- `slice` of a typed array: an end below zero counts from the end. -/
def slice (data : Bytes) (start : Nat) (stop : Int) : Bytes :=
  (data.take (if stop < 0 then data.length + stop else stop).toNat).drop start

/-- A parsed object, and the bytes that were set as its `Content`. -/
structure ParsedMessage where
  json : Json
  content : Option Bytes

/-- The object as a message of the declared type. -/
def ParsedMessage.message (parsed : ParsedMessage) : Option TunnelMessage :=
  Fields.readTunnelMessage parsed.json.property parsed.content

/-- Setting `Content`, which throws on what is not an object. -/
def setContent (body : Option Bytes) : Json → Option ParsedMessage
  | .object members => some ⟨.object members, body⟩
  | .array items => some ⟨.array items, body⟩
  | _ => none

/-- The first element of the array, when it is a number. -/
def typeOf : Option Scalar → Option Nat
  | some (.integer type) => some type
  | _ => none

/-- The second element, which `JSON.parse` reads. -/
def jsonOf : Option Scalar → Option Json
  | some (.text text) => Json.parse text
  | _ => none

/-- The third element. -/
def bodyOf : Option Scalar → Option Bytes
  | some (.binary bytes) => some bytes
  | _ => none

/-- The branches of `parseMessage`: `some none` for an unknown type. -/
def parseArray (array : List Scalar) : Option (Option ParsedMessage) :=
  let json := jsonOf array[1]?
  let body := bodyOf array[2]?
  match typeOf array[0]? with
  | some 1 => (json.bind (setContent body)).map some
  | some 2 => (json.bind (setContent body)).map some
  | some 5 => json.map (fun json => some ⟨json, none⟩)
  | some 6 => json.map (fun json => some ⟨json, none⟩)
  | some 7 => json.map (fun json => some ⟨json, none⟩)
  | some 10 => json.map (fun json => some ⟨json, none⟩)
  | some 8 => json.map (fun json => some ⟨json, none⟩)
  | _ => some none

/-- `parseMessage`: `none` when it throws. -/
def parseMessage (packing : Packing) (data : Bytes) : Option (Option ParsedMessage) :=
  (getInt32 (slice data 0 4)).bind (fun length =>
    (packing.decode (slice data 4 (length + 4))).bind parseArray)

/-- The message that is read from bytes. -/
def readBytes (packing : Packing) (data : Bytes) : Option TunnelMessage :=
  (parseMessage packing data).join.bind ParsedMessage.message

/-! ## The length -/

theorem slice_header (length : Nat) (rest : Bytes) :
    slice (setUint32 length ++ rest) 0 4 = setUint32 length := by
  simp [slice, setUint32]

/-- A length is read back with the sign of its highest bit. -/
theorem getInt32_setUint32 {length : Nat} (bounded : length < 4294967296) :
    getInt32 (setUint32 length) =
      some (if length < 2147483648 then (length : Int) else (length : Int) - 4294967296) := by
  have spelled : length % 256 + length / 256 % 256 * 256 + length / 65536 % 256 * 65536 +
      length / 16777216 % 256 * 16777216 = length := by omega
  simp [getInt32, setUint32, spelled]

/-- A length below 2^31 gives all that follows it. -/
theorem slice_short (encoded : Bytes) :
    slice (setUint32 encoded.length ++ encoded) 4 (encoded.length + 4) = encoded := by
  have positive : ¬((encoded.length : Int) + 4 < 0) := by omega
  have whole : ((encoded.length : Int) + 4).toNat = encoded.length + 4 := by omega
  rw [slice, if_neg positive, whole]
  simp [setUint32]

/-- A longer one is negative, and something is missing at the end. -/
theorem slice_long {encoded : Bytes} (long : 2147483648 ≤ encoded.length)
    (bounded : encoded.length < 4294967296) :
    slice (setUint32 encoded.length ++ encoded) 4 ((encoded.length : Int) - 4294967296 + 4) <+:
        encoded ∧
      slice (setUint32 encoded.length ++ encoded) 4 ((encoded.length : Int) - 4294967296 + 4) ≠
        encoded := by
  have start : (setUint32 encoded.length).length = 4 := rfl
  have shape (count : Nat) (short : count < encoded.length + 4) :
      ((setUint32 encoded.length ++ encoded).take count).drop 4 <+: encoded ∧
        ((setUint32 encoded.length ++ encoded).take count).drop 4 ≠ encoded := by
    have tail : (setUint32 encoded.length ++ encoded).drop 4 = encoded := by
      rw [← start, List.drop_left]
    have cut : ((setUint32 encoded.length ++ encoded).take count).drop 4 =
        encoded.take (count - 4) := by
      rw [List.drop_take, tail]
    constructor
    · rw [cut]
      exact List.take_prefix _ _
    · intro whole
      have lengths := congrArg List.length (cut.symm.trans whole)
      rw [List.length_take] at lengths
      omega
  apply shape
  rw [List.length_append, start]
  split
  · push_cast
    omega
  · omega

/-! ## The text -/

/-- What is left of a message whose headers named `Content` are left out. -/
def stripped (message : TunnelMessage) : TunnelMessage :=
  let strip := Option.map (Headers.keep (fun name => !isContent name))
  match message.kind with
  | .httpRequest request =>
      ⟨message.tracingId, .httpRequest { request with headers := strip request.headers }⟩
  | .httpResponse response =>
      ⟨message.tracingId, .httpResponse { response with headers := strip response.headers }⟩
  | _ => message

theorem textsValue_without (left : Text → Bool) (texts : List Text) :
    (textsValue texts).without left = textsValue texts := by
  unfold textsValue
  rw [Json.without]
  congr 1
  induction texts with
  | nil => rfl
  | cons text texts inductionHypothesis =>
    rw [List.map_cons, Json.withoutItems, inductionHypothesis]
    rfl

theorem headersValue_without (left : Text → Bool) (headers : Headers) :
    (headersValue headers).without left = headersValue (headers.keep (fun name => !left name)) := by
  obtain ⟨entries, distinct⟩ := headers
  simp only [headersValue, Headers.keep, Json.without]
  congr 1
  clear distinct
  induction entries with
  | nil => rfl
  | cons entry entries inductionHypothesis =>
    cases dropped : left entry.1 <;>
      simp [Json.withoutMembers, Json.withoutMember, dropped, inductionHypothesis,
        textsValue_without]

theorem textsValue_numeric (texts : List Text) : (textsValue texts).numeric = true := by
  unfold textsValue
  rw [Json.numeric]
  induction texts with
  | nil => rfl
  | cons text texts inductionHypothesis => exact inductionHypothesis

theorem headersValue_numeric (headers : Headers) : (headersValue headers).numeric = true := by
  obtain ⟨entries, distinct⟩ := headers
  simp only [headersValue, Json.numeric]
  clear distinct
  induction entries with
  | nil => rfl
  | cons entry entries inductionHypothesis =>
    simp [Json.numericMembers, Json.numericMember, textsValue_numeric, inductionHypothesis]

/-- The properties that the replacer leaves. -/
def textSlots (message : TunnelMessage) : Slots :=
  (stripped message).slots.filter (fun slot => !isContent slot.1)

/-- The text without the body is that of the stripped message without its body. -/
theorem value_without (message : TunnelMessage) :
    message.value.without isContent = Json.record (textSlots message) := by
  obtain ⟨tracingId, kind⟩ := message
  have number : (tracingId.map numberValue).map (Json.without isContent) =
      tracingId.map numberValue := by
    cases tracingId <;> rfl
  have text (value : Option Text) : (value.map Json.string).map (Json.without isContent) =
      value.map Json.string := by
    cases value <;> rfl
  have headers (value : Option Headers) : (value.map headersValue).map (Json.without isContent) =
      (value.map (Headers.keep (fun name => !isContent name))).map headersValue := by
    cases value with
    | none => rfl
    | some value => exact congrArg some (headersValue_without isContent value)
  rw [TunnelMessage.value, Json.without_record]
  congr 1
  cases kind <;>
    simp [textSlots, stripped, TunnelMessage.slots, TunnelMessageKind.slots, typeSlot, isContent,
      numberValue, Json.without, number, text, headers]

/-- Every number that is written is a numeral. -/
theorem textSlots_numeric (message : TunnelMessage) :
    ∀ slot ∈ textSlots message, ∀ value ∈ slot.2, value.numeric = true := by
  obtain ⟨tracingId, kind⟩ := message
  have number (value : Numeral) : (numberValue value).numeric = true := value.numeral
  cases kind <;>
    simp [textSlots, stripped, TunnelMessage.slots, TunnelMessageKind.slots, typeSlot, isContent,
      number, TunnelMessageType.numeral_source, headersValue_numeric, Json.numeric]

theorem textSlots_distinct (message : TunnelMessage) :
    ((textSlots message).map Prod.fst).Nodup := by
  obtain ⟨tracingId, kind⟩ := message
  cases kind <;>
    simp [textSlots, stripped, TunnelMessage.slots, TunnelMessageKind.slots, typeSlot, isContent]

/-- The text is read back without the body. -/
theorem parse_text (message : TunnelMessage) :
    Json.parse (message.value.without isContent).stringify =
      some (Json.record (textSlots message)) := by
  rw [value_without]
  exact Json.parse_stringify (Json.numeric_record (textSlots_numeric message))

/-! ## The round trip -/

/-- An optional property is read as it was given. -/
theorem optional_of {Value : Type} {fields : Fields} {name : String} {read : Json → Option Value}
    {write : Value → Json} {value : Option Value}
    (given : fields name.toList = value.map write) (reads : ∀ value, read (write value) = some value)
    (present : ∀ value, write value ≠ .null) : fields.optional name read = some value := by
  rw [Fields.optional, given]
  cases value with
  | none => rfl
  | some value =>
    rw [Option.map_some]
    split
    · rename_i absent
      cases absent
    · rename_i null
      exact absurd (Option.some.inj null) (present value)
    · rename_i other _ same
      rw [← Option.some.inj same, reads, Option.map_some]

/-- Any other property. -/
theorem required_of {Value : Type} {fields : Fields} {name : String} {read : Json → Option Value}
    {value : Json} {result : Option Value} (given : fields name.toList = some value)
    (reads : read value = result) : fields.required name read = result := by
  rw [Fields.required, given, Option.bind_some, reads]

/-- The properties that are read from the text. -/
def textFields (message : TunnelMessage) : Fields :=
  fun name => ((textSlots message).lookup name).join

theorem read_tracingId (message : TunnelMessage) :
    (textFields message).optional "TracingId" readNumber = some message.tracingId := by
  have given : textFields message "TracingId".toList = message.tracingId.map numberValue := by
    obtain ⟨tracingId, kind⟩ := message
    cases kind <;> simp [textFields, textSlots, stripped, TunnelMessage.slots, isContent]
  exact optional_of given readNumber_numberValue (by intro value null; cases null)

theorem read_type (message : TunnelMessage) :
    (textFields message).required "Type" readNumber = readNumber (.number message.type.source) := by
  have given : textFields message "Type".toList = some (.number message.type.source) := by
    obtain ⟨tracingId, kind⟩ := message
    cases kind <;> rfl
  exact required_of given rfl

theorem read_headers (message : TunnelMessage) :
    (textFields message).optional "Headers" readHeaders = some (stripped message).headers := by
  have given : textFields message "Headers".toList =
      (stripped message).headers.map headersValue := by
    obtain ⟨tracingId, kind⟩ := message
    cases kind <;> rfl
  exact optional_of given readHeaders_headersValue (by intro value null; cases null)

section Kinds

variable {tracingId : Option Numeral} {fields : Fields}

theorem read_request (request : TunnelHttpRequestMessage)
    (written : fields = textFields ⟨tracingId, .httpRequest request⟩) :
    fields.readRequest request.content =
      some { request with
        headers := request.headers.map (Headers.keep (fun name => !isContent name)) } := by
  have ackId : fields.required "AckId" readNumber = some request.ackId := by
    subst written
    exact required_of rfl (readNumber_numberValue _)
  have localRouting : fields.required "LocalRouting" readBool = some request.localRouting := by
    subst written
    exact required_of rfl rfl
  have channelName : fields.required "ChannelName" readText = some request.channelName := by
    subst written
    exact required_of rfl rfl
  have httpMethod : fields.required "HttpMethod" readText = some request.httpMethod := by
    subst written
    exact required_of rfl rfl
  have url : fields.required "Url" readText = some request.url := by
    subst written
    exact required_of rfl rfl
  have headers : fields.optional "Headers" readHeaders =
      some (request.headers.map (Headers.keep (fun name => !isContent name))) := by
    subst written
    exact read_headers ⟨tracingId, .httpRequest request⟩
  simp [Fields.readRequest, ackId, localRouting, channelName, httpMethod, url, headers]

theorem read_response (response : TunnelHttpResponseMessage)
    (written : fields = textFields ⟨tracingId, .httpResponse response⟩) :
    fields.readResponse response.content =
      some { response with
        headers := response.headers.map (Headers.keep (fun name => !isContent name)) } := by
  have ackId : fields.required "AckId" readNumber = some response.ackId := by
    subst written
    exact required_of rfl (readNumber_numberValue _)
  have localRouting : fields.required "LocalRouting" readBool = some response.localRouting := by
    subst written
    exact required_of rfl rfl
  have statusCode : fields.required "StatusCode" readNumber = some response.statusCode := by
    subst written
    exact required_of rfl (readNumber_numberValue _)
  have channelName : fields.required "ChannelName" readText = some response.channelName := by
    subst written
    exact required_of rfl rfl
  have notCompleted : fields.required "NotCompleted" readBool = some response.notCompleted := by
    subst written
    exact required_of rfl rfl
  have headers : fields.optional "Headers" readHeaders =
      some (response.headers.map (Headers.keep (fun name => !isContent name))) := by
    subst written
    exact read_headers ⟨tracingId, .httpResponse response⟩
  simp [Fields.readResponse, ackId, localRouting, statusCode, channelName, notCompleted, headers]

/-- The text of a status or a close. -/
theorem read_message {text : Text} (given : fields "Message".toList = some (.string text)) :
    fields.readMessage = some text := required_of given rfl

theorem read_retarget {kind : Text → Text → Text → TunnelMessageKind}
    {targetId endpoint message : Text}
    (target : fields "TargetId".toList = some (.string targetId))
    (place : fields "Endpoint".toList = some (.string endpoint))
    (given : fields "Message".toList = some (.string message)) :
    fields.readRetarget kind = some (kind targetId endpoint message) := by
  have targetRead : fields.required "TargetId" readText = some targetId := required_of target rfl
  have placeRead : fields.required "Endpoint" readText = some endpoint := required_of place rfl
  have givenRead : fields.required "Message" readText = some message := required_of given rfl
  simp [Fields.readRetarget, targetRead, placeRead, givenRead]

theorem read_connected {connectionId : Text} {userId reconnectionToken : Option Text}
    (connection : fields "ConnectionId".toList = some (.string connectionId))
    (user : fields "UserId".toList = userId.map .string)
    (token : fields "ReconnectionToken".toList = reconnectionToken.map .string) :
    fields.readConnected = some (.connectionConnected connectionId userId reconnectionToken) := by
  have connectionRead : fields.required "ConnectionId" readText = some connectionId :=
    required_of connection rfl
  have present (text : Text) : Json.string text ≠ .null := by
    intro null
    cases null
  have userRead : fields.optional "UserId" readText = some userId :=
    optional_of user (fun _ => rfl) present
  have tokenRead : fields.optional "ReconnectionToken" readText = some reconnectionToken :=
    optional_of token (fun _ => rfl) present
  simp [Fields.readConnected, connectionRead, userRead, tokenRead]

end Kinds

theorem read_kind (message : TunnelMessage) :
    (textFields message).readKind message.content = some (stripped message).kind := by
  have type := read_type message
  rw [readNumber, dif_pos (TunnelMessageType.numeral_source message.type)] at type
  simp only [Fields.readKind, type, Option.bind_eq_bind, Option.bind_some,
    TunnelMessageType.source_inj]
  obtain ⟨tracingId, kind⟩ := message
  cases kind with
  | httpRequest request =>
    exact congrArg (Option.map TunnelMessageKind.httpRequest) (read_request request rfl)
  | httpResponse response =>
    exact congrArg (Option.map TunnelMessageKind.httpResponse) (read_response response rfl)
  | serviceStatus text =>
    have read : (textFields ⟨tracingId, .serviceStatus text⟩).readMessage = some text :=
      read_message rfl
    exact congrArg (Option.map TunnelMessageKind.serviceStatus) read
  | connectionReconnect targetId endpoint text => exact read_retarget rfl rfl rfl
  | connectionClose text =>
    have read : (textFields ⟨tracingId, .connectionClose text⟩).readMessage = some text :=
      read_message rfl
    exact congrArg (Option.map TunnelMessageKind.connectionClose) read
  | connectionRebalance targetId endpoint text => exact read_retarget rfl rfl rfl
  | connectionConnected connectionId userId reconnectionToken =>
    have user : textFields ⟨tracingId, .connectionConnected connectionId userId
        reconnectionToken⟩ "UserId".toList = userId.map .string := rfl
    have token : textFields ⟨tracingId, .connectionConnected connectionId userId
        reconnectionToken⟩ "ReconnectionToken".toList = reconnectionToken.map .string := rfl
    exact read_connected rfl user token

/-- A message is found again in its own properties. -/
theorem read_textFields (message : TunnelMessage) :
    (textFields message).readTunnelMessage message.content = some (stripped message) := by
  have tracingRead := read_tracingId message
  have kindRead := read_kind message
  have same : (stripped message).tracingId = message.tracingId := by
    obtain ⟨tracingId, kind⟩ := message
    cases kind <;> rfl
  simp [Fields.readTunnelMessage, tracingRead, kindRead, ← same]

/-- The array of a message is parsed to its stripped text and its body. -/
theorem parseArray_elements (message : TunnelMessage) :
    parseArray (elements message) =
      some (some ⟨Json.record (textSlots message), message.content⟩) := by
  have json : jsonOf (elements message)[1]? = some (Json.record (textSlots message)) :=
    parse_text message
  have body : bodyOf (elements message)[2]? = message.content := by
    unfold elements
    cases message.content <;> rfl
  have type : typeOf (elements message)[0]? = some message.type.number := rfl
  simp only [parseArray, json, body, type]
  obtain ⟨tracingId, kind⟩ := message
  cases kind <;> rfl

/-- What is written with a length below 2^31 is read without the headers that are named
`Content`. -/
theorem readBytes_short (packing : Packing) {message : TunnelMessage} {encoded : Bytes}
    (written : packing.encode (elements message) = some encoded)
    (short : encoded.length < 2147483648) :
    readBytes packing (setUint32 encoded.length ++ encoded) = some (stripped message) := by
  have length : getInt32 (setUint32 encoded.length) = some (encoded.length : Int) := by
    rw [getInt32_setUint32 (by omega), if_pos short]
  have parsed : parseMessage packing (setUint32 encoded.length ++ encoded) =
      some (some ⟨Json.record (textSlots message), message.content⟩) := by
    rw [parseMessage, slice_header, length, Option.bind_some, slice_short,
      packing.inverts written, Option.bind_some, parseArray_elements]
  have given : (Json.record (textSlots message)).property = textFields message := by
    funext name
    exact Json.property_record (textSlots_distinct message) name
  rw [readBytes, parsed, Option.join_some, Option.bind_some, ParsedMessage.message, given]
  exact read_textFields message

/-- What is written with a longer length is not read. -/
theorem readBytes_long (packing : Packing) {message : TunnelMessage} {encoded : Bytes}
    (written : packing.encode (elements message) = some encoded)
    (long : ¬encoded.length < 2147483648) (bounded : encoded.length < 4294967296) :
    readBytes packing (setUint32 encoded.length ++ encoded) = none := by
  have length : getInt32 (setUint32 encoded.length) =
      some ((encoded.length : Int) - 4294967296) := by
    rw [getInt32_setUint32 bounded, if_neg long]
  obtain ⟨cut, missing⟩ := slice_long (Nat.le_of_not_lt long) bounded
  have refused : packing.decode (slice (setUint32 encoded.length ++ encoded) 4
      ((encoded.length : Int) - 4294967296 + 4)) = none := packing.truncated written cut missing
  have thrown : parseMessage packing (setUint32 encoded.length ++ encoded) = none := by
    rw [parseMessage, slice_header, length, Option.bind_some, refused, Option.bind_none]
  rw [readBytes, thrown]
  rfl

/-- Nothing is left out of a message exactly when none of its headers is named `Content`. -/
theorem stripped_eq_iff (message : TunnelMessage) :
    stripped message = message ↔
      ∀ headers ∈ message.headers, "Content".toList ∉ headers.names := by
  have kept (headers : Option Headers) :
      headers.map (Headers.keep (fun name => !isContent name)) = headers ↔
        ∀ listed ∈ headers, "Content".toList ∉ listed.names := by
    cases headers with
    | none => simp
    | some headers =>
      rw [Option.map_some, Option.some.injEq, Headers.keep_eq_iff]
      simp only [isContent, Option.mem_def, Option.some.injEq, forall_eq', Bool.not_eq_true',
        decide_eq_false_iff_not]
      constructor
      · intro others listed
        exact others _ listed rfl
      · intro absent name listed named
        exact absent (named ▸ listed)
  obtain ⟨tracingId, kind⟩ := message
  cases kind with
  | httpRequest request =>
    obtain ⟨ackId, localRouting, channelName, httpMethod, url, headers, content⟩ := request
    simpa [stripped, TunnelMessage.headers] using kept headers
  | httpResponse response =>
    obtain ⟨ackId, localRouting, statusCode, channelName, notCompleted, headers, content⟩ :=
      response
    simpa [stripped, TunnelMessage.headers] using kept headers
  | _ => simp [stripped, TunnelMessage.headers]

/-- The round trip holds exactly for the messages none of whose headers is named `Content`,
up to an encoded length of 2^31. -/
theorem readBytes_getBytes (packing : Packing) (message : TunnelMessage) {encoded : Bytes}
    (written : packing.encode (elements message) = some encoded)
    (bounded : encoded.length < 4294967296) :
    (getBytes packing message).bind (readBytes packing) = some message ↔
      (∀ headers ∈ message.headers, "Content".toList ∉ headers.names) ∧
        encoded.length < 2147483648 := by
  rw [getBytes, written, Option.map_some, Option.bind_some]
  by_cases short : encoded.length < 2147483648
  · rw [readBytes_short packing written short, Option.some.injEq, stripped_eq_iff]
    simp [short]
  · rw [readBytes_long packing written short bounded]
    simp [short]

/-- A request with a body and one header. -/
def sampleRequest (header : Text) : TunnelMessage :=
  ⟨none, .httpRequest
    { ackId := ⟨['7'], rfl⟩
      localRouting := true
      channelName := "hub".toList
      httpMethod := "POST".toList
      url := "http://host/eventhandler".toList
      headers := some (Headers.ofEntries [(header, ["text".toList])])
      content := some [104, 105] }⟩

/-- The encoding of the sample. -/
def sampleEncoding (header : Text) : Bytes :=
  (MsgPack.encode (elements (sampleRequest header))).getD []

theorem readBytes_getBytes_sample :
    (getBytes .msgPack (sampleRequest "Accept".toList)).bind (readBytes .msgPack) =
      some (sampleRequest "Accept".toList) := by
  have written : Packing.msgPack.encode (elements (sampleRequest "Accept".toList)) =
      some (sampleEncoding "Accept".toList) := by decide +kernel
  have short : (sampleEncoding "Accept".toList).length < 2147483648 := by decide +kernel
  apply (readBytes_getBytes .msgPack _ written (by omega)).mpr
  constructor
  · intro headers listed
    cases listed
    decide
  · exact short

/-- A header named `Content` is lost. -/
theorem content_header_lost : ∃ encoded,
    Packing.msgPack.encode (elements (sampleRequest "Content".toList)) = some encoded ∧
      encoded.length < 4294967296 ∧
      (getBytes .msgPack (sampleRequest "Content".toList)).bind (readBytes .msgPack) ≠
        some (sampleRequest "Content".toList) := by
  refine ⟨sampleEncoding "Content".toList, ?_, ?_, ?_⟩
  · decide +kernel
  · decide +kernel
  · decide +kernel

end WebPubSub.Tunnel
