import WebPubSub.Reliable.Client

/-!
# Messages of the service

The messages that the service sends on a connection of the reliable subprotocol, their texts,
and what `Listen` makes of them: the first connected message is recorded, and what becomes of
any later message depends on its number alone, however the transport cuts its text into frames.
-/

namespace WebPubSub.Reliable

/-- The members of a message that the service gives no number. -/
structure Body where
  members : List (Text × Json)
  numeric : Json.numericMembers members = true
  distinct : (members.map Prod.fst).Nodup
  unnumbered : "sequenceId".toList ∉ members.map Prod.fst

inductive Sent where
  | connected (userId : Option Text) (connectionId reconnectionToken : Text)
  | message (body : Body) (sequenceId : Nat)
  | notice (body : Body)

namespace Sent

def json : Sent → Json
  | .connected userId connectionId reconnectionToken =>
      Json.record [("type".toList, some (.string "system".toList)),
        ("event".toList, some (.string "connected".toList)),
        ("userId".toList, userId.map .string),
        ("connectionId".toList, some (.string connectionId)),
        ("reconnectionToken".toList, some (.string reconnectionToken))]
  | .message body sequenceId =>
      .object (("sequenceId".toList, .number (Nat.toDigits 10 sequenceId)) :: body.members)
  | .notice body => .object body.members

def text (sent : Sent) : Text := sent.json.stringify

/-- A message that is numbered. -/
def numbered? : Sent → Option (Body × Nat)
  | .message body sequenceId => some (body, sequenceId)
  | .connected _ _ _ | .notice _ => none

end Sent

/-- A text that a reader finds a sequence id in. -/
def isNumbered (text : Text) : Bool :=
  (Json.parse text).any (fun json => (item json "sequenceId".toList).join.isSome)

/-- The frames of a text message, none longer than the buffer. -/
def Frames (buffer : Bytes) (frames : List WebSocketReceiveResult) (text : Text) : Prop :=
  frames.flatMap WebSocketReceiveResult.written = Utf8.encode text ∧
    frames.map WebSocketReceiveResult.endOfMessage =
      List.replicate (frames.length - 1) false ++ [true] ∧
    ∀ frame ∈ frames, frame.messageType = .text ∧ frame.written.length ≤ buffer.length

instance (buffer : Bytes) (frames : List WebSocketReceiveResult) (text : Text) :
    Decidable (Frames buffer frames text) := inferInstanceAs (Decidable (_ ∧ _ ∧ _))

/-! ## What the client makes of them -/

namespace Sent

theorem numeric_json (sent : Sent) : sent.json.numeric = true := by
  cases sent with
  | connected userId connectionId reconnectionToken =>
    refine Json.numeric_record ?_
    cases userId <;> simp [Json.numeric]
  | message body sequenceId =>
    simp [json, Json.numeric, Json.numericMembers, Json.numericMember, body.numeric,
      Json.Number.isNumeral_toDigits]
  | notice body => exact body.numeric

theorem parse_text (sent : Sent) : Json.parse sent.text = some sent.json :=
  Json.parse_stringify sent.numeric_json

/-- The sequence id that `Listen` reads. -/
theorem item_sequenceId (sent : Sent) :
    item sent.json "sequenceId".toList =
      some (sent.numbered?.map (fun entry => .number (Nat.toDigits 10 entry.2))) := by
  cases sent with
  | connected userId connectionId reconnectionToken =>
    cases userId <;> rfl
  | message body sequenceId =>
    have distinct : ("sequenceId".toList :: body.members.map Prod.fst).Nodup :=
      List.nodup_cons.mpr ⟨body.unnumbered, body.distinct⟩
    simp only [json, item, List.map_cons, if_pos distinct]
    rw [List.find?_cons_of_pos (by exact decide_eq_true rfl)]
    rfl
  | notice body =>
    have absent : body.members.find? (fun member => member.1 = "sequenceId".toList) = none := by
      apply List.find?_eq_none.mpr
      intro member listed same
      exact body.unnumbered (of_decide_eq_true same ▸ List.mem_map_of_mem listed)
    simp only [json, item, if_pos body.distinct, absent]
    rfl

theorem isNumbered_text (sent : Sent) : isNumbered sent.text = sent.numbered?.isSome := by
  rw [isNumbered, parse_text, Option.any_some, item_sequenceId]
  cases sent.numbered? <;> rfl

end Sent

theorem getUlong_toDigits (number : Nat) :
    getUlong (.number (Nat.toDigits 10 number)) =
      if number < ulongSize then some number else none := by
  have digits : (Nat.toDigits 10 number).all Char.isDigit = true :=
    List.all_eq_true.mpr (fun char listed =>
      Nat.isDigit_of_mem_toDigits (by decide) (by decide) listed)
  simp only [getUlong, digits, true_and, Nat.ofDigitChars_ten_toDigits]

namespace Client

variable {written : Json → Text} {client : Client}

/-- The first connected message is recorded and handed over. -/
theorem handle_connected (fresh : client.initialized = false) (userId : Option Text)
    (connectionId reconnectionToken : Text) :
    client.handle written (Sent.connected userId connectionId reconnectionToken).text =
      ({ client with
          connectionId := some connectionId
          reconnectionToken := some reconnectionToken
          initialized := true },
        .handled none (some (Sent.connected userId connectionId reconnectionToken).text)) := by
  have read (key : Text) : item (Sent.connected userId connectionId reconnectionToken).json key =
      some ((([("type".toList, some (Json.string "system".toList)),
        ("event".toList, some (.string "connected".toList)),
        ("userId".toList, userId.map .string),
        ("connectionId".toList, some (.string connectionId)),
        ("reconnectionToken".toList, some (.string reconnectionToken))].filterMap
          (fun slot => slot.2.map (fun value => (slot.1, value)))).find?
            (fun member => member.1 = key)).map Prod.snd |>.bind node) := by
    cases userId <;> rfl
  have sequence := Sent.item_sequenceId (.connected userId connectionId reconnectionToken)
  rw [handle, Sent.parse_text]
  simp only [readConnected, fresh, readSequence, sequence]
  cases userId <;> simp [itemText, read, node, Sent.numbered?]

/-- After that, what becomes of a message depends on its number alone. -/
theorem handle_sent (known : client.initialized = true) (sent : Sent) :
    client.handle written sent.text =
      match sent.numbered? with
      | none => (client, .handled none (some sent.text))
      | some (_, sequenceId) =>
          if sequenceId < ulongSize then
            if client.latestSequenceId < sequenceId then
              ({ client with latestSequenceId := sequenceId },
                .handled (some sequenceId) (some sent.text))
            else (client, .handled (some client.latestSequenceId) none)
          else (client, .ended) := by
  rw [handle, Sent.parse_text]
  simp only [readConnected, known, if_true, readSequence, Sent.item_sequenceId]
  cases numbering : sent.numbered? with
  | none => rfl
  | some entry =>
    simp only [Option.map_some, getUlong_toDigits]
    by_cases small : entry.2 < ulongSize
    · by_cases later : client.latestSequenceId < entry.2 <;> simp [small, later]
    · simp [small]

/-- However a text is cut into frames, `Listen` handles the text. -/
theorem listen_frames {buffer : Bytes} {frames : List WebSocketReceiveResult} {text : Text}
    (cut : Frames buffer frames text) :
    client.listen written buffer frames = some (client.handle written text) := by
  obtain ⟨bytes, ends, texts⟩ := cut
  rcases List.eq_nil_or_concat frames with rfl | ⟨front, last, rfl⟩
  · simp at ends
  · rw [List.concat_eq_append] at bytes ends texts ⊢
    have split : front.map WebSocketReceiveResult.endOfMessage =
        List.replicate front.length false ∧ last.endOfMessage = true := by
      have shape : front.map WebSocketReceiveResult.endOfMessage ++ [last.endOfMessage] =
          List.replicate front.length false ++ [true] := by simpa using ends
      obtain ⟨first, second⟩ := List.append_inj shape (by simp)
      exact ⟨first, List.head_eq_of_cons_eq second⟩
    have more : ∀ frame ∈ front, frame.endOfMessage = false := by
      intro frame listed
      have found := List.mem_map_of_mem (f := WebSocketReceiveResult.endOfMessage) listed
      rw [split.1] at found
      exact List.eq_of_mem_replicate found
    have type : last.messageType = .text := (texts last (by simp)).1
    have settled : (Reading.start buffer).Settled := ⟨rfl, rfl⟩
    rw [listen, Reading.run_frames settled more split.2 type []]
    simp [bytes, Reading.content, Reading.start, Reading.resultArray, Utf8.run_encode]

end Client

end WebPubSub.Reliable
