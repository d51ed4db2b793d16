import WebPubSub.Library.JsonText

/-!
# Indented JSON

`JSON.stringify` with a third argument: every item and every member stands on a line of its
own, behind a gap for each container that is open. The round trip: whatever white text the gap
is, the text is read as the value.
-/

namespace Json

mutual

/-- `JSON.stringify(value, null, gap)`, on a line that has an indentation. -/
def indented (gap indent : List Char) : Json → List Char
  | .null => stringify .null
  | .bool value => stringify (.bool value)
  | .number source => stringify (.number source)
  | .string text => stringify (.string text)
  | .array [] => stringify (.array [])
  | .array (item :: items) =>
      '[' :: '\n' :: (indent ++ gap) ++
        (item.indented gap (indent ++ gap) ++
          (indentedItems gap (indent ++ gap) items ++ ('\n' :: indent ++ [']'])))
  | .object [] => stringify (.object [])
  | .object (member :: members) =>
      '\x7b' :: '\n' :: (indent ++ gap) ++
        (indentedMember gap (indent ++ gap) member ++
          (indentedMembers gap (indent ++ gap) members ++ ('\n' :: indent ++ ['\x7d'])))
termination_by structural json => json

/-- The items after the first. -/
def indentedItems (gap indent : List Char) : List Json → List Char
  | [] => []
  | item :: items =>
      ',' :: '\n' :: indent ++ (item.indented gap indent ++ indentedItems gap indent items)
termination_by structural items => items

def indentedMember (gap indent : List Char) : List Char × Json → List Char
  | (key, value) => stringifyText key ++ ':' :: ' ' :: value.indented gap indent
termination_by structural member => member

/-- The members after the first. -/
def indentedMembers (gap indent : List Char) : List (List Char × Json) → List Char
  | [] => []
  | member :: members =>
      ',' :: '\n' :: indent ++
        (indentedMember gap indent member ++ indentedMembers gap indent members)
termination_by structural members => members

end

/-! ## Reading -/

/-- A text of nothing but white characters. -/
def Blank (text : List Char) : Prop := ∀ char ∈ text, Reader.white char = true

theorem Blank.append {first second : List Char} (left : Blank first) (right : Blank second) :
    Blank (first ++ second) :=
  fun char listed => (List.mem_append.mp listed).elim (left char) (right char)

theorem Blank.line {indent : List Char} (blank : Blank indent) : Blank ('\n' :: indent) :=
  List.forall_mem_cons.mpr ⟨rfl, blank⟩

namespace Reader

variable {gap indent blank : List Char}

/-- Before a value, a name or a closing bracket, white text is passed over. -/
theorem read_blank {mode : Mode}
    (waits : mode = .value ∨ mode = .item ∨ mode = .key ∨ mode = .member) (white : Blank blank)
    (stack : List Frame) : Reader.read ⟨mode, stack⟩ blank = some ⟨mode, stack⟩ := by
  induction blank with
  | nil => rfl
  | cons char blank inductionHypothesis =>
    obtain ⟨here, others⟩ := List.forall_mem_cons.mp white
    have stays : Reader.step ⟨mode, stack⟩ char = some ⟨mode, stack⟩ := by
      rcases waits with rfl | rfl | rfl | rfl <;> simp [step, here]
    rw [read, stays, Option.bind_some, inductionHypothesis others]

/-- No number goes on with a white character. -/
theorem next_white (part : Number) {char : Char} (white : Reader.white char = true) :
    part.next char = none := by
  have listed : char = ' ' ∨ char = '\t' ∨ char = '\n' ∨ char = '\r' := by
    simpa [Reader.white, or_assoc] using white
  rcases listed with rfl | rfl | rfl | rfl <;> cases part <;> rfl

/-- White text behind a value is passed over, up to what may follow the value. -/
theorem Done.read_blank {value : Json} {mode : Mode} (done : Done value mode)
    (white : Blank blank) (stack : List Frame) {char : Char} (follows : char ∈ [',', ']', '\x7d']) :
    Reader.read ⟨mode, stack⟩ (blank ++ [char]) = after value stack char := by
  induction blank generalizing mode with
  | nil => simp [read, done.step stack follows]
  | cons first blank inductionHypothesis =>
    obtain ⟨here, others⟩ := List.forall_mem_cons.mp white
    have passed : Reader.step ⟨mode, stack⟩ first = some ⟨.ended value, stack⟩ := by
      cases done with
      | ended => simp [Reader.step, after, here]
      | literal => simp [Reader.step, after, here]
      | number part text complete => simp [Reader.step, next_white part here, complete, after, here]
    rw [List.cons_append, read, passed, Option.bind_some, inductionHypothesis (.ended value) others]

/-- An indented value starts like the text of the value. -/
theorem head_indented (json : Json) (numeric : json.numeric = true) :
    ∃ first rest, json.indented gap indent = first :: rest ∧ white first = false ∧ first ≠ ']' := by
  cases json with
  | null => exact head_stringify .null numeric
  | bool value => exact head_stringify (.bool value) numeric
  | number source => exact head_stringify (.number source) numeric
  | string text => exact head_stringify (.string text) numeric
  | array items =>
    cases items with
    | nil => exact head_stringify (.array []) numeric
    | cons item items => exact ⟨'[', _, rfl, rfl, by decide⟩
  | object members =>
    cases members with
    | nil => exact head_stringify (.object []) numeric
    | cons member members => exact ⟨'\x7b', _, rfl, rfl, by decide⟩

/-- The first item of an array is read like any other value, behind white text. -/
theorem read_item_indented {json : Json} (numeric : json.numeric = true) (passed : Blank blank)
    (stack : List Frame) :
    Reader.read ⟨.item, stack⟩ (blank ++ json.indented gap indent) =
      Reader.read ⟨.value, stack⟩ (json.indented gap indent) := by
  obtain ⟨first, rest, shape, dark, open_⟩ :
      ∃ first rest, json.indented gap indent = first :: rest ∧ white first = false ∧ first ≠ ']' :=
    head_indented json numeric
  have same : Reader.step ⟨.item, stack⟩ first = Reader.step ⟨.value, stack⟩ first := by
    simp [step, dark, open_]
  rw [read_append, read_blank (Or.inr (Or.inl rfl)) passed, Option.bind_some, shape, read, read,
    same]

mutual

/-- The text of an indented value leaves the reader done with the value. -/
theorem read_indented (blank : Blank gap) (json : Json) (numeric : json.numeric = true)
    (indent : List Char) (white : Blank indent) (stack : List Frame) :
    ∃ mode, Reader.read ⟨.value, stack⟩ (json.indented gap indent) = some ⟨mode, stack⟩ ∧
      Done json mode := by
  match json with
  | .null => exact read_stringify .null numeric stack
  | .bool value => exact read_stringify (.bool value) numeric stack
  | .number source => exact read_stringify (.number source) numeric stack
  | .string text => exact read_stringify (.string text) numeric stack
  | .array [] => exact read_stringify (.array []) numeric stack
  | .object [] => exact read_stringify (.object []) numeric stack
  | .array (item :: items) =>
    obtain ⟨first, others⟩ : item.numeric = true ∧ numericItems items = true := by
      simpa [Json.numeric, numericItems] using numeric
    have inner := white.append blank
    obtain ⟨mode, done, ends⟩ :=
      read_indented blank item first (indent ++ gap) inner (.array [] :: stack)
    have opened : Reader.step ⟨.value, stack⟩ '[' = some ⟨.item, .array [] :: stack⟩ := rfl
    refine ⟨.ended (.array (item :: items)), ?_, .ended _⟩
    have parts : (Json.array (item :: items)).indented gap indent =
        '[' :: (('\n' :: (indent ++ gap) ++ item.indented gap (indent ++ gap)) ++
          (indentedItems gap (indent ++ gap) items ++ ('\n' :: indent ++ [']']))) := by
      simp [indented]
    rw [parts, read, opened, Option.bind_some, read_append, read_item_indented first inner.line,
      done, Option.bind_some,
      read_indentedItems blank items others (indent ++ gap) inner ends [] stack white.line]
    rfl
  | .object (member :: members) =>
    obtain ⟨first, others⟩ : numericMember member = true ∧ numericMembers members = true := by
      simpa [Json.numeric, numericMembers] using numeric
    have inner := white.append blank
    obtain ⟨mode, done, ends⟩ := read_indentedMember blank member first (indent ++ gap) inner
      (Or.inl rfl) [] [] stack
    have opened : Reader.step ⟨.value, stack⟩ '\x7b' = some ⟨.member, .object [] [] :: stack⟩ := rfl
    have passed : Reader.read ⟨.member, .object [] [] :: stack⟩ ('\n' :: (indent ++ gap)) =
        some ⟨.member, .object [] [] :: stack⟩ :=
      read_blank (Or.inr (Or.inr (Or.inr rfl))) inner.line _
    refine ⟨.ended (.object (member :: members)), ?_, .ended _⟩
    have parts : (Json.object (member :: members)).indented gap indent =
        '\x7b' :: ('\n' :: (indent ++ gap) ++ (indentedMember gap (indent ++ gap) member ++
          (indentedMembers gap (indent ++ gap) members ++ ('\n' :: indent ++ ['\x7d'])))) := by
      simp [indented]
    rw [parts, read, opened, Option.bind_some, read_append, passed, Option.bind_some, read_append,
      done, Option.bind_some,
      read_indentedMembers blank members others (indent ++ gap) inner ends [] member.1 stack
        white.line]
    rfl
termination_by structural json

/-- The items that follow a value that was read, and the end of their array. -/
theorem read_indentedItems (blank : Blank gap) (items : List Json)
    (numeric : numericItems items = true) (indent : List Char) (white : Blank indent)
    {value : Json} {mode : Mode} (done : Done value mode) (before : List Json)
    (outer : List Frame) {ending : List Char} (ends : Blank ending) :
    Reader.read ⟨mode, .array before :: outer⟩
        (indentedItems gap indent items ++ (ending ++ [']'])) =
      some ⟨.ended (.array ((value :: before).reverse ++ items)), outer⟩ := by
  match items with
  | [] =>
    rw [indentedItems, List.nil_append, done.read_blank ends _ (by simp), List.append_nil]
    rfl
  | item :: items =>
    obtain ⟨first, others⟩ : item.numeric = true ∧ numericItems items = true := by
      simpa [numericItems] using numeric
    obtain ⟨next, read_, later⟩ :=
      read_indented blank item first indent white (.array (value :: before) :: outer)
    have comma : after value (.array before :: outer) ',' =
        some ⟨.value, .array (value :: before) :: outer⟩ := rfl
    have parts : indentedItems gap indent (item :: items) ++ (ending ++ [']']) =
        ',' :: ('\n' :: indent ++ (item.indented gap indent ++
          (indentedItems gap indent items ++ (ending ++ [']'])))) := by
      simp [indentedItems]
    rw [parts, read, done.step _ (by simp), comma, Option.bind_some, read_append,
      read_blank (Or.inl rfl) white.line, Option.bind_some, read_append, read_, Option.bind_some,
      read_indentedItems blank items others indent white later _ outer ends]
    simp
termination_by structural items

/-- A member, wherever its name may stand. -/
theorem read_indentedMember (blank : Blank gap) (member : List Char × Json)
    (numeric : numericMember member = true) (indent : List Char) (white : Blank indent)
    {start : Mode} (named : start = .member ∨ start = .key) (before : List (List Char × Json))
    (old : List Char) (outer : List Frame) :
    ∃ mode, Reader.read ⟨start, .object before old :: outer⟩ (indentedMember gap indent member) =
      some ⟨mode, .object before member.1 :: outer⟩ ∧ Done member.2 mode := by
  match member with
  | (key, value) =>
    obtain ⟨mode, done, ends⟩ :=
      read_indented blank value numeric indent white (.object before key :: outer)
    have passed : Reader.read ⟨.value, .object before key :: outer⟩ [' '] =
        some ⟨.value, .object before key :: outer⟩ := rfl
    refine ⟨mode, ?_, ends⟩
    have parts : indentedMember gap indent (key, value) =
        (stringifyText key ++ [':']) ++ ([' '] ++ value.indented gap indent) := by
      simp [indentedMember]
    rw [parts, read_append, read_name named, Option.bind_some, read_append, passed,
      Option.bind_some, done]
termination_by structural member

/-- The members that follow a value that was read, and the end of their object. -/
theorem read_indentedMembers (blank : Blank gap) (members : List (List Char × Json))
    (numeric : numericMembers members = true) (indent : List Char) (white : Blank indent)
    {value : Json} {mode : Mode} (done : Done value mode) (before : List (List Char × Json))
    (key : List Char) (outer : List Frame) {ending : List Char} (ends : Blank ending) :
    Reader.read ⟨mode, .object before key :: outer⟩
        (indentedMembers gap indent members ++ (ending ++ ['\x7d'])) =
      some ⟨.ended (.object (((key, value) :: before).reverse ++ members)), outer⟩ := by
  match members with
  | [] =>
    rw [indentedMembers, List.nil_append, done.read_blank ends _ (by simp), List.append_nil]
    rfl
  | member :: members =>
    obtain ⟨first, others⟩ : numericMember member = true ∧ numericMembers members = true := by
      simpa [numericMembers] using numeric
    obtain ⟨next, read_, later⟩ := read_indentedMember blank member first indent white
      (Or.inr rfl) ((key, value) :: before) [] outer
    have comma : after value (.object before key :: outer) ',' =
        some ⟨.key, .object ((key, value) :: before) [] :: outer⟩ := rfl
    have parts : indentedMembers gap indent (member :: members) ++ (ending ++ ['\x7d']) =
        ',' :: ('\n' :: indent ++ (indentedMember gap indent member ++
          (indentedMembers gap indent members ++ (ending ++ ['\x7d'])))) := by
      simp [indentedMembers]
    rw [parts, read, done.step _ (by simp), comma, Option.bind_some, read_append,
      read_blank (Or.inr (Or.inr (Or.inl rfl))) white.line, Option.bind_some, read_append, read_,
      Option.bind_some, read_indentedMembers blank members others indent white later _ _ outer ends]
    simp
termination_by structural members

end

end Reader

/-- The round trip of indented text. -/
theorem parse_indented {gap : List Char} (blank : Blank gap) {json : Json}
    (numeric : json.numeric = true) : parse (json.indented gap []) = some json := by
  obtain ⟨mode, done, ends⟩ := Reader.read_indented blank json numeric []
    (fun _ listed => by cases listed) []
  rw [parse, done, Option.bind_some, ends.result]

example : Json.indented "  ".toList [] (.object [("a".toList, .object []), ("b".toList, .null)]) =
    "\x7b\n  \"a\": \x7b\x7d,\n  \"b\": null\n\x7d".toList := by decide

end Json
