import WebPubSub.Library.Json

/-!
# Writing JSON and reading it back

`JSON.stringify` of plain data, with a replacer that leaves members out by their name, and
the round trip: the text of a value whose numbers are numerals is read as that value.

The reader ends a number and a literal only at the character after it, so what is known
after the text of a value is that the reader is done with it: whatever closes a value or
goes on to the next one is read as after an ended value.
-/

namespace Json

/-- A character in a string, as `JSON.stringify` writes it. -/
def stringifyChar (char : Char) : List Char :=
  if char = Char.ofNat 8 then "\\b".toList
  else if char = Char.ofNat 12 then "\\f".toList
  else if char = '\n' then "\\n".toList
  else if char = '\r' then "\\r".toList
  else if char = '\t' then "\\t".toList
  else quoteChar char

def stringifyText (text : List Char) : List Char := '"' :: text.flatMap stringifyChar ++ ['"']

mutual

/-- `JSON.stringify`. -/
def stringify : Json → List Char
  | .null => "null".toList
  | .bool true => "true".toList
  | .bool false => "false".toList
  | .number source => source
  | .string text => stringifyText text
  | .array [] => "[]".toList
  | .array (item :: items) => '[' :: item.stringify ++ (stringifyItems items ++ [']'])
  | .object [] => "\x7b\x7d".toList
  | .object (member :: members) =>
      '\x7b' :: stringifyMember member ++ (stringifyMembers members ++ ['\x7d'])
termination_by structural json => json

/-- The items after the first. -/
def stringifyItems : List Json → List Char
  | [] => []
  | item :: items => ',' :: item.stringify ++ stringifyItems items
termination_by structural items => items

def stringifyMember : List Char × Json → List Char
  | (key, value) => stringifyText key ++ ':' :: value.stringify
termination_by structural member => member

/-- The members after the first. -/
def stringifyMembers : List (List Char × Json) → List Char
  | [] => []
  | member :: members => ',' :: stringifyMember member ++ stringifyMembers members
termination_by structural members => members

end

mutual

/-- What `JSON.stringify` writes when its replacer gives `undefined` for some names of
members, and every other value as it is. -/
def without (left : List Char → Bool) : Json → Json
  | .array items => .array (withoutItems left items)
  | .object members => .object (withoutMembers left members)
  | .null => .null
  | .bool value => .bool value
  | .number source => .number source
  | .string text => .string text
termination_by structural json => json

def withoutItems (left : List Char → Bool) : List Json → List Json
  | [] => []
  | item :: items => item.without left :: withoutItems left items
termination_by structural items => items

def withoutMember (left : List Char → Bool) : List Char × Json → List Char × Json
  | (key, value) => (key, value.without left)
termination_by structural member => member

def withoutMembers (left : List Char → Bool) : List (List Char × Json) → List (List Char × Json)
  | [] => []
  | member :: members =>
      if left member.1 then withoutMembers left members
      else withoutMember left member :: withoutMembers left members
termination_by structural members => members

end

/-! ## Numerals -/

namespace Number

/-- The parts of a number that a text goes through. -/
def scan (part : Number) : List Char → Option Number
  | [] => some part
  | char :: text => (part.next char).bind (fun next => next.scan text)

theorem scan_append (part : Number) (first second : List Char) :
    part.scan (first ++ second) = (part.scan first).bind (fun last => last.scan second) := by
  induction first generalizing part with
  | nil => rfl
  | cons char first inductionHypothesis =>
    rw [List.cons_append, scan, scan, Option.bind_assoc]
    exact Option.bind_congr (fun next _ => inductionHypothesis next)

/-- A text that is a number. -/
def isNumeral : List Char → Bool
  | [] => false
  | first :: rest => ((start first).bind (fun part => part.scan rest)).any complete

/-- The digits of a positive number are read without a leading zero. -/
theorem scan_toDigits {number : Nat} (positive : 0 < number) :
    ∃ first rest, Nat.toDigits 10 number = first :: rest ∧
      (start first).bind (fun part => part.scan rest) = some .whole := by
  have digit : ∀ value < 10, 0 < value →
      (start (Nat.digitChar value)).bind (fun part => part.scan []) = some .whole := by decide
  induction number using Nat.strongRecOn with
  | ind number inductionHypothesis =>
    by_cases small : number < 10
    · exact ⟨Nat.digitChar number, [], Nat.toDigits_of_lt_base small, digit number small positive⟩
    · obtain ⟨first, rest, digits, read⟩ :=
        inductionHypothesis (number / 10) (by omega) (by omega)
      obtain ⟨part, started, whole⟩ := Option.bind_eq_some_iff.mp read
      have last : (Nat.digitChar (number % 10)).isDigit = true := by
        rw [Nat.isDigit_digitChar]
        exact decide_eq_true (Nat.mod_lt _ (by decide))
      refine ⟨first, rest ++ [Nat.digitChar (number % 10)], ?_, ?_⟩
      · rw [Nat.toDigits_of_base_le (by decide) (Nat.not_lt.mp small), digits]
        rfl
      · rw [started, Option.bind_some, scan_append, whole]
        simp [scan, next, last]

/-- The digits of a natural number are a number. -/
theorem isNumeral_toDigits (number : Nat) : isNumeral (Nat.toDigits 10 number) = true := by
  cases number with
  | zero => rfl
  | succ number =>
    obtain ⟨first, rest, digits, read⟩ := scan_toDigits (Nat.succ_pos number)
    simp [isNumeral, digits, read, complete]

end Number

/-- A finite JavaScript number, as the text that `JSON.stringify` writes for it. -/
structure Numeral where
  source : List Char
  numeral : Number.isNumeral source = true
deriving DecidableEq

mutual

/-- Every number in the value is a numeral. -/
def numeric : Json → Bool
  | .number source => Number.isNumeral source
  | .array items => numericItems items
  | .object members => numericMembers members
  | .null | .bool _ | .string _ => true
termination_by structural json => json

def numericItems : List Json → Bool
  | [] => true
  | item :: items => item.numeric && numericItems items
termination_by structural items => items

def numericMember : List Char × Json → Bool
  | (_, value) => value.numeric
termination_by structural member => member

def numericMembers : List (List Char × Json) → Bool
  | [] => true
  | member :: members => numericMember member && numericMembers members
termination_by structural members => members

end

/-! ## Reading -/

namespace Reader

/-- A character of a string is read back. -/
theorem read_stringifyChar (char : Char) (name : Bool) (text : List Char) (stack : List Frame) :
    Reader.read ⟨.string name ⟨text, none⟩, stack⟩ (stringifyChar char) =
      some ⟨.string name ⟨char :: text, none⟩, stack⟩ := by
  unfold stringifyChar
  split_ifs with backspace feed line carriage tab
  · subst backspace
    rfl
  · subst feed
    rfl
  · subst line
    rfl
  · subst carriage
    rfl
  · subst tab
    rfl
  · exact read_quoteChar char name text stack

/-- A string is read back, up to its closing quote. -/
theorem read_stringifyText (text : List Char) (name : Bool) (before : List Char)
    (stack : List Frame) :
    Reader.read ⟨.string name ⟨before, none⟩, stack⟩ (text.flatMap stringifyChar) =
      some ⟨.string name ⟨text.reverse ++ before, none⟩, stack⟩ := by
  induction text generalizing before with
  | nil => rfl
  | cons char text inductionHypothesis =>
    rw [List.flatMap_cons, read_append, read_stringifyChar, Option.bind_some, inductionHypothesis]
    simp

/-- The reader is done with a value. -/
inductive Done : Json → Mode → Prop
  | ended (value : Json) : Done value (.ended value)
  | literal (value : Json) : Done value (.literal [] value)
  | number (part : Number) (read : List Char) (complete : part.complete = true) :
      Done (.number read.reverse) (.number part read)

/-- What may follow a value in a container is read as after an ended value. -/
theorem Done.step {value : Json} {mode : Mode} (done : Done value mode) (stack : List Frame)
    {char : Char} (follows : char ∈ [',', ']', '\x7d']) :
    Reader.step ⟨mode, stack⟩ char = after value stack char := by
  cases done with
  | ended => rfl
  | literal => rfl
  | number part read complete =>
    have stops : part.next char = none := by
      revert follows
      simp only [List.mem_cons, List.not_mem_nil, or_false]
      rintro (rfl | rfl | rfl) <;> cases part <;> rfl
    simp [Reader.step, stops, complete]

theorem Done.result {value : Json} {mode : Mode} (done : Done value mode) :
    Reader.result ⟨mode, []⟩ = some value := by
  cases done with
  | ended => rfl
  | literal => rfl
  | number part read complete => simp [Reader.result, complete]

/-- A number goes on as long as its characters do. -/
theorem read_scan {part last : Number} {text : List Char} (scanned : part.scan text = some last)
    (before : List Char) (stack : List Frame) :
    Reader.read ⟨.number part before, stack⟩ text =
      some ⟨.number last (text.reverse ++ before), stack⟩ := by
  induction text generalizing part before with
  | nil =>
    obtain rfl : part = last := by simpa [Number.scan] using scanned
    rfl
  | cons char text inductionHypothesis =>
    obtain ⟨next, goes, continued⟩ := Option.bind_eq_some_iff.mp scanned
    have one : Reader.step ⟨.number part before, stack⟩ char =
        some ⟨.number next (char :: before), stack⟩ := by
      simp [Reader.step, goes]
    rw [read, one, Option.bind_some, inductionHypothesis continued]
    simp

/-- A numeral starts a value. -/
theorem read_numeral {source : List Char} (numeral : Number.isNumeral source = true)
    (stack : List Frame) :
    ∃ mode, Reader.read ⟨.value, stack⟩ source = some ⟨mode, stack⟩ ∧ Done (.number source) mode := by
  cases source with
  | nil => simp [Number.isNumeral] at numeral
  | cons first rest =>
    obtain ⟨last, scanned, complete⟩ := (Option.any_eq_true _ _).mp numeral
    obtain ⟨part, begins, continued⟩ := Option.bind_eq_some_iff.mp scanned
    have other (char : Char) (none : Number.start char = none) : first ≠ char := by
      rintro rfl
      simp [none] at begins
    have opened : Reader.step ⟨.value, stack⟩ first = some ⟨.number part [first], stack⟩ := by
      have dark : white first = false := by
        simp [white, other ' ' rfl, other '\t' rfl, other '\n' rfl,
          other '\r' rfl]
      simp [Reader.step, value, dark, begins, other '"' rfl, other '\x7b' rfl,
        other '[' rfl, other 't' rfl, other 'f' rfl,
        other 'n' rfl]
    refine ⟨.number last (rest.reverse ++ [first]), ?_, ?_⟩
    · rw [read, opened, Option.bind_some, read_scan continued]
    · have whole : (rest.reverse ++ [first]).reverse = first :: rest := by simp
      rw [← whole]
      exact .number last _ complete

/-- The text of a value starts with a character that is neither white nor closes an
array. -/
theorem head_stringify (json : Json) (numeric : json.numeric = true) :
    ∃ first rest, json.stringify = first :: rest ∧ white first = false ∧ first ≠ ']' := by
  cases json with
  | null => exact ⟨'n', "ull".toList, rfl, rfl, by decide⟩
  | bool value =>
    cases value with
    | true => exact ⟨'t', "rue".toList, rfl, rfl, by decide⟩
    | false => exact ⟨'f', "alse".toList, rfl, rfl, by decide⟩
  | number source =>
    have numeral : Number.isNumeral source = true := numeric
    cases source with
    | nil => simp [Number.isNumeral] at numeral
    | cons first rest =>
      obtain ⟨last, scanned, -⟩ := (Option.any_eq_true _ _).mp numeral
      obtain ⟨part, begins, -⟩ := Option.bind_eq_some_iff.mp scanned
      have other (char : Char) (none : Number.start char = none) : first ≠ char := by
        rintro rfl
        simp [none] at begins
      refine ⟨first, rest, rfl, ?_, other ']' rfl⟩
      simp [white, other ' ' rfl, other '\t' rfl, other '\n' rfl, other '\r' rfl]
  | string text => exact ⟨'"', _, rfl, rfl, by decide⟩
  | array items => cases items <;> exact ⟨'[', _, rfl, rfl, by decide⟩
  | object members => cases members <;> exact ⟨'\x7b', _, rfl, rfl, by decide⟩

/-- The first item of an array is read like any other value. -/
theorem read_item {json : Json} (numeric : json.numeric = true) (stack : List Frame) :
    Reader.read ⟨.item, stack⟩ json.stringify = Reader.read ⟨.value, stack⟩ json.stringify := by
  obtain ⟨first, rest, shape, dark, open_⟩ := head_stringify json numeric
  have same : Reader.step ⟨.item, stack⟩ first = Reader.step ⟨.value, stack⟩ first := by
    simp [step, dark, open_]
  rw [shape, read, read, same]

/-- What has been read of a string is its text. -/
theorem text_reverse (text : List Char) : (⟨text.reverse, none⟩ : Content).text = text := by
  simp [Content.text, Content.flush]

/-- The name of a member is read, with its colon, wherever a name may stand. -/
theorem read_name {mode : Mode} (named : mode = .member ∨ mode = .key) (key : List Char)
    (before : List (List Char × Json)) (old : List Char) (outer : List Frame) :
    Reader.read ⟨mode, .object before old :: outer⟩ (stringifyText key ++ [':']) =
      some ⟨.value, .object before key :: outer⟩ := by
  have opened : Reader.step ⟨mode, .object before old :: outer⟩ '"' =
      some ⟨.string true ⟨[], none⟩, .object before old :: outer⟩ := by
    rcases named with rfl | rfl <;> rfl
  have parts : stringifyText key ++ [':'] =
      '"' :: (key.flatMap stringifyChar ++ ['"', ':']) := by
    simp [stringifyText]
  rw [parts, read, opened, Option.bind_some, read_append, read_stringifyText, Option.bind_some]
  simp [read, step, close, text_reverse, white]

mutual

/-- The text of a value leaves the reader done with the value. -/
theorem read_stringify (json : Json) (numeric : json.numeric = true) (stack : List Frame) :
    ∃ mode, Reader.read ⟨.value, stack⟩ json.stringify = some ⟨mode, stack⟩ ∧ Done json mode := by
  match json with
  | .null => exact ⟨.literal [] .null, rfl, .literal _⟩
  | .bool true => exact ⟨.literal [] (.bool true), rfl, .literal _⟩
  | .bool false => exact ⟨.literal [] (.bool false), rfl, .literal _⟩
  | .number source => exact read_numeral numeric stack
  | .string text =>
    refine ⟨.ended (.string text), ?_, .ended _⟩
    have opened : Reader.step ⟨.value, stack⟩ '"' = some ⟨.string false ⟨[], none⟩, stack⟩ := rfl
    rw [stringify, stringifyText, List.cons_append, read, opened, Option.bind_some, read_append,
      read_stringifyText, Option.bind_some]
    simp [read, step, close, text_reverse]
  | .array [] => exact ⟨.ended (.array []), rfl, .ended _⟩
  | .array (item :: items) =>
    obtain ⟨first, others⟩ : item.numeric = true ∧ numericItems items = true := by
      simpa [Json.numeric, numericItems] using numeric
    obtain ⟨mode, done, ends⟩ := read_stringify item first (.array [] :: stack)
    have opened : Reader.step ⟨.value, stack⟩ '[' = some ⟨.item, .array [] :: stack⟩ := rfl
    refine ⟨.ended (.array (item :: items)), ?_, .ended _⟩
    rw [stringify, List.cons_append, read, opened, Option.bind_some, read_append, read_item first,
      done, Option.bind_some, read_stringifyItems items others ends]
    rfl
  | .object [] => exact ⟨.ended (.object []), rfl, .ended _⟩
  | .object (member :: members) =>
    obtain ⟨first, others⟩ : numericMember member = true ∧ numericMembers members = true := by
      simpa [Json.numeric, numericMembers] using numeric
    obtain ⟨mode, done, ends⟩ := read_stringifyMember member first (Or.inl rfl) [] [] stack
    have opened : Reader.step ⟨.value, stack⟩ '\x7b' = some ⟨.member, .object [] [] :: stack⟩ := rfl
    refine ⟨.ended (.object (member :: members)), ?_, .ended _⟩
    rw [stringify, List.cons_append, read, opened, Option.bind_some, read_append, done,
      Option.bind_some, read_stringifyMembers members others ends]
    rfl
termination_by structural json

/-- The items that follow a value that was read, and the end of their array. -/
theorem read_stringifyItems (items : List Json) (numeric : numericItems items = true)
    {value : Json} {mode : Mode} (done : Done value mode) (before : List Json)
    (outer : List Frame) :
    Reader.read ⟨mode, .array before :: outer⟩ (stringifyItems items ++ [']']) =
      some ⟨.ended (.array ((value :: before).reverse ++ items)), outer⟩ := by
  match items with
  | [] =>
    rw [stringifyItems, List.nil_append, read, done.step _ (by simp), List.append_nil]
    rfl
  | item :: items =>
    obtain ⟨first, others⟩ : item.numeric = true ∧ numericItems items = true := by
      simpa [numericItems] using numeric
    obtain ⟨next, read_, ends⟩ := read_stringify item first (.array (value :: before) :: outer)
    have comma : after value (.array before :: outer) ',' =
        some ⟨.value, .array (value :: before) :: outer⟩ := rfl
    rw [stringifyItems, List.cons_append, List.cons_append, read, done.step _ (by simp), comma,
      Option.bind_some, List.append_assoc, read_append, read_, Option.bind_some,
      read_stringifyItems items others ends]
    simp
termination_by structural items

/-- A member, wherever its name may stand. -/
theorem read_stringifyMember (member : List Char × Json) (numeric : numericMember member = true)
    {start : Mode} (named : start = .member ∨ start = .key) (before : List (List Char × Json))
    (old : List Char) (outer : List Frame) :
    ∃ mode, Reader.read ⟨start, .object before old :: outer⟩ (stringifyMember member) =
      some ⟨mode, .object before member.1 :: outer⟩ ∧ Done member.2 mode := by
  match member with
  | (key, value) =>
    obtain ⟨mode, done, ends⟩ := read_stringify value numeric (.object before key :: outer)
    refine ⟨mode, ?_, ends⟩
    have parts : stringifyMember (key, value) = (stringifyText key ++ [':']) ++ value.stringify := by
      simp [stringifyMember]
    rw [parts, read_append, read_name named, Option.bind_some, done]
termination_by structural member

/-- The members that follow a value that was read, and the end of their object. -/
theorem read_stringifyMembers (members : List (List Char × Json))
    (numeric : numericMembers members = true) {value : Json} {mode : Mode}
    (done : Done value mode) (before : List (List Char × Json)) (key : List Char)
    (outer : List Frame) :
    Reader.read ⟨mode, .object before key :: outer⟩ (stringifyMembers members ++ ['\x7d']) =
      some ⟨.ended (.object (((key, value) :: before).reverse ++ members)), outer⟩ := by
  match members with
  | [] =>
    rw [stringifyMembers, List.nil_append, read, done.step _ (by simp), List.append_nil]
    rfl
  | member :: members =>
    obtain ⟨first, others⟩ : numericMember member = true ∧ numericMembers members = true := by
      simpa [numericMembers] using numeric
    obtain ⟨next, read_, ends⟩ :=
      read_stringifyMember member first (Or.inr rfl) ((key, value) :: before) [] outer
    have comma : after value (.object before key :: outer) ',' =
        some ⟨.key, .object ((key, value) :: before) [] :: outer⟩ := rfl
    rw [stringifyMembers, List.cons_append, List.cons_append, read, done.step _ (by simp), comma,
      Option.bind_some, List.append_assoc, read_append, read_, Option.bind_some,
      read_stringifyMembers members others ends]
    simp
termination_by structural members

end

end Reader

/-- The round trip. -/
theorem parse_stringify {json : Json} (numeric : json.numeric = true) :
    parse json.stringify = some json := by
  obtain ⟨mode, done, ends⟩ := Reader.read_stringify json numeric []
  rw [parse, done, Option.bind_some, ends.result]

/-! ## Properties that may be undefined -/

/-- The object that `JSON.stringify` writes for a list of properties: one that is
`undefined` is left out. -/
def record (slots : List (List Char × Option Json)) : Json :=
  .object (slots.filterMap (fun slot => slot.2.map (fun value => (slot.1, value))))

/-- A property of a value that is not `null`; `none` when it is `undefined`. -/
def property (json : Json) (key : List Char) : Option Json := (json.member key).join

variable {slots : List (List Char × Option Json)}

/-- A property is read as it was given, when no two have one name. -/
theorem property_record (distinct : (slots.map Prod.fst).Nodup) (key : List Char) :
    (record slots).property key = (slots.lookup key).join := by
  unfold property record member
  rw [Option.join_some]
  induction slots with
  | nil => rfl
  | cons slot slots inductionHypothesis =>
    obtain ⟨name, value⟩ := slot
    obtain ⟨fresh, others⟩ : name ∉ slots.map Prod.fst ∧ (slots.map Prod.fst).Nodup := by
      simpa using distinct
    have rest := inductionHypothesis others
    by_cases named : key = name
    · subst named
      have absent : ∀ member ∈ (slots.filterMap (fun slot => slot.2.map (fun value =>
          (slot.1, value)))).reverse, ¬decide (member.1 = key) = true := by
        intro member found same
        obtain ⟨slot, listed, given⟩ := List.mem_filterMap.mp (List.mem_reverse.mp found)
        obtain ⟨value, -, rfl⟩ := Option.map_eq_some_iff.mp given
        exact fresh (of_decide_eq_true same ▸ List.mem_map_of_mem listed)
      cases value <;> simp [List.find?_eq_none.mpr absent]
    · have skipped : (key == name) = false := by simpa using named
      rw [List.lookup_cons, skipped, ← rest]
      cases value <;> simp [Ne.symm named]

/-- Leaving members out of an object leaves properties out. -/
theorem without_record (left : List Char → Bool) :
    (record slots).without left =
      record ((slots.filter (fun slot => !left slot.1)).map
        (fun slot => (slot.1, slot.2.map (without left)))) := by
  unfold record
  rw [without]
  congr 1
  induction slots with
  | nil => rfl
  | cons slot slots inductionHypothesis =>
    obtain ⟨name, value⟩ := slot
    cases value <;> cases drops : left name <;>
      simp [withoutMembers, withoutMember, drops, inductionHypothesis]

theorem numeric_record (numerals : ∀ slot ∈ slots, ∀ value ∈ slot.2, value.numeric = true) :
    (record slots).numeric = true := by
  unfold record
  rw [numeric]
  induction slots with
  | nil => rfl
  | cons slot slots inductionHypothesis =>
    obtain ⟨first, others⟩ := List.forall_mem_cons.mp numerals
    obtain ⟨name, value⟩ := slot
    have rest := inductionHypothesis others
    cases value with
    | none => simpa using rest
    | some value => simpa [numericMembers, numericMember, rest] using first

end Json
