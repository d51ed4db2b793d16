import Mathlib.Data.List.Basic

/-!
# JSON texts

`JSON.parse` as a machine that reads one character at a time and keeps the containers that
are open on a stack. A number is kept as its text. A `\u` escape is a UTF-16 code unit;
two that form a pair are one character, and any other surrogate, which JavaScript would
keep, is read as a replacement character.
-/

/-- A JSON value, with the members of an object in the order of the text. -/
inductive Json where
  | null
  | bool (value : Bool)
  | number (source : List Char)
  | string (text : List Char)
  | array (items : List Json)
  | object (members : List (List Char × Json))

namespace Json

/-- Reading a member of a value: `none` when the value is `null`, for which this throws,
and `some none` for `undefined`. The last member of a name counts. -/
def member (key : List Char) : Json → Option (Option Json)
  | .null => none
  | .object members =>
      some ((members.reverse.find? (fun member => member.1 = key)).map Prod.snd)
  | _ => some none

/-- The parts of a number after which something may be read. -/
inductive Number where
  | minus | zero | whole | point | fraction | exponent | sign | power
deriving DecidableEq

namespace Number

/-- The start of a number. -/
def start (char : Char) : Option Number :=
  if char = '-' then some .minus
  else if char = '0' then some .zero
  else if char.isDigit then some .whole
  else none

/-- The next character of a number, if it is one. -/
def next (part : Number) (char : Char) : Option Number :=
  match part with
  | .minus => if char = '0' then some .zero else if char.isDigit then some .whole else none
  | .zero =>
      if char = '.' then some .point
      else if char = 'e' ∨ char = 'E' then some .exponent else none
  | .whole =>
      if char.isDigit then some .whole
      else if char = '.' then some .point
      else if char = 'e' ∨ char = 'E' then some .exponent else none
  | .point => if char.isDigit then some .fraction else none
  | .fraction =>
      if char.isDigit then some .fraction
      else if char = 'e' ∨ char = 'E' then some .exponent else none
  | .exponent =>
      if char = '+' ∨ char = '-' then some .sign
      else if char.isDigit then some .power else none
  | .sign => if char.isDigit then some .power else none
  | .power => if char.isDigit then some .power else none

/-- A number may end here. -/
def complete : Number → Bool
  | .zero | .whole | .fraction | .power => true
  | .minus | .point | .exponent | .sign => false

end Number

/-- What has been read of a string, the last character first, and a high surrogate that
has not been paired yet. -/
structure Content where
  read : List Char
  high : Option Nat

namespace Content

/-- A surrogate that is not paired is replaced. -/
def flush (content : Content) : List Char :=
  match content.high with
  | none => content.read
  | some _ => '\uFFFD' :: content.read

def char (content : Content) (char : Char) : Content := ⟨char :: content.flush, none⟩

/-- A code unit from an escape. -/
def unit (content : Content) (unit : Nat) : Content :=
  if 0xD800 ≤ unit ∧ unit < 0xDC00 then ⟨content.flush, some unit⟩
  else if 0xDC00 ≤ unit ∧ unit < 0xE000 then
    match content.high with
    | some high =>
        ⟨Char.ofNat (0x10000 + (high - 0xD800) * 0x400 + (unit - 0xDC00)) :: content.read, none⟩
    | none => content.char '\uFFFD'
  else content.char (Char.ofNat unit)

def text (content : Content) : List Char := content.flush.reverse

end Content

/-- A container that is open, with the last item first. An object has the name of the
member that is under way. -/
inductive Frame where
  | array (items : List Json)
  | object (members : List (List Char × Json)) (key : List Char)

/-- What is read next. A string is the name of a member or a value. -/
inductive Mode where
  | value
  | item
  | key
  | member
  | colon
  | string (name : Bool) (content : Content)
  | escape (name : Bool) (content : Content)
  | unicode (name : Bool) (content : Content) (left value : Nat)
  | number (part : Number) (read : List Char)
  | literal (left : List Char) (value : Json)
  | ended (value : Json)

/-- A value, not ended yet, within the containers that are open. -/
structure Reader where
  mode : Mode
  stack : List Frame

namespace Reader

def white (char : Char) : Bool :=
  char = ' ' || char = '\t' || char = '\n' || char = '\r'

/-- The first character of a value. -/
def value (stack : List Frame) (char : Char) : Option Reader :=
  if char = '"' then some ⟨.string false ⟨[], none⟩, stack⟩
  else if char = '{' then some ⟨.member, .object [] [] :: stack⟩
  else if char = '[' then some ⟨.item, .array [] :: stack⟩
  else if char = 't' then some ⟨.literal "rue".toList (.bool true), stack⟩
  else if char = 'f' then some ⟨.literal "alse".toList (.bool false), stack⟩
  else if char = 'n' then some ⟨.literal "ull".toList .null, stack⟩
  else (Number.start char).map (fun part => ⟨.number part [char], stack⟩)

/-- The end of a string. -/
def close (name : Bool) (text : List Char) (stack : List Frame) : Option Reader :=
  if name then
    match stack with
    | .object members _ :: outer => some ⟨.colon, .object members text :: outer⟩
    | _ => none
  else some ⟨.ended (.string text), stack⟩

/-- What an escape stands for, except for `\u`. -/
def escaped (char : Char) : Option Char :=
  if char = '"' ∨ char = '\\' ∨ char = '/' then some char
  else if char = 'b' then some (Char.ofNat 8)
  else if char = 'f' then some (Char.ofNat 12)
  else if char = 'n' then some '\n'
  else if char = 'r' then some '\r'
  else if char = 't' then some '\t'
  else none

def hexDigit (char : Char) : Option Nat :=
  if char.isDigit then some (char.toNat - 48)
  else if 'a' ≤ char ∧ char ≤ 'f' then some (char.toNat - 87)
  else if 'A' ≤ char ∧ char ≤ 'F' then some (char.toNat - 55)
  else none

/-- A character after a value that has ended. -/
def after (value : Json) (stack : List Frame) (char : Char) : Option Reader :=
  if white char then some ⟨.ended value, stack⟩
  else match stack with
    | [] => none
    | .array items :: outer =>
        if char = ',' then some ⟨.value, .array (value :: items) :: outer⟩
        else if char = ']' then some ⟨.ended (.array (value :: items).reverse), outer⟩
        else none
    | .object members key :: outer =>
        if char = ',' then some ⟨.key, .object ((key, value) :: members) [] :: outer⟩
        else if char = '}' then some ⟨.ended (.object ((key, value) :: members).reverse), outer⟩
        else none

/-- One character. `none` is a syntax error. -/
def step (reader : Reader) (char : Char) : Option Reader :=
  let stack := reader.stack
  match reader.mode with
  | .value => if white char then some reader else value stack char
  | .item =>
      if white char then some reader
      else if char = ']' then some ⟨.ended (.array []), stack.tail⟩
      else value stack char
  | .key =>
      if white char then some reader
      else if char = '"' then some ⟨.string true ⟨[], none⟩, stack⟩
      else none
  | .member =>
      if white char then some reader
      else if char = '}' then some ⟨.ended (.object []), stack.tail⟩
      else if char = '"' then some ⟨.string true ⟨[], none⟩, stack⟩
      else none
  | .colon =>
      if white char then some reader
      else if char = ':' then some ⟨.value, stack⟩
      else none
  | .string name content =>
      if char = '"' then close name content.text stack
      else if char = '\\' then some ⟨.escape name content, stack⟩
      else if char.toNat < 0x20 then none
      else some ⟨.string name (content.char char), stack⟩
  | .escape name content =>
      if char = 'u' then some ⟨.unicode name content 3 0, stack⟩
      else (escaped char).map (fun char => ⟨.string name (content.char char), stack⟩)
  | .unicode name content left value =>
      (hexDigit char).map (fun digit =>
        match left with
        | 0 => ⟨.string name (content.unit (value * 16 + digit)), stack⟩
        | left + 1 => ⟨.unicode name content left (value * 16 + digit), stack⟩)
  | .number part read =>
      match part.next char with
      | some part => some ⟨.number part (char :: read), stack⟩
      | none => if part.complete then after (.number read.reverse) stack char else none
  | .literal left value =>
      match left with
      | [] => after value stack char
      | due :: left => if char = due then some ⟨.literal left value, stack⟩ else none
  | .ended value => after value stack char

/-- All characters that are left. -/
def read : Reader → List Char → Option Reader
  | reader, [] => some reader
  | reader, char :: text => (reader.step char).bind (fun next => next.read text)

/-- The value, if the text may end here. -/
def result (reader : Reader) : Option Json :=
  match reader.stack with
  | [] =>
      match reader.mode with
      | .ended value => some value
      | .number part read => if part.complete then some (.number read.reverse) else none
      | .literal [] value => some value
      | _ => none
  | _ :: _ => none

end Reader

/-- `JSON.parse`. `none` is a `SyntaxError`. -/
def parse (text : List Char) : Option Json :=
  (Reader.read ⟨.value, []⟩ text).bind Reader.result

/-- A character as it is written in a string, escaped where it must be. -/
def quoteChar (char : Char) : List Char :=
  if char = '"' ∨ char = '\\' then ['\\', char]
  else if char.toNat < 0x20 then
    ['\\', 'u', '0', '0', Nat.digitChar (char.toNat / 16), Nat.digitChar (char.toNat % 16)]
  else [char]

def quote (text : List Char) : List Char := '"' :: text.flatMap quoteChar ++ ['"']

/-- The text of an object with one member, which is a string. -/
def single (key text : List Char) : List Char := '{' :: quote key ++ ':' :: quote text ++ ['}']

namespace Reader

theorem read_append (reader : Reader) (first second : List Char) :
    reader.read (first ++ second) = (reader.read first).bind (fun next => next.read second) := by
  induction first generalizing reader with
  | nil => rfl
  | cons char first inductionHypothesis =>
    simp only [List.cons_append, read]
    cases reader.step char with
    | none => rfl
    | some next => exact inductionHypothesis next

theorem hexDigit_digitChar {digit : Nat} (small : digit < 16) :
    hexDigit (Nat.digitChar digit) = some digit := by
  revert digit
  decide

/-- A quoted character is read as it is. -/
theorem read_quoteChar (char : Char) (name : Bool) (text : List Char) (stack : List Frame) :
    Reader.read ⟨.string name ⟨text, none⟩, stack⟩ (quoteChar char) =
      some ⟨.string name ⟨char :: text, none⟩, stack⟩ := by
  unfold quoteChar
  split_ifs with special control
  · obtain rfl | rfl := special <;> rfl
  · have high : hexDigit (Nat.digitChar (char.toNat / 16)) = some (char.toNat / 16) :=
      hexDigit_digitChar (by omega)
    have low : hexDigit (Nat.digitChar (char.toNat % 16)) = some (char.toNat % 16) :=
      hexDigit_digitChar (by omega)
    have value : char.toNat / 16 * 16 + char.toNat % 16 = char.toNat := by omega
    have zero : hexDigit '0' = some 0 := rfl
    have plain : ¬0xD800 ≤ char.toNat ∧ ¬0xDC00 ≤ char.toNat := by omega
    simp [read, step, zero, high, low, value, Content.unit, Content.char, Content.flush, plain]
  · obtain ⟨quotes, backslash⟩ := not_or.mp special
    simp [read, step, quotes, backslash, control, Content.char, Content.flush]

/-- Quoted text is read as it is. -/
theorem read_quoted (text : List Char) (name : Bool) (before : List Char) (stack : List Frame) :
    Reader.read ⟨.string name ⟨before, none⟩, stack⟩ (text.flatMap quoteChar) =
      some ⟨.string name ⟨text.reverse ++ before, none⟩, stack⟩ := by
  induction text generalizing before with
  | nil => rfl
  | cons char text inductionHypothesis =>
    rw [List.flatMap_cons, read_append, read_quoteChar, Option.bind_some, inductionHypothesis]
    simp

end Reader

/-- The text of an object with one string is that object. -/
theorem parse_single (key text : List Char) :
    parse (single key text) = some (.object [(key, .string text)]) := by
  have content (text : List Char) : (⟨text.reverse, none⟩ : Content).text = text := by
    simp [Content.text, Content.flush]
  have name : Reader.read ⟨.value, []⟩ ('{' :: '"' :: key.flatMap quoteChar) =
      some ⟨.string true ⟨key.reverse ++ [], none⟩, [.object [] []]⟩ :=
    Reader.read_quoted key true [] [.object [] []]
  have value : Reader.read ⟨.string true ⟨key.reverse ++ [], none⟩, [.object [] []]⟩
      ('"' :: ':' :: '"' :: text.flatMap quoteChar) =
      some ⟨.string false ⟨text.reverse ++ [], none⟩, [.object [] key]⟩ := by
    have opened := Reader.read_quoted text false [] [.object [] key]
    simpa [Reader.read, Reader.step, Reader.close, Reader.value, Reader.white, content] using opened
  have ended : Reader.read ⟨.string false ⟨text.reverse ++ [], none⟩, [.object [] key]⟩
      ['"', '}'] = some ⟨.ended (.object [(key, .string text)]), []⟩ := by
    simp [Reader.read, Reader.step, Reader.close, Reader.after, Reader.white, content]
  have parts : single key text = ('{' :: '"' :: key.flatMap quoteChar) ++
      (('"' :: ':' :: '"' :: text.flatMap quoteChar) ++ ['"', '}']) := by
    simp [single, quote]
  rw [parse, parts, Reader.read_append, name, Option.bind_some, Reader.read_append, value,
    Option.bind_some, ended]
  rfl

end Json
