import Mathlib.Data.List.DropRight
import WebPubSub.HubSetting.Workflows
import WebPubSub.Library.JsRecord
import WebPubSub.Library.JsText
import WebPubSub.Tunnel.RequestHandling

/-!
# Raw messages

The server of the tunnel writes a request and its response as texts; the page of the history
reads headers and a body from such a text.

A URL comes in as the text that it is written as, which has no line breaks. The entries of the
headers stand in the order in which `Object.entries` lists them.

`recovers_iff` says when the two agree: the reader holds one value under a name, replaces the
line breaks of the body too, takes the start line for a header where a colon stands in it, and
looks for a blank line where a message without headers has two.
-/

namespace WebPubSub.Traffic

open HubSetting (trim)
open Tunnel (Headers TunnelHttpRequestMessage TunnelOutgoingMessage)

/-! ## Writing -/

def lineBreak : Text := ['\r', '\n']

/-- The line of one value. -/
def headerLine (name value : Text) : Text := name ++ ": ".toList ++ value

/-- The lines of all headers, with the values of a name one by one. -/
def dumpHeaders (headers : Headers) : Text :=
  lineBreak.intercalate (headers.entries.map (fun entry =>
    lineBreak.intercalate (entry.2.map (headerLine entry.1))))

/-- `dumpRawRequest`. -/
def dumpRawRequest (proxiedUrl : Text) (message : TunnelHttpRequestMessage) : Text :=
  let headers :=
    match message.headers with
    | none => []
    | some headers => dumpHeaders headers
  let content :=
    match message.content with
    | none => []
    | some content => Utf8.decode content
  message.httpMethod ++ " ".toList ++ proxiedUrl ++ " HTTP/1.1".toList ++ lineBreak ++ headers ++
    lineBreak ++ lineBreak ++ content

/-- `getRawResponse`. -/
def getRawResponse (message : TunnelOutgoingMessage) : Text :=
  "HTTP/1.1 ".toList ++ message.statusCode.source ++ lineBreak ++ dumpHeaders message.headers ++
    lineBreak ++ lineBreak ++ Utf8.decode message.content

/-! ## Reading -/

/-- The result of `parseRawMessage`. -/
structure ParsedMessage where
  headers : JsRecord Text
  content : Text
  contentType : Text

/-- One line: a text before a colon is the name of a header. -/
def readLine (read : JsRecord Text × Text) (line : Text) : JsRecord Text × Text :=
  match JsText.cut [':'] line with
  | none => read
  | some (before, after) =>
    let key := trim before
    let value := trim after
    (read.1.assign key value,
      if JsText.toLowerCase key = "content-type".toList then value else read.2)

/-- `parseRawMessage`. Without a blank line the two `substring`s are at −1 and 1. -/
def parseRawMessage (rawText : Text) : ParsedMessage :=
  let rawText := JsText.unixLines rawText
  let parts := (JsText.cut ['\n', '\n'] rawText).getD ([], rawText.drop 1)
  let read := (parts.1.splitOn '\n').foldl readLine (JsRecord.empty, [])
  ⟨read.1, parts.2, read.2⟩

/-! ## Agreement -/

/-- What is written: a request, with its URL, or a response. -/
inductive Dumped where
  | request (proxiedUrl : Text) (message : TunnelHttpRequestMessage)
  | response (message : TunnelOutgoingMessage)

namespace Dumped

def raw : Dumped → Text
  | request proxiedUrl message => dumpRawRequest proxiedUrl message
  | response message => getRawResponse message

def headers : Dumped → Headers
  | request _ message => message.headers.getD ⟨[], List.nodup_nil⟩
  | response message => message.headers

def content : Dumped → List UInt8
  | request _ message => message.content.getD []
  | response message => message.content

/-- The line before the headers. -/
def startLine : Dumped → Text
  | request proxiedUrl message =>
    message.httpMethod ++ " ".toList ++ proxiedUrl ++ " HTTP/1.1".toList
  | response message => "HTTP/1.1 ".toList ++ message.statusCode.source

/-- The texts that a start line is made of as they are. -/
def target : Dumped → List Text
  | request proxiedUrl message => [message.httpMethod, proxiedUrl]
  | response _ => []

end Dumped

/-- A text without line breaks. -/
def Unbroken (text : Text) : Prop := '\r' ∉ text ∧ '\n' ∉ text

instance (text : Text) : Decidable (Unbroken text) := inferInstanceAs (Decidable (_ ∧ _))

/-- A message as HTTP has it, with a body of text. -/
structure Sound (dumped : Dumped) (body : Text) : Prop where
  target : ∀ text ∈ dumped.target, Unbroken text
  names : ∀ name ∈ dumped.headers.names, ':' ∉ name ∧ Unbroken name
  values : ∀ entry ∈ dumped.headers.entries, ∀ value ∈ entry.2, Unbroken value
  content : dumped.content = Utf8.encode body

/-- The body is read back, and exactly the headers, each with all of its values. -/
def Recovers (dumped : Dumped) (body : Text) : Prop :=
  (parseRawMessage dumped.raw).content = body ∧
    ∀ name values, (name, values) ∈ dumped.headers.entries ↔
      ∃ value, values = [value] ∧ (parseRawMessage dumped.raw).headers.get name = some value

/-- A header that a table of trimmed texts can hold: it has one value. -/
def Holdable (entry : Text × List Text) : Prop :=
  ∃ value, entry.2 = [value] ∧ trim entry.1 = entry.1 ∧ entry.1 ≠ JsRecord.prototypeName ∧
    trim value = value

/-- The condition on a message. -/
structure Readable (dumped : Dumped) (body : Text) : Prop where
  headed : dumped.headers.entries ≠ []
  holdable : ∀ entry ∈ dumped.headers.entries, Holdable entry
  /-- What the start line has before a colon is the name of a given header, which then replaces
  its value, or the one name that takes none. -/
  started : ∀ parts ∈ JsText.cut [':'] dumped.startLine,
    trim parts.1 ∈ dumped.headers.names ∨ trim parts.1 = JsRecord.prototypeName
  unmarked : body.head? ≠ some Utf8.byteOrderMark
  unbroken : ¬['\r', '\n'] <:+: body

/-! ## Trimmed texts -/

section Trimming

variable {text : Text}

theorem trim_eq (text : Text) :
    trim text = (text.dropWhile JsNumber.blank).rdropWhile JsNumber.blank := rfl

theorem trim_blank (text : Text) : trim (' ' :: text) = trim text := by
  rw [trim_eq, trim_eq, List.dropWhile_cons_of_pos (by decide)]

/-- What is left has no blank at its ends. -/
theorem trim_trim (text : Text) : trim (trim text) = trim text := by
  rw [trim_eq, trim_eq]
  have front : ((text.dropWhile JsNumber.blank).rdropWhile JsNumber.blank).dropWhile
      JsNumber.blank = (text.dropWhile JsNumber.blank).rdropWhile JsNumber.blank := by
    apply List.dropWhile_eq_self_iff.mpr
    intro kept
    have begins := List.IsPrefix.getElem (List.rdropWhile_prefix JsNumber.blank
      (text.dropWhile JsNumber.blank)) kept
    rw [begins]
    have first := List.dropWhile_get_zero_not JsNumber.blank text
      (Nat.lt_of_lt_of_le kept (List.rdropWhile_prefix _ _).length_le)
    simpa using first
  rw [front, List.rdropWhile_idempotent]

end Trimming

/-! ## Start lines -/

theorem next_unbroken {part next : Json.Number} {char : Char} (read : part.next char = some next) :
    char ≠ '\r' ∧ char ≠ '\n' := by
  constructor
  · rintro rfl
    cases part <;> cases read
  · rintro rfl
    cases part <;> cases read

theorem scan_unbroken {text : Text} {part last : Json.Number} (read : part.scan text = some last) :
    Unbroken text := by
  induction text generalizing part with
  | nil => exact ⟨List.not_mem_nil, List.not_mem_nil⟩
  | cons char text inductionHypothesis =>
    obtain ⟨next, here, later⟩ := Option.bind_eq_some_iff.mp read
    obtain ⟨carriage, feed⟩ := next_unbroken here
    obtain ⟨carriages, feeds⟩ := inductionHypothesis later
    constructor
    · exact List.not_mem_cons_of_ne_of_not_mem carriage.symm carriages
    · exact List.not_mem_cons_of_ne_of_not_mem feed.symm feeds

/-- A numeral has no line break. -/
theorem numeral_unbroken {source : Text} (numeral : Json.Number.isNumeral source = true) :
    Unbroken source := by
  cases source with
  | nil => cases numeral
  | cons first rest =>
    cases read : (Json.Number.start first).bind (fun part => part.scan rest) with
    | none => simp [Json.Number.isNumeral, read] at numeral
    | some last =>
      obtain ⟨part, began, went⟩ := Option.bind_eq_some_iff.mp read
      obtain ⟨carriages, feeds⟩ := scan_unbroken went
      constructor
      · apply List.not_mem_cons_of_ne_of_not_mem _ carriages
        rintro rfl
        cases began
      · apply List.not_mem_cons_of_ne_of_not_mem _ feeds
        rintro rfl
        cases began

theorem Unbroken.append {first second : Text} (former : Unbroken first) (latter : Unbroken second) :
    Unbroken (first ++ second) :=
  ⟨List.not_mem_append former.1 latter.1, List.not_mem_append former.2 latter.2⟩

theorem startLine_unbroken {dumped : Dumped} (target : ∀ text ∈ dumped.target, Unbroken text) :
    Unbroken dumped.startLine := by
  cases dumped with
  | request proxiedUrl message =>
    have method : Unbroken message.httpMethod := target _ (.head _)
    have url : Unbroken proxiedUrl := target _ (.tail _ (.head _))
    have blank : Unbroken " ".toList := by decide
    have version : Unbroken " HTTP/1.1".toList := by decide
    exact ((method.append blank).append url).append version
  | response message =>
    have version : Unbroken "HTTP/1.1 ".toList := by decide
    exact version.append (numeral_unbroken message.statusCode.numeral)

theorem startLine_ne_nil (dumped : Dumped) : dumped.startLine ≠ [] := by
  cases dumped with
  | request proxiedUrl message =>
    have version : " HTTP/1.1".toList ≠ [] := by decide
    exact List.append_ne_nil_of_right_ne_nil _ version
  | response message =>
    have version : "HTTP/1.1 ".toList ≠ [] := by decide
    exact List.append_ne_nil_of_left_ne_nil version _

/-- Both messages are written in one way. -/
theorem raw_eq (dumped : Dumped) :
    dumped.raw = dumped.startLine ++ lineBreak ++ dumpHeaders dumped.headers ++ lineBreak ++
      lineBreak ++ Utf8.decode dumped.content := by
  cases dumped with
  | request proxiedUrl message =>
    have headers : (match message.headers with
        | none => []
        | some headers => dumpHeaders headers) =
          dumpHeaders (message.headers.getD ⟨[], List.nodup_nil⟩) := by
      cases message.headers <;> rfl
    have content : (match message.content with
        | none => []
        | some content => Utf8.decode content) = Utf8.decode (message.content.getD []) := by
      cases message.content <;> rfl
    simp only [Dumped.raw, dumpRawRequest, headers, content]
    rfl
  | response message => rfl

/-! ## Lines that are read -/

/-- Names and values are trimmed, and none has the name of the prototype. -/
def Tidy (record : JsRecord Text) : Prop :=
  ∀ name value, record.get name = some value →
    trim name = name ∧ name ≠ JsRecord.prototypeName ∧ trim value = value

theorem tidy_empty : Tidy JsRecord.empty := by
  intro name value found
  cases found

theorem tidy_assign {record : JsRecord Text} (tidy : Tidy record) (name value : Text) :
    Tidy (record.assign (trim name) (trim value)) := by
  intro other text found
  rw [JsRecord.get_assign] at found
  split at found
  · rename_i own
    obtain ⟨rfl, named⟩ := own
    obtain rfl := Option.some.inj found
    exact ⟨trim_trim name, named, trim_trim value⟩
  · exact tidy other text found

section Reading

variable {read : JsRecord Text × Text} {line name value : Text}

theorem readLine_tidy (tidy : Tidy read.1) (line : Text) : Tidy (readLine read line).1 := by
  unfold readLine
  split
  · exact tidy
  · exact tidy_assign tidy _ _

/-- No header is taken back. -/
theorem readLine_isSome (held : (read.1.get name).isSome = true) (line : Text) :
    ((readLine read line).1.get name).isSome = true := by
  unfold readLine
  split
  · exact held
  · rw [JsRecord.get_assign]
    split
    · rfl
    · exact held

theorem foldl_tidy (tidy : Tidy read.1) (lines : List Text) :
    Tidy (lines.foldl readLine read).1 := by
  induction lines generalizing read with
  | nil => exact tidy
  | cons line lines inductionHypothesis => exact inductionHypothesis (readLine_tidy tidy line)

theorem foldl_isSome (held : (read.1.get name).isSome = true) (lines : List Text) :
    ((lines.foldl readLine read).1.get name).isSome = true := by
  induction lines generalizing read with
  | nil => exact held
  | cons line lines inductionHypothesis => exact inductionHypothesis (readLine_isSome held line)

/-- The line of a header is read as its name and value, trimmed. -/
theorem readLine_headerLine (plain : ':' ∉ name) :
    (readLine read (headerLine name value)).1 = read.1.assign (trim name) (trim value) := by
  have split : JsText.cut [':'] (headerLine name value) = some (name, ' ' :: value) := by
    have written : headerLine name value = name ++ ':' :: ' ' :: value :=
      List.append_assoc name ": ".toList value
    rw [written, JsText.cut_char plain]
  rw [readLine, split]
  simp only [trim_blank]

/-- The lines of headers under distinct names, each with one value. -/
def headerLines (pairs : List (Text × Text)) : List Text :=
  pairs.map (fun pair => headerLine pair.1 pair.2)

/-- Headers that a table can hold are all there, and replace what was there. -/
theorem get_headerLines {pairs : List (Text × Text)} (distinct : (pairs.map Prod.fst).Nodup)
    (plain : ∀ pair ∈ pairs, ':' ∉ pair.1)
    (held : ∀ pair ∈ pairs, Holdable (pair.1, [pair.2])) (name value : Text) :
    ((headerLines pairs).foldl readLine read).1.get name = some value ↔
      (name, value) ∈ pairs ∨ (name ∉ pairs.map Prod.fst ∧ read.1.get name = some value) := by
  induction pairs generalizing read with
  | nil => simp [headerLines]
  | cons pair pairs inductionHypothesis =>
    obtain ⟨fresh, others⟩ := List.nodup_cons.mp distinct
    obtain ⟨here, plains⟩ := List.forall_mem_cons.mp plain
    obtain ⟨⟨single, same, named, proper, kept⟩, helds⟩ := List.forall_mem_cons.mp held
    obtain rfl : pair.2 = single := by simpa using same
    have first : (readLine read (headerLine pair.1 pair.2)).1 = read.1.assign pair.1 pair.2 := by
      rw [readLine_headerLine here, named, kept]
    have rest : ((headerLines pairs).foldl readLine
        (readLine read (headerLine pair.1 pair.2))).1.get name = some value ↔
          (name, value) ∈ pairs ∨ (name ∉ pairs.map Prod.fst ∧
            (readLine read (headerLine pair.1 pair.2)).1.get name = some value) :=
      inductionHypothesis others plains helds
    rw [first, JsRecord.get_assign] at rest
    refine rest.trans ?_
    by_cases own : name = pair.1
    · subst own
      have absent : (pair.1, value) ∉ pairs := fun listed =>
        fresh (List.mem_map.mpr ⟨_, listed, rfl⟩)
      simp [absent, proper, fresh, eq_comm, Prod.ext_iff]
    · have apart : (name, value) ≠ pair := fun same => own (congrArg Prod.fst same)
      simp [own, apart]

end Reading

/-! ## Messages that are read -/

section Messages

variable {startLine : Text} {lines : List Text}

/-- A message with headers is divided at the blank line behind them. -/
theorem parse_lines (given : lines ≠ [])
    (whole : ∀ line ∈ startLine :: lines, line ≠ [] ∧ Unbroken line) (content : Text) :
    (parseRawMessage (startLine ++ lineBreak ++ lineBreak.intercalate lines ++ lineBreak ++
        lineBreak ++ content)).content = JsText.unixLines content ∧
      (parseRawMessage (startLine ++ lineBreak ++ lineBreak.intercalate lines ++ lineBreak ++
        lineBreak ++ content)).headers =
          ((startLine :: lines).foldl readLine (JsRecord.empty, [])).1 := by
  have joined : startLine ++ lineBreak ++ lineBreak.intercalate lines ++ lineBreak ++ lineBreak ++
      content = ['\r', '\n'].intercalate (startLine :: lines) ++
        '\r' :: '\n' :: '\r' :: '\n' :: content := by
    rw [List.intercalate_cons_of_ne_nil given]
    simp [lineBreak]
  have unix : JsText.unixLines (startLine ++ lineBreak ++ lineBreak.intercalate lines ++
      lineBreak ++ lineBreak ++ content) = ['\n'].intercalate (startLine :: lines) ++
        '\n' :: '\n' :: JsText.unixLines content := by
    rw [joined, JsText.unixLines_intercalate (fun line listed => (whole line listed).2.1),
      JsText.unixLines_break]
  have divided : JsText.cut ['\n', '\n'] (['\n'].intercalate (startLine :: lines) ++
      '\n' :: '\n' :: JsText.unixLines content) =
        some (['\n'].intercalate (startLine :: lines), JsText.unixLines content) :=
    JsText.cut_lines (List.cons_ne_nil _ _)
      (fun line listed => ⟨(whole line listed).1, (whole line listed).2.2⟩) _
  have split : (['\n'].intercalate (startLine :: lines)).splitOn '\n' = startLine :: lines :=
    List.splitOn_intercalate '\n' (fun line listed => (whole line listed).2.2)
      (List.cons_ne_nil _ _)
  simp only [parseRawMessage, unix, divided, Option.getD_some, split, and_self]

/-- Without headers the blank line is found one line break too early. -/
theorem parse_headless (whole : Unbroken startLine) (content : Text) :
    (parseRawMessage (startLine ++ lineBreak ++ [] ++ lineBreak ++ lineBreak ++
      content)).content = '\n' :: JsText.unixLines content := by
  have unix : JsText.unixLines (startLine ++ lineBreak ++ [] ++ lineBreak ++ lineBreak ++
      content) = startLine ++ '\n' :: '\n' :: '\n' :: JsText.unixLines content := by
    have joined : startLine ++ lineBreak ++ [] ++ lineBreak ++ lineBreak ++ content =
        startLine ++ '\r' :: '\n' :: '\r' :: '\n' :: '\r' :: '\n' :: content := by
      simp [lineBreak]
    rw [joined, JsText.unixLines_append whole.1, JsText.unixLines_break, JsText.unixLines_break,
      JsText.unixLines_break]
  have divided : JsText.cut ['\n', '\n'] (startLine ++ '\n' :: '\n' :: '\n' ::
      JsText.unixLines content) = some (startLine, '\n' :: JsText.unixLines content) := by
    have found := JsText.cut_separator ['\n', '\n'] ('\n' :: JsText.unixLines content)
    rw [JsText.cut_free whole.2]
    simp [show JsText.cut ['\n', '\n'] ('\n' :: '\n' :: '\n' :: JsText.unixLines content) =
      some ([], '\n' :: JsText.unixLines content) from found]
  simp only [parseRawMessage, unix, divided, Option.getD_some]

end Messages

/-! ## Bodies -/

section Bodies

variable {body : Text}

theorem decode_encode (body : Text) : Utf8.decode (Utf8.encode body) = Utf8.dropMark body := by
  rw [Utf8.decode, Utf8.run_encode]

theorem count_dropMark (body : Text) : (Utf8.dropMark body).count '\n' = body.count '\n' := by
  cases body with
  | nil => rfl
  | cons char body =>
    rw [Utf8.dropMark]
    split
    · rename_i mark
      subst mark
      rfl
    · rfl

/-- A body comes through if it begins with no mark and holds no line break of two characters. -/
theorem content_iff : JsText.unixLines (Utf8.dropMark body) = body ↔
    body.head? ≠ some Utf8.byteOrderMark ∧ ¬['\r', '\n'] <:+: body := by
  cases body with
  | nil => simp [Utf8.dropMark, JsText.unixLines]
  | cons char body =>
    rw [Utf8.dropMark]
    split
    · rename_i mark
      have shorter := JsText.length_unixLines body
      constructor
      · intro same
        rw [same, List.length_cons] at shorter
        exact absurd shorter (Nat.not_succ_le_self _)
      · rintro ⟨unmarked, -⟩
        exact absurd (congrArg some mark) unmarked
    · rename_i unmarked
      have begins : (char :: body).head? ≠ some Utf8.byteOrderMark := by simpa using unmarked
      rw [JsText.unixLines_eq_iff]
      exact (and_iff_right begins).symm

/-- A line feed more than the body has is in no text that comes through. -/
theorem headless_ne (body : Text) : '\n' :: JsText.unixLines (Utf8.dropMark body) ≠ body := by
  intro same
  have counted := congrArg (List.count '\n') same
  rw [List.count_cons_self, JsText.count_unixLines, count_dropMark] at counted
  exact Nat.succ_ne_self _ counted

end Bodies

/-! ## Agreement of both -/

/-- Headers with one value each are a list of pairs. -/
theorem exists_pairs {entries : List (Text × List Text)}
    (single : ∀ entry ∈ entries, ∃ value, entry.2 = [value]) :
    ∃ pairs : List (Text × Text), entries = pairs.map (fun pair => (pair.1, [pair.2])) := by
  induction entries with
  | nil => exact ⟨[], rfl⟩
  | cons entry entries inductionHypothesis =>
    obtain ⟨⟨value, one⟩, others⟩ := List.forall_mem_cons.mp single
    obtain ⟨pairs, rfl⟩ := inductionHypothesis others
    exact ⟨(entry.1, value) :: pairs, by rw [List.map_cons, ← one]⟩

/-- The headers of one value each that are read under a start line. -/
theorem headers_iff {startLine : Text} {pairs : List (Text × Text)}
    (distinct : (pairs.map Prod.fst).Nodup) (plain : ∀ pair ∈ pairs, ':' ∉ pair.1) :
    (∀ name value, (name, value) ∈ pairs ↔
      (((startLine :: headerLines pairs).foldl readLine (JsRecord.empty, [])).1.get name =
        some value)) ↔
    (∀ pair ∈ pairs, Holdable (pair.1, [pair.2])) ∧
      ∀ parts ∈ JsText.cut [':'] startLine,
        trim parts.1 ∈ pairs.map Prod.fst ∨ trim parts.1 = JsRecord.prototypeName := by
  have started (parts : Text × Text) (split : JsText.cut [':'] startLine = some parts) :
      (readLine (JsRecord.empty, []) startLine).1 =
        JsRecord.empty.assign (trim parts.1) (trim parts.2) := by
    rw [readLine, split]
  constructor
  · intro same
    constructor
    · intro pair listed
      have tidy : Tidy ((startLine :: headerLines pairs).foldl readLine (JsRecord.empty, [])).1 :=
        foldl_tidy tidy_empty _
      obtain ⟨named, proper, kept⟩ := tidy pair.1 pair.2 ((same pair.1 pair.2).mp listed)
      exact ⟨pair.2, rfl, named, proper, kept⟩
    · intro parts split
      by_cases proper : trim parts.1 = JsRecord.prototypeName
      · exact Or.inr proper
      · have begun : ((readLine (JsRecord.empty, []) startLine).1.get (trim parts.1)).isSome =
            true := by
          rw [started parts split, JsRecord.get_assign, if_pos ⟨rfl, proper⟩]
          rfl
        obtain ⟨value, found⟩ :=
          Option.isSome_iff_exists.mp (foldl_isSome begun (headerLines pairs))
        exact Or.inl (List.mem_map.mpr ⟨_, (same _ value).mpr found, rfl⟩)
  · rintro ⟨held, given⟩ name value
    refine Iff.trans ?_ (get_headerLines distinct plain held name value).symm
    have foreign : ¬(name ∉ pairs.map Prod.fst ∧
        (readLine (JsRecord.empty, []) startLine).1.get name = some value) := by
      rintro ⟨fresh, found⟩
      cases split : JsText.cut [':'] startLine with
      | none => simp [readLine, split] at found
      | some parts =>
        rw [started parts split, JsRecord.get_assign] at found
        split at found
        · rename_i own
          obtain listed | proper := given parts split
          · exact fresh (own.1 ▸ listed)
          · exact own.2 proper
        · cases found
    exact (or_iff_left foreign).symm

/-- The lines of the headers of a sound message are no blank lines, and each is one line. -/
theorem headerLines_whole {dumped : Dumped} {body : Text} {pairs : List (Text × Text)}
    (sound : Sound dumped body)
    (paired : dumped.headers.entries = pairs.map (fun pair => (pair.1, [pair.2]))) :
    ∀ line ∈ headerLines pairs, line ≠ [] ∧ Unbroken line := by
  intro line listed
  obtain ⟨pair, member, rfl⟩ := List.mem_map.mp listed
  have entry : (pair.1, [pair.2]) ∈ dumped.headers.entries := by
    rw [paired]
    exact List.mem_map_of_mem member
  have name : Unbroken pair.1 := (sound.names _ (List.mem_map_of_mem entry)).2
  have value : Unbroken pair.2 := sound.values _ entry _ (.head _)
  have colon : Unbroken ": ".toList := by decide
  constructor
  · exact List.append_ne_nil_of_left_ne_nil (List.append_ne_nil_of_right_ne_nil _ (by decide)) _
  · exact (name.append colon).append value

/-- A table holds just the entries of one value each if it holds just the pairs. -/
theorem entries_iff (pairs : List (Text × Text)) (record : JsRecord Text) :
    (∀ name values, (name, values) ∈ pairs.map (fun pair => (pair.1, [pair.2])) ↔
        ∃ value, values = [value] ∧ record.get name = some value) ↔
      ∀ name value, (name, value) ∈ pairs ↔ record.get name = some value := by
  have single (name value : Text) :
      (name, [value]) ∈ pairs.map (fun pair => (pair.1, [pair.2])) ↔ (name, value) ∈ pairs := by
    simp
  constructor
  · intro same name value
    rw [← single, same]
    simp
  · intro same name values
    constructor
    · intro listed
      obtain ⟨pair, member, one⟩ := List.mem_map.mp listed
      obtain ⟨rfl, rfl⟩ := Prod.mk.inj one
      exact ⟨pair.2, rfl, (same _ _).mp member⟩
    · rintro ⟨value, rfl, found⟩
      exact (single name value).mpr ((same name value).mpr found)

/-- A message with headers of one value each. -/
theorem recovers_pairs {dumped : Dumped} {body : Text} (sound : Sound dumped body)
    {pairs : List (Text × Text)} (given : pairs ≠ [])
    (paired : dumped.headers.entries = pairs.map (fun pair => (pair.1, [pair.2]))) :
    Recovers dumped body ↔ Readable dumped body := by
  have written : dumpHeaders dumped.headers = lineBreak.intercalate (headerLines pairs) := by
    rw [dumpHeaders, paired, List.map_map, headerLines]
    congr 1
    apply List.map_congr_left
    intro pair _
    exact List.intercalate_singleton
  have names : dumped.headers.names = pairs.map Prod.fst := by
    rw [Headers.names, paired, List.map_map]
    rfl
  have headed : dumped.headers.entries ≠ [] := by simpa [paired] using given
  have distinct : (pairs.map Prod.fst).Nodup := names ▸ dumped.headers.distinct
  have plain : ∀ pair ∈ pairs, ':' ∉ pair.1 := by
    intro pair member
    apply (sound.names _ _).1
    rw [names]
    exact List.mem_map_of_mem member
  have lines : headerLines pairs ≠ [] := mt List.map_eq_nil_iff.mp given
  have whole : ∀ line ∈ dumped.startLine :: headerLines pairs, line ≠ [] ∧ Unbroken line :=
    List.forall_mem_cons.mpr ⟨⟨startLine_ne_nil dumped, startLine_unbroken sound.target⟩,
      headerLines_whole sound paired⟩
  obtain ⟨content, headers⟩ := parse_lines lines whole (Utf8.dropMark body)
  unfold Recovers
  rw [raw_eq, sound.content, decode_encode, written, content, headers, paired, content_iff,
    entries_iff, headers_iff distinct plain]
  constructor
  · rintro ⟨⟨unmarked, unbroken⟩, held, started⟩
    refine ⟨headed, ?_, by rwa [names], unmarked, unbroken⟩
    rw [paired]
    exact List.forall_mem_map.mpr held
  · intro readable
    have held := readable.holdable
    rw [paired] at held
    have started := readable.started
    rw [names] at started
    exact ⟨⟨readable.unmarked, readable.unbroken⟩, List.forall_mem_map.mp held, started⟩

/-- A message is read back exactly if it has a header, each with one value that a table can hold
under its name, if its start line makes up no header, and if its body begins with no mark and
has no line break of two characters. -/
theorem recovers_iff (dumped : Dumped) (body : Text) (sound : Sound dumped body) :
    Recovers dumped body ↔ Readable dumped body := by
  by_cases headed : dumped.headers.entries = []
  · constructor
    · rintro ⟨same, -⟩
      have written : dumpHeaders dumped.headers = [] := by rw [dumpHeaders, headed]; rfl
      rw [raw_eq, sound.content, decode_encode, written,
        parse_headless (startLine_unbroken sound.target)] at same
      exact absurd same (headless_ne body)
    · intro readable
      exact absurd headed readable.headed
  by_cases single : ∀ entry ∈ dumped.headers.entries, ∃ value, entry.2 = [value]
  · obtain ⟨pairs, paired⟩ := exists_pairs single
    have given : pairs ≠ [] := by
      rintro rfl
      exact headed paired
    exact recovers_pairs sound given paired
  · constructor
    · rintro ⟨-, same⟩
      apply absurd _ single
      intro entry listed
      obtain ⟨value, one, -⟩ := (same entry.1 entry.2).mp listed
      exact ⟨value, one⟩
    · intro readable
      apply absurd _ single
      intro entry listed
      obtain ⟨value, one, -⟩ := readable.holdable entry listed
      exact ⟨value, one⟩

theorem ok_numeral : Json.Number.isNumeral ['2', '0', '0'] = true := rfl

/-- A response with the headers of a list. -/
def okResponse (entries : List (Text × List Text)) (content : List UInt8) : Dumped :=
  .response ⟨⟨['2', '0', '0'], ok_numeral⟩, Headers.ofEntries entries, content⟩

/-- A response with one header and a body is read back, unless the body has a line break of two
characters. -/
theorem recovers_iff_single :
    Recovers (okResponse [(['a'], [['b']])] [0x78]) ['x'] ∧
      ¬Recovers (okResponse [(['a'], [['b']])] [0x0D, 0x0A]) ['\r', '\n'] := by
  have sound : Sound (okResponse [(['a'], [['b']])] [0x78]) ['x'] :=
    ⟨fun _ listed => absurd listed (by simp [okResponse, Dumped.target]), by decide, by decide,
      by decide⟩
  have broken : Sound (okResponse [(['a'], [['b']])] [0x0D, 0x0A]) ['\r', '\n'] :=
    ⟨fun _ listed => absurd listed (by simp [okResponse, Dumped.target]), by decide, by decide,
      by decide⟩
  have readable : Readable (okResponse [(['a'], [['b']])] [0x78]) ['x'] := by
    refine ⟨by decide, ?_, ?_, by decide, by decide⟩
    · intro entry listed
      obtain rfl := List.mem_singleton.mp listed
      exact ⟨['b'], rfl, by decide, by decide, by decide⟩
    · intro parts listed
      cases listed
  constructor
  · exact (recovers_iff _ _ sound).mpr readable
  · intro recovers
    exact ((recovers_iff _ _ broken).mp recovers).unbroken List.infix_rfl

/-- A response without headers gets a line feed before its body, of a repeated header the last
value is left, and a body loses its carriage returns. -/
theorem responses_altered :
    (parseRawMessage (okResponse [] [0x78]).raw).content = ['\n', 'x'] ∧
      ¬Recovers (okResponse [] [0x78]) ['x'] ∧
      (parseRawMessage (okResponse [(['a'], [['b'], ['c']])] []).raw).headers.entries =
        [(['a'], ['c'])] ∧
      ¬Recovers (okResponse [(['a'], [['b'], ['c']])] []) [] ∧
      (parseRawMessage (okResponse [(['a'], [['b']])] [0x0D, 0x0A]).raw).content = ['\n'] ∧
      ¬Recovers (okResponse [(['a'], [['b']])] [0x0D, 0x0A]) ['\r', '\n'] := by
  refine ⟨by decide, ?_, by decide, ?_, by decide, ?_⟩
  · rintro ⟨same, -⟩
    exact absurd same (by decide)
  · rintro ⟨-, same⟩
    obtain ⟨value, one, -⟩ := (same ['a'] [['b'], ['c']]).mp (by decide)
    cases one
  · rintro ⟨same, -⟩
    exact absurd same (by decide)

end WebPubSub.Traffic
