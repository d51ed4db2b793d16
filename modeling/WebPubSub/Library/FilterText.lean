import WebPubSub.Library.Filter

/-!
# The text of group filters

Words are runs of letters, a literal stands between single quotes and doubles a
quote inside it, and blanks separate. The character machine is joined with the
expression machine, and printing is inverted for every expression and every
literal, whatever characters it contains.
-/

namespace Filter

/-- Where the character machine stands between two characters. A closing quote
is kept back, since a second one would continue the literal. -/
inductive Scanning where
  | between : Scanning
  | word : List Char → Scanning
  | literal : List Char → Scanning
  | quote : List Char → Scanning
deriving DecidableEq, Repr

/-- Letters, digits and the underscore form words. -/
def wordChar (char : Char) : Bool := char.isAlphanum || char == '_'

/-- A character that no pending token continues with. -/
def scanStart (char : Char) : Option (Scanning × List Token) :=
  if char = ' ' then some (.between, [])
  else if char = '\'' then some (.literal [], [])
  else if char = '(' then some (.between, [.opening])
  else if char = ')' then some (.between, [.closing])
  else if wordChar char then some (.word [char], [])
  else none

/-- Give a finished token first, then take the character afresh. -/
def scanAfter (finished : Token) (char : Char) : Option (Scanning × List Token) :=
  (scanStart char).map (fun next => (next.1, finished :: next.2))

def scanStep : Scanning → Char → Option (Scanning × List Token)
  | .between, char => scanStart char
  | .word seen, char =>
      if wordChar char then some (.word (seen ++ [char]), []) else scanAfter (.word seen) char
  | .literal seen, char =>
      if char = '\'' then some (.quote seen, []) else some (.literal (seen ++ [char]), [])
  | .quote seen, char =>
      if char = '\'' then some (.literal (seen ++ ['\'']), []) else scanAfter (.literal seen) char

/-- The character machine gives each token when the next one begins. -/
def scanner : Machine Scanning Char Token := ⟨scanStep⟩

/-- What the end of the text adds. An open literal is an error. -/
def scanEnd : Scanning → Option (List Token)
  | .between => some []
  | .word seen => some [.word seen]
  | .literal _ => none
  | .quote seen => some [.literal seen]

/-- The tokens of a whole text. -/
def tokenize (text : List Char) : Option (List Token) := do
  let (final, tokens) ← scanner.run .between text
  let last ← scanEnd final
  pure (tokens ++ last)

/-- Read a filter text. -/
def read (text : List Char) : Option Expr := (tokenize text).bind parse

/-- The connections a filter text selects; a malformed text selects none. -/
def Selects (text : List Char) (groups : Set (List Char)) : Prop :=
  ∃ filter, read text = some filter ∧ filter.Holds groups

/-- Selection is decided by reading the text. -/
instance decidableSelects (text : List Char) (groups : Set (List Char))
    [DecidablePred (· ∈ groups)] : Decidable (Selects text groups) :=
  match found : read text with
  | none => isFalse (by simp [Selects, found])
  | some filter => decidable_of_iff (filter.Holds groups) (by simp [Selects, found])

/-- Quotes inside a literal are doubled. -/
def escape (name : List Char) : List Char :=
  name.flatMap (fun char => if char = '\'' then ['\'', '\''] else [char])

/-- The text of an expression, following `Expr.tokens` place by place. -/
def Expr.render : Nat → Expr → List Char
  | _, .member name => '\'' :: escape name ++ "' in groups".toList
  | _, .not operand => "not (".toList ++ operand.render 0 ++ ")".toList
  | strength, .and left right =>
      enclose '(' ')' (1 < strength) (left.render 1 ++ " and ".toList ++ right.render 2)
  | strength, .or left right =>
      enclose '(' ')' (0 < strength) (left.render 0 ++ " or ".toList ++ right.render 1)

/-! ## Reading printed text -/

/-- The scanner stopped where the end of the text, a blank and a closing
parenthesis all give the same pending tokens. -/
def Pending (stopped : Scanning) (last : List Token) : Prop :=
  scanEnd stopped = some last ∧ ∀ char, char = ' ' ∨ char = ')' →
    scanStep stopped char = (scanStart char).map (fun next => (next.1, last ++ next.2))

/-- A piece of text whose tokens do not depend on the delimiter after it. -/
def Scans (text : List Char) (tokens : List Token) : Prop :=
  ∃ stopped first last, scanner.run .between text = some (stopped, first) ∧
    Pending stopped last ∧ first ++ last = tokens

/-- Nothing gives no token. -/
theorem scans_nil : Scans [] [] :=
  ⟨.between, [], [], rfl, ⟨rfl, fun char _ => by simp [scanStep, Option.map_id']⟩, rfl⟩

/-- A word is one token. -/
theorem scans_word (char : Char) (rest : List Char)
    (letters : ∀ letter ∈ char :: rest, wordChar letter = true)
    (plain : char ≠ ' ' ∧ char ≠ '\'' ∧ char ≠ '(' ∧ char ≠ ')') :
    Scans (char :: rest) [.word (char :: rest)] := by
  have continues (seen more : List Char) (word : ∀ letter ∈ more, wordChar letter = true) :
      scanner.run (.word seen) more = some (.word (seen ++ more), []) := by
    induction more generalizing seen with
    | nil => simp
    | cons letter more inductionHypothesis =>
      have step : scanner.step (.word seen) letter = some (.word (seen ++ [letter]), []) := by
        simp [scanner, scanStep, word letter (by simp)]
      rw [scanner.run_cons_of_step step,
        inductionHypothesis _ (fun other member => word other (by simp [member]))]
      simp
  have begins : scanner.step .between char = some (.word [char], []) := by
    simp [scanner, scanStep, scanStart, plain, letters char (by simp)]
  refine ⟨.word (char :: rest), [], [.word (char :: rest)], ?_, ⟨rfl, ?_⟩, rfl⟩
  · rw [scanner.run_cons_of_step begins,
      continues [char] rest (fun letter member => letters letter (by simp [member]))]
    rfl
  · rintro delimiter (rfl | rfl) <;> rfl

/-- A quoted literal is one token, whatever it contains. -/
theorem scans_literal (name : List Char) :
    Scans ('\'' :: escape name ++ ['\'']) [.literal name] := by
  have continues (seen more : List Char) :
      scanner.run (.literal seen) (escape more) = some (.literal (seen ++ more), []) := by
    induction more generalizing seen with
    | nil => simp [escape]
    | cons char more inductionHypothesis =>
      have rest := inductionHypothesis (seen ++ [char])
      have step : scanner.run (.literal seen) (if char = '\'' then ['\'', '\''] else [char]) =
          some (.literal (seen ++ [char]), []) := by
        by_cases quoted : char = '\''
        · subst quoted
          rfl
        · simp only [quoted, if_false]
          exact scanner.run_single (by simp [scanner, scanStep, quoted])
      simpa [escape] using scanner.run_append_of_run step rest
  have begins : scanner.run .between ['\''] = some (.literal [], []) := rfl
  have ends : scanner.run (.literal name) ['\''] = some (.quote name, []) := rfl
  refine ⟨.quote name, [], [.literal name], ?_, ⟨rfl, ?_⟩, rfl⟩
  · have inner := continues [] name
    simpa using scanner.run_append_of_run (scanner.run_append_of_run begins inner) ends
  · rintro delimiter (rfl | rfl) <;> rfl

/-- Two pieces with a blank between them give their tokens in order. -/
theorem scans_blank {left right : List Char} {leftTokens rightTokens : List Token}
    (first : Scans left leftTokens) (second : Scans right rightTokens) :
    Scans (left ++ ' ' :: right) (leftTokens ++ rightTokens) := by
  obtain ⟨stopped, early, last, ran, pending, rfl⟩ := first
  obtain ⟨after, rest, final, continued, finishes, rfl⟩ := second
  have blank : scanner.step stopped ' ' = some (.between, last) := by
    change scanStep stopped ' ' = _
    rw [pending.2 ' ' (Or.inl rfl)]
    simp [scanStart]
  refine ⟨after, early ++ (last ++ rest), final, ?_, finishes, by simp⟩
  apply scanner.run_append_of_run ran
  rw [scanner.run_cons_of_step blank, continued]
  rfl

/-- A parenthesised piece gives its tokens between the two delimiters. -/
theorem scans_enclosed {inner : List Char} {tokens : List Token} (scanned : Scans inner tokens) :
    Scans ('(' :: inner ++ [')']) (.opening :: tokens ++ [.closing]) := by
  obtain ⟨stopped, early, last, ran, pending, rfl⟩ := scanned
  have closing : scanner.run stopped [')'] = some (.between, last ++ [.closing]) := by
    apply scanner.run_single
    change scanStep stopped ')' = _
    rw [pending.2 ')' (Or.inr rfl)]
    rfl
  have begins : scanner.run .between ['('] = some (.between, [.opening]) := rfl
  refine ⟨.between, .opening :: (early ++ (last ++ [.closing])), [], ?_, ⟨rfl, ?_⟩, by simp⟩
  · simpa using scanner.run_append_of_run (scanner.run_append_of_run begins ran) closing
  · rintro delimiter (rfl | rfl) <;> rfl

theorem scans_enclose (needed : Bool) {inner : List Char} {tokens : List Token}
    (scanned : Scans inner tokens) :
    Scans (Expr.enclose '(' ')' needed inner) (Expr.enclose .opening .closing needed tokens) := by
  cases needed with
  | false => exact scanned
  | true => exact scans_enclosed scanned

/-- Pieces joined by a word give their tokens joined by the word's. -/
theorem scans_intercalate {word : List Char} {token : Token} (keyword : Scans word [token])
    {α : Type} (text : α → List Char) (tokens : α → List Token)
    (scanned : ∀ piece, Scans (text piece) (tokens piece)) (first : α) (rest : List α) :
    Scans (List.intercalate (' ' :: word ++ [' ']) ((first :: rest).map text))
      (List.intercalate [token] ((first :: rest).map tokens)) := by
  induction rest generalizing first with
  | nil => simpa [List.intercalate] using scanned first
  | cons next more inductionHypothesis =>
    have joined := scans_blank (scanned first) (scans_blank keyword (inductionHypothesis next))
    simpa [List.intercalate, List.append_assoc] using joined

theorem scans_keyword : Scans "in".toList [.word "in".toList] ∧
    Scans "groups".toList [.word "groups".toList] ∧ Scans "not".toList [.word "not".toList] ∧
    Scans "and".toList [.word "and".toList] ∧ Scans "or".toList [.word "or".toList] := by
  refine ⟨?_, ?_, ?_, ?_, ?_⟩ <;>
    exact scans_word _ _ (List.all_eq_true.mp (by decide)) (by decide)

/-- The text of every expression scans to its tokens at every strength. -/
theorem scans_render (filter : Expr) (strength : Nat) :
    Scans (filter.render strength) (filter.tokens strength) := by
  obtain ⟨inWord, groupsWord, notWord, andWord, orWord⟩ := scans_keyword
  induction filter generalizing strength with
  | member name =>
    have scanned := scans_blank (scans_literal name) (scans_blank inWord groupsWord)
    simpa [Expr.render, Expr.tokens] using scanned
  | not operand inductionHypothesis =>
    have scanned := scans_blank notWord (scans_enclosed (inductionHypothesis 0))
    simpa [Expr.render, Expr.tokens] using scanned
  | and left right leftHypothesis rightHypothesis =>
    have scanned := scans_blank (leftHypothesis 1) (scans_blank andWord (rightHypothesis 2))
    simpa [Expr.render, Expr.tokens] using scans_enclose (1 < strength) scanned
  | or left right leftHypothesis rightHypothesis =>
    have scanned := scans_blank (leftHypothesis 0) (scans_blank orWord (rightHypothesis 1))
    simpa [Expr.render, Expr.tokens] using scans_enclose (0 < strength) scanned

theorem tokenize_of_scans {text : List Char} {tokens : List Token} (scanned : Scans text tokens) :
    tokenize text = some tokens := by
  obtain ⟨stopped, first, last, ran, pending, rfl⟩ := scanned
  simp [tokenize, ran, pending.1]

/-- Reading the text of an expression gives the expression. -/
theorem read_render (filter : Expr) : read (filter.render 0) = some filter := by
  simp [read, tokenize_of_scans (scans_render filter 0), parse_tokens]

/-- A printed text selects exactly where its expression holds. -/
theorem selects_render (filter : Expr) (groups : Set (List Char)) :
    Selects (filter.render 0) groups ↔ filter.Holds groups := by
  simp [Selects, read_render]

/-- A literal without quotes is printed as it stands. -/
theorem escape_plain {name : List Char} (plain : '\'' ∉ name) : escape name = name := by
  induction name with
  | nil => rfl
  | cons char rest inductionHypothesis =>
    obtain ⟨different, absent⟩ : '\'' ≠ char ∧ '\'' ∉ rest := by simpa using plain
    have kept : escape rest = rest := inductionHypothesis absent
    simp only [escape, List.flatMap_cons] at kept ⊢
    rw [kept, if_neg (Ne.symm different)]
    rfl

/-- Conjunction binds tighter than disjunction in a text without parentheses. -/
example : read "'a' in groups or 'b' in groups and not ('c' in groups)".toList =
    some (.or (.member ['a']) (.and (.member ['b']) (.not (.member ['c'])))) := by
  decide

end Filter
