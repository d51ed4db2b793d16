import Mathlib.Data.Set.Basic
import WebPubSub.Library.Machine

/-!
# Group filters of an OData dialect

A filter is a Boolean combination of tests `'name' in groups`. Its text is read
in two passes: a character machine yields tokens, and a machine with a stack of
unfinished operands builds the expression. `not` applies to one parenthesised
operand, `and` binds tighter than `or`, and both associate to the left.

Printing inserts parentheses exactly where these rules need them. Reading the
printed text of any expression gives the expression back, so the meaning of a
text is settled as soon as it is recognised as a printed one.
-/

namespace Filter

/-- A Boolean combination of group-membership tests. -/
inductive Expr where
  | member : List Char → Expr
  | not : Expr → Expr
  | and : Expr → Expr → Expr
  | or : Expr → Expr → Expr
deriving DecidableEq, Repr

/-- Truth at a connection, seen as the set of the group names it belongs to. -/
def Expr.Holds (groups : Set (List Char)) : Expr → Prop
  | .member name => name ∈ groups
  | .not operand => ¬ operand.Holds groups
  | .and left right => left.Holds groups ∧ right.Holds groups
  | .or left right => left.Holds groups ∨ right.Holds groups

@[simp]
theorem holds_member (groups : Set (List Char)) (name : List Char) :
    (Expr.member name).Holds groups ↔ name ∈ groups := Iff.rfl

@[simp]
theorem holds_not (groups : Set (List Char)) (operand : Expr) :
    (Expr.not operand).Holds groups ↔ ¬ operand.Holds groups := Iff.rfl

@[simp]
theorem holds_and (groups : Set (List Char)) (left right : Expr) :
    (Expr.and left right).Holds groups ↔ left.Holds groups ∧ right.Holds groups := Iff.rfl

@[simp]
theorem holds_or (groups : Set (List Char)) (left right : Expr) :
    (Expr.or left right).Holds groups ↔ left.Holds groups ∨ right.Holds groups := Iff.rfl

instance Expr.decidableHolds (groups : Set (List Char)) [DecidablePred (· ∈ groups)] :
    (filter : Expr) → Decidable (filter.Holds groups)
  | .member name => inferInstanceAs (Decidable (name ∈ groups))
  | .not operand =>
      have := decidableHolds groups operand
      inferInstanceAs (Decidable (¬ operand.Holds groups))
  | .and left right =>
      have := decidableHolds groups left
      have := decidableHolds groups right
      inferInstanceAs (Decidable (left.Holds groups ∧ right.Holds groups))
  | .or left right =>
      have := decidableHolds groups left
      have := decidableHolds groups right
      inferInstanceAs (Decidable (left.Holds groups ∨ right.Holds groups))

/-- The lexical units. Keywords are words; a quoted literal is never a word. -/
inductive Token where
  | literal : List Char → Token
  | word : List Char → Token
  | opening : Token
  | closing : Token
deriving DecidableEq, Repr

/-- Enclose a printed operand when its own operator binds more loosely than the
place it stands in. -/
def Expr.enclose {α : Type} (opening closing : α) (needed : Bool) (inner : List α) : List α :=
  if needed then opening :: inner ++ [closing] else inner

/-- The tokens of an expression at a place that admits operators of at least the
given strength: 0 for `or`, 1 for `and`, 2 for a single test. -/
def Expr.tokens : Nat → Expr → List Token
  | _, .member name => [.literal name, .word "in".toList, .word "groups".toList]
  | _, .not operand =>
      .word "not".toList :: .opening :: operand.tokens 0 ++ [.closing]
  | strength, .and left right =>
      enclose .opening .closing (1 < strength)
        (left.tokens 1 ++ .word "and".toList :: right.tokens 2)
  | strength, .or left right =>
      enclose .opening .closing (0 < strength)
        (left.tokens 0 ++ .word "or".toList :: right.tokens 1)

/-! ## The expression machine -/

/-- An operand or group that waits for what follows it. -/
inductive Frame where
  | disjunct : Expr → Frame
  | conjunct : Expr → Frame
  | group : Bool → Frame
deriving DecidableEq

/-- What the reader expects next. -/
inductive Expecting where
  | operand : Expecting
  | negated : Expecting
  | afterLiteral : List Char → Expecting
  | afterIn : List Char → Expecting
  | operator : Expr → Expecting
deriving DecidableEq

/-- Finish a pending conjunction. -/
def closeAnd : List Frame → Expr → List Frame × Expr
  | .conjunct left :: stack, right => (stack, .and left right)
  | stack, right => (stack, right)

/-- Finish a pending conjunction, then a pending disjunction around it. -/
def closeOr (stack : List Frame) (right : Expr) : List Frame × Expr :=
  match closeAnd stack right with
  | (.disjunct left :: rest, operand) => (rest, .or left operand)
  | closed => closed

/-- One token. Every combination without an entry is a syntax error. -/
def parseStep : List Frame × Expecting → Token → Option (List Frame × Expecting)
  | (stack, .operand), .literal name => some (stack, .afterLiteral name)
  | (stack, .operand), .opening => some (.group false :: stack, .operand)
  | (stack, .operand), .word word =>
      if word = "not".toList then some (stack, .negated) else none
  | (stack, .negated), .opening => some (.group true :: stack, .operand)
  | (stack, .afterLiteral name), .word word =>
      if word = "in".toList then some (stack, .afterIn name) else none
  | (stack, .afterIn name), .word word =>
      if word = "groups".toList then some (stack, .operator (.member name)) else none
  | (stack, .operator right), .word word =>
      if word = "and".toList then
        let (rest, left) := closeAnd stack right
        some (.conjunct left :: rest, .operand)
      else if word = "or".toList then
        let (rest, left) := closeOr stack right
        some (.disjunct left :: rest, .operand)
      else none
  | (stack, .operator right), .closing =>
      match closeOr stack right with
      | (.group negated :: rest, inner) =>
          some (rest, .operator (if negated then .not inner else inner))
      | _ => none
  | _, _ => none

/-- The expression machine gives no output. -/
def parser : Machine (List Frame × Expecting) Token Empty where
  step state token := (parseStep state token).map (fun next => (next, []))

/-- A complete expression leaves no open group. -/
def finish : List Frame × Expecting → Option Expr
  | (stack, .operator right) =>
      match closeOr stack right with
      | ([], filter) => some filter
      | _ => none
  | _ => none

/-- Read a whole token list. -/
def parse (tokens : List Token) : Option Expr := do
  let (state, _) ← parser.run ([], .operand) tokens
  finish state

/-! ## Reading printed tokens -/

theorem parser_step {state next : List Frame × Expecting} {token : Token}
    (parsed : parseStep state token = some next) :
    parser.step state token = some (next, []) := by
  simp [parser, parsed]

/-- A stack on which an operand of the given strength may start: nothing above
an enclosing group that would bind the operand's own operators. -/
def Admits : Nat → List Frame → Prop
  | 0, stack => ∀ right, closeOr stack right = (stack, right)
  | 1, stack => ∀ right, closeAnd stack right = (stack, right)
  | _, _ => True

/-- What closing up to a strength does to a pending operand. -/
def closeTo : Nat → List Frame → Expr → List Frame × Expr
  | 0 => closeOr
  | 1 => closeAnd
  | _ => fun stack right => (stack, right)

/-- The reader has taken an operand of the given strength: closing at that
strength rebuilds the operand over the stack it started on. -/
def Takes (strength : Nat) (tokens : List Token) (filter : Expr) : Prop :=
  ∀ stack, Admits strength stack → ∃ rest right,
    parser.run (stack, .operand) tokens = some ((rest, .operator right), []) ∧
      closeTo strength rest right = (stack, filter)

theorem run_through {state middle final : List Frame × Expecting} {before after : List Token}
    (first : parser.run state before = some (middle, []))
    (rest : parser.run middle after = some (final, [])) :
    parser.run state (before ++ after) = some (final, []) :=
  parser.run_append_of_run first rest

theorem run_token {state final : List Frame × Expecting} (middle : List Frame × Expecting)
    {token : Token} {after : List Token} (parsed : parseStep state token = some middle)
    (rest : parser.run middle after = some (final, [])) :
    parser.run state (token :: after) = some (final, []) := by
  rw [parser.run_cons_of_step (parser_step parsed), rest]
  rfl

/-- An operand of a tighter strength can stand where a looser one is admitted. -/
theorem closeOr_of_closeAnd {stack rest : List Frame} {right filter : Expr}
    (admitted : Admits 0 stack) (closed : closeAnd rest right = (stack, filter)) :
    closeOr rest right = (stack, filter) := by
  have kept := admitted filter
  simp only [closeOr] at kept ⊢
  rw [closed]
  cases stack with
  | nil => rfl
  | cons frame frames => cases frame <;> simp_all [closeAnd]

theorem admits_and_of_or {stack : List Frame} (admitted : Admits 0 stack) : Admits 1 stack := by
  intro right
  have kept := admitted right
  cases stack with
  | nil => rfl
  | cons frame frames =>
    cases frame with
    | conjunct left =>
      have length := congrArg (fun pair => pair.1.length) kept
      simp only [closeOr, closeAnd] at length
      split at length
      · simp_all
        omega
      · simp_all
    | disjunct left => rfl
    | group negated => rfl

/-- A single test also counts as a conjunction or a disjunction of one. -/
theorem takes_weaken {strength : Nat} {tokens : List Token} {filter : Expr}
    (taken : Takes 2 tokens filter) : Takes strength tokens filter := by
  intro stack admitted
  obtain ⟨rest, right, ran, closed⟩ := taken stack trivial
  obtain ⟨rfl, rfl⟩ : rest = stack ∧ right = filter := by simpa [closeTo] using closed
  refine ⟨rest, right, ran, ?_⟩
  match strength, admitted with
  | 0, admitted => exact admitted right
  | 1, admitted => exact admitted right
  | _ + 2, _ => rfl

/-- A conjunction also counts as a disjunction of one. -/
theorem takes_or_of_and {tokens : List Token} {filter : Expr}
    (taken : Takes 1 tokens filter) : Takes 0 tokens filter := by
  intro stack admitted
  obtain ⟨rest, right, ran, closed⟩ := taken stack (admits_and_of_or admitted)
  exact ⟨rest, right, ran, closeOr_of_closeAnd admitted closed⟩

/-- A parenthesised disjunction is a single operand. -/
theorem takes_enclosed {inner : List Token} {filter : Expr} (taken : Takes 0 inner filter) :
    Takes 2 (.opening :: inner ++ [.closing]) filter := by
  intro stack _
  obtain ⟨rest, right, ran, closed⟩ := taken (.group false :: stack) (fun _ => rfl)
  refine ⟨stack, filter, ?_, rfl⟩
  apply run_token (.group false :: stack, .operand) rfl
  refine run_through ran (run_token (stack, .operator filter) ?_ rfl)
  have closing : closeOr rest right = (.group false :: stack, filter) := closed
  simp [parseStep, closing]

/-- The expression machine reads the printed tokens of every expression, at
every strength.

Proof: induction on the expression, with all three strengths together. A test
and a negation are single operands. For `and`, the left part is closed as a
conjunction when the word arrives, and the right part is a single operand above
the new pending conjunct; `or` is the same one level down. A looser operator at a
tighter place was printed with parentheses, which reset the admitted strength. -/
theorem takes_tokens (filter : Expr) :
    Takes 0 (filter.tokens 0) filter ∧ Takes 1 (filter.tokens 1) filter ∧
      Takes 2 (filter.tokens 2) filter := by
  induction filter with
  | member name =>
    have single : Takes 2 (Expr.tokens 2 (.member name)) (.member name) := by
      intro stack _
      exact ⟨stack, .member name, rfl, rfl⟩
    exact ⟨takes_weaken single, takes_weaken single, single⟩
  | not operand inductionHypothesis =>
    have single : Takes 2 (Expr.tokens 2 (.not operand)) (.not operand) := by
      intro stack _
      obtain ⟨rest, right, ran, closed⟩ :=
        inductionHypothesis.1 (.group true :: stack) (fun _ => rfl)
      refine ⟨stack, .not operand, ?_, rfl⟩
      apply run_token (stack, .negated) rfl
      apply run_token (.group true :: stack, .operand) rfl
      refine run_through ran (run_token (stack, .operator (.not operand)) ?_ rfl)
      have closing : closeOr rest right = (.group true :: stack, operand) := closed
      simp [parseStep, closing]
    exact ⟨takes_weaken single, takes_weaken single, single⟩
  | and left right leftHypothesis rightHypothesis =>
    have bare : Takes 1 (left.tokens 1 ++ .word "and".toList :: right.tokens 2)
        (.and left right) := by
      intro stack admitted
      obtain ⟨rest, last, ran, closed⟩ := leftHypothesis.2.1 stack admitted
      obtain ⟨after, final, continued, same⟩ :=
        rightHypothesis.2.2 (.conjunct left :: stack) trivial
      obtain ⟨sameStack, sameOperand⟩ : after = .conjunct left :: stack ∧ final = right := by
        simpa [closeTo] using same
      refine ⟨after, final, ?_, ?_⟩
      · refine run_through ran
          (run_token (.conjunct left :: stack, .operand) ?_ continued)
        have closing : closeAnd rest last = (stack, left) := closed
        simp [parseStep, closing]
      · rw [sameStack, sameOperand]
        rfl
    exact ⟨takes_or_of_and bare, bare, takes_enclosed (takes_or_of_and bare)⟩
  | or left right leftHypothesis rightHypothesis =>
    have bare : Takes 0 (left.tokens 0 ++ .word "or".toList :: right.tokens 1)
        (.or left right) := by
      intro stack admitted
      obtain ⟨rest, last, ran, closed⟩ := leftHypothesis.1 stack admitted
      obtain ⟨after, final, continued, same⟩ :=
        rightHypothesis.2.1 (.disjunct left :: stack) (fun _ => rfl)
      refine ⟨after, final, ?_, ?_⟩
      · refine run_through ran
          (run_token (.disjunct left :: stack, .operand) ?_ continued)
        have closing : closeOr rest last = (stack, left) := closed
        simp [parseStep, closing]
      · have closing : closeAnd after final = (.disjunct left :: stack, right) := same
        simp [closeTo, closeOr, closing]
    exact ⟨bare, takes_weaken (takes_enclosed bare), takes_enclosed bare⟩

/-- Reading the printed tokens of an expression gives the expression. -/
theorem parse_tokens (filter : Expr) : parse (filter.tokens 0) = some filter := by
  obtain ⟨rest, right, ran, closed⟩ := (takes_tokens filter).1 [] (fun _ => rfl)
  have closing : closeOr rest right = ([], filter) := closed
  simp [parse, ran, finish, closing]

end Filter
