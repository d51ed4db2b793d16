import Mathlib.Data.List.Infix

/-!
# Operations on strings

Cutting a text at the first place where another text stands in it, the replacement of line
breaks, and the change to lower case, as the string methods of ECMAScript do them.

Of the change to lower case the characters that become ASCII ones are told apart, so that a
result is compared with an ASCII text exactly; other characters stay as they are.
-/

namespace JsText

/-! ## Cutting -/

/-- What stands before and after the first occurrence of a separator: the two `substring`s at
its `indexOf`. -/
def cut (separator : List Char) : List Char → Option (List Char × List Char)
  | [] => if separator = [] then some ([], []) else none
  | char :: rest =>
    if separator <+: char :: rest then some ([], (char :: rest).drop separator.length)
    else (cut separator rest).map (fun parts => (char :: parts.1, parts.2))

section Cut

variable {separator text before after : List Char} {char : Char}

/-- A separator that a text begins with. -/
theorem cut_separator (separator after : List Char) :
    cut separator (separator ++ after) = some ([], after) := by
  cases separator with
  | nil =>
    cases after with
    | nil => rfl
    | cons char after => simp [cut]
  | cons first separator =>
    rw [List.cons_append, cut, if_pos (by simp), ← List.cons_append, List.drop_left]

/-- The text before a separator does not hold the first character of it. -/
theorem cut_free {first : Char} {others : List Char} (free : first ∉ before) (after : List Char) :
    cut (first :: others) (before ++ after) =
      (cut (first :: others) after).map (fun parts => (before ++ parts.1, parts.2)) := by
  induction before with
  | nil => simp
  | cons char before inductionHypothesis =>
    obtain ⟨apart, rest⟩ := List.ne_and_not_mem_of_not_mem_cons free
    have other : ¬first :: others <+: char :: (before ++ after) := by
      intro begins
      exact apart (List.cons_prefix_cons.mp begins).1
    rw [List.cons_append, cut, if_neg other, inductionHypothesis rest, Option.map_map]
    rfl

/-- A text is cut at a character where it first holds it. -/
theorem cut_char (free : char ∉ before) (after : List Char) :
    cut [char] (before ++ char :: after) = some (before, after) := by
  have begins : cut [char] (char :: after) = some ([], after) := cut_separator [char] after
  rw [cut_free free, begins]
  simp

theorem cut_char_none (absent : char ∉ text) : cut [char] text = none := by
  have free : cut [char] (text ++ []) =
      (cut [char] []).map (fun parts => (text ++ parts.1, parts.2)) := cut_free absent []
  rw [List.append_nil] at free
  rw [free]
  rfl

theorem cut_char_iff :
    cut [char] text = some (before, after) ↔ text = before ++ char :: after ∧ char ∉ before := by
  constructor
  · intro cutting
    by_cases held : char ∈ text
    · obtain ⟨front, back, rfl, free⟩ := List.eq_append_cons_of_mem held
      rw [cut_char free] at cutting
      obtain ⟨rfl, rfl⟩ := Prod.mk.inj (Option.some.inj cutting)
      exact ⟨rfl, free⟩
    · rw [cut_char_none held] at cutting
      cases cutting
  · rintro ⟨rfl, free⟩
    exact cut_char free after

/-- A blank line ends a text whose own lines are not blank. -/
theorem cut_lines {lines : List (List Char)} (given : lines ≠ [])
    (whole : ∀ line ∈ lines, line ≠ [] ∧ '\n' ∉ line) (after : List Char) :
    cut ['\n', '\n'] (['\n'].intercalate lines ++ '\n' :: '\n' :: after) =
      some (['\n'].intercalate lines, after) := by
  have ends : cut ['\n', '\n'] ('\n' :: '\n' :: after) = some ([], after) :=
    cut_separator ['\n', '\n'] after
  induction lines with
  | nil => exact absurd rfl given
  | cons line lines inductionHypothesis =>
    obtain ⟨here, others⟩ := List.forall_mem_cons.mp whole
    cases lines with
    | nil =>
      rw [List.intercalate_singleton, cut_free here.2, ends]
      simp
    | cons next lines =>
      obtain ⟨char, tail, named⟩ := List.exists_cons_of_ne_nil (others next (.head _)).1
      have later := inductionHypothesis (List.cons_ne_nil _ _) others
      have apart : char ≠ '\n' := by
        rintro rfl
        apply (others next (.head _)).2
        rw [named]
        exact .head _
      have single : ¬['\n', '\n'] <+:
          '\n' :: (['\n'].intercalate (next :: lines) ++ '\n' :: '\n' :: after) := by
        have begins : (['\n'].intercalate (next :: lines) ++ '\n' :: '\n' :: after).head? =
            some char := by
          cases lines with
          | nil => simp [named]
          | cons other lines => simp [List.intercalate_cons_cons, named]
        intro doubled
        obtain ⟨rest, same⟩ := (List.cons_prefix_cons.mp doubled).2
        rw [← same] at begins
        exact apart (Option.some.inj begins).symm
      rw [List.intercalate_cons_cons, List.append_assoc, List.append_assoc, cut_free here.2,
        List.cons_append, List.nil_append, cut, if_neg single, later]
      simp

end Cut

/-! ## Line breaks -/

/-- `replace(/\r\n/g, "\n")`. -/
def unixLines : List Char → List Char
  | [] => []
  | char :: rest =>
    if char = '\r' ∧ rest.head? = some '\n' then unixLines rest else char :: unixLines rest

section LineBreaks

variable {text first : List Char}

theorem length_unixLines (text : List Char) : (unixLines text).length ≤ text.length := by
  induction text with
  | nil => exact Nat.le_refl 0
  | cons char rest inductionHypothesis =>
    unfold unixLines
    split
    · exact Nat.le_succ_of_le inductionHypothesis
    · exact Nat.succ_le_succ inductionHypothesis

/-- A text keeps its line feeds. -/
theorem count_unixLines (text : List Char) : (unixLines text).count '\n' = text.count '\n' := by
  induction text with
  | nil => rfl
  | cons char rest inductionHypothesis =>
    unfold unixLines
    split
    · rename_i breaks
      rw [inductionHypothesis, breaks.1]
      rfl
    · rw [List.count_cons, List.count_cons, inductionHypothesis]

/-- A text stays as it is if no carriage return stands before a line feed. -/
theorem unixLines_eq_iff : unixLines text = text ↔ ¬['\r', '\n'] <:+: text := by
  induction text with
  | nil => simp [unixLines]
  | cons char rest inductionHypothesis =>
    have begins : char = '\r' ∧ rest.head? = some '\n' ↔ ['\r', '\n'] <+: char :: rest := by
      cases rest with
      | nil => simp
      | cons next rest => simp [eq_comm]
    unfold unixLines
    rw [List.infix_cons_iff, not_or, ← begins]
    split
    · rename_i breaks
      have shorter := length_unixLines rest
      constructor
      · intro same
        rw [same, List.length_cons] at shorter
        exact absurd shorter (Nat.not_succ_le_self _)
      · intro kept
        exact absurd breaks kept.1
    · rename_i kept
      rw [List.cons_inj_right, inductionHypothesis]
      exact (and_iff_right kept).symm

/-- A part without a carriage return comes through as it is. -/
theorem unixLines_append (free : '\r' ∉ first) (second : List Char) :
    unixLines (first ++ second) = first ++ unixLines second := by
  induction first with
  | nil => rfl
  | cons char first inductionHypothesis =>
    obtain ⟨apart, rest⟩ := List.ne_and_not_mem_of_not_mem_cons free
    rw [List.cons_append, unixLines, if_neg (fun breaks => apart breaks.1.symm),
      inductionHypothesis rest, List.cons_append]

theorem unixLines_break (rest : List Char) :
    unixLines ('\r' :: '\n' :: rest) = '\n' :: unixLines rest := by
  rw [unixLines, if_pos ⟨rfl, rfl⟩, unixLines, if_neg (by simp)]

/-- The line breaks between lines. -/
theorem unixLines_intercalate {lines : List (List Char)} (free : ∀ line ∈ lines, '\r' ∉ line)
    (rest : List Char) :
    unixLines (['\r', '\n'].intercalate lines ++ '\r' :: '\n' :: rest) =
      ['\n'].intercalate lines ++ '\n' :: unixLines rest := by
  induction lines with
  | nil => exact unixLines_break rest
  | cons line lines inductionHypothesis =>
    obtain ⟨here, others⟩ := List.forall_mem_cons.mp free
    cases lines with
    | nil =>
      rw [List.intercalate_singleton, List.intercalate_singleton, unixLines_append here,
        unixLines_break]
    | cons next lines =>
      rw [List.intercalate_cons_cons, List.intercalate_cons_cons, List.append_assoc,
        List.append_assoc, unixLines_append here, List.cons_append, List.cons_append,
        List.nil_append, unixLines_break, inductionHypothesis others]
      simp

end LineBreaks

/-! ## Letters -/

/-- `toLowerCase`, which takes the Kelvin sign for a letter too. -/
def toLowerCase (text : List Char) : List Char :=
  text.map (fun char => if char = '\u212A' then 'k' else char.toLower)

end JsText
