import Mathlib.Data.List.Basic

/-!
# The lines of a text that arrives in parts

Splitting what has arrived at newlines gives the lines that are complete and a rest, which
is carried over. The lines of two parts are those of the first, and those of the second
with the rest of the first before it.
-/

namespace Lines

variable {Symbol : Type} (newline : Symbol)

/-- Lines with a newline after each. -/
def terminated (lines : List (List Symbol)) : List Symbol :=
  lines.flatMap (fun line => line ++ [newline])

variable {newline}

@[simp]
theorem terminated_cons (line : List Symbol) (lines : List (List Symbol)) :
    terminated newline (line :: lines) = line ++ newline :: terminated newline lines := by
  simp [terminated]

/-- Terminated lines are written one after another. -/
@[simp]
theorem terminated_append (first second : List (List Symbol)) :
    terminated newline (first ++ second) =
      terminated newline first ++ terminated newline second := by
  simp [terminated]

/-- Lines joined with a tail are the terminated lines and the tail. -/
theorem intercalate_concat (lines : List (List Symbol)) (tail : List Symbol) :
    [newline].intercalate (lines ++ [tail]) = terminated newline lines ++ tail := by
  induction lines with
  | nil => simp [terminated]
  | cons line lines inductionHypothesis =>
    rw [List.cons_append, List.intercalate_cons_of_ne_nil (by simp), inductionHypothesis]
    simp

variable [DecidableEq Symbol] (newline)

/-- The lines that a newline ends. -/
def complete (text : List Symbol) : List (List Symbol) := (text.splitOn newline).dropLast

/-- What follows the last newline. -/
def rest (text : List Symbol) : List Symbol := (text.splitOn newline).getLastD []

variable {newline}

/-- The pieces of a text are its complete lines and its rest. -/
theorem splitOn_eq (text : List Symbol) :
    text.splitOn newline = complete newline text ++ [rest newline text] := by
  have pieces : text.splitOn newline ≠ [] := List.splitOn_ne_nil newline text
  rw [complete, rest, List.getLastD_eq_getLast?, List.getLast?_eq_some_getLast pieces,
    Option.getD_some, List.dropLast_append_getLast pieces]

theorem not_mem_splitOn {text piece : List Symbol} (member : piece ∈ text.splitOn newline) :
    newline ∉ piece := by
  induction text generalizing piece with
  | nil => simp_all
  | cons symbol text inductionHypothesis =>
    rw [List.splitOn_cons_eq_if_modifyHead] at member
    split at member
    · obtain rfl | later := List.mem_cons.mp member
      · simp
      · exact inductionHypothesis later
    · rename_i other
      obtain ⟨head, pieces, split⟩ := List.exists_cons_of_ne_nil (List.splitOn_ne_nil newline text)
      rw [split, List.modifyHead_cons] at member
      rw [split] at inductionHypothesis
      obtain rfl | later := List.mem_cons.mp member
      · have first : newline ∉ head := inductionHypothesis (.head _)
        have different : newline ≠ symbol := fun same => other (by simp [same])
        simp [first, different]
      · exact inductionHypothesis (.tail _ later)

/-- The rest has no line break. -/
theorem not_mem_rest (text : List Symbol) : newline ∉ rest newline text := by
  have member : rest newline text ∈ text.splitOn newline := by simp [splitOn_eq text]
  exact not_mem_splitOn member

/-- No complete line has a line break inside. -/
theorem not_mem_complete {text line : List Symbol} (member : line ∈ complete newline text) :
    newline ∉ line :=
  not_mem_splitOn (List.dropLast_subset _ member)

/-- Lines that are ended and a rest are split into just these. -/
theorem splitOn_terminated {lines : List (List Symbol)} {tail : List Symbol}
    (free : ∀ line ∈ lines, newline ∉ line) (unended : newline ∉ tail) :
    (terminated newline lines ++ tail).splitOn newline = lines ++ [tail] := by
  induction lines with
  | nil => exact List.splitOn_eq_singleton unended
  | cons line lines inductionHypothesis =>
    rw [terminated_cons, List.append_assoc, List.cons_append,
      List.splitOn_append_cons_self_of_not_mem (free line (.head _)),
      inductionHypothesis (fun other member => free other (.tail _ member)), List.cons_append]

/-- Terminated lines are read back. -/
theorem complete_terminated {lines : List (List Symbol)} {tail : List Symbol}
    (free : ∀ line ∈ lines, newline ∉ line) (unended : newline ∉ tail) :
    complete newline (terminated newline lines ++ tail) = lines := by
  rw [complete, splitOn_terminated free unended, List.dropLast_concat]

/-- What stands behind terminated lines is left. -/
theorem rest_terminated {lines : List (List Symbol)} {tail : List Symbol}
    (free : ∀ line ∈ lines, newline ∉ line) (unended : newline ∉ tail) :
    rest newline (terminated newline lines ++ tail) = tail := by
  rw [rest, splitOn_terminated free unended, List.getLastD_concat]

/-- A text is its complete lines and the rest. -/
theorem terminated_complete (text : List Symbol) :
    terminated newline (complete newline text) ++ rest newline text = text := by
  rw [← intercalate_concat, ← splitOn_eq, List.intercalate_splitOn]

/-- A second part: its first line begins with the rest of the first. -/
theorem append_eq (first second : List Symbol) :
    first ++ second = terminated newline
        (complete newline first ++ complete newline (rest newline first ++ second)) ++
      rest newline (rest newline first ++ second) := by
  rw [terminated_append, List.append_assoc, terminated_complete, ← List.append_assoc,
    terminated_complete]

theorem free_append (first second : List Symbol) :
    ∀ line ∈ complete newline first ++ complete newline (rest newline first ++ second),
      newline ∉ line := by
  intro line member
  obtain before | after := List.mem_append.mp member
  · exact not_mem_complete before
  · exact not_mem_complete after

/-- The rest of one chunk is read on with the next chunk. -/
theorem complete_append (first second : List Symbol) :
    complete newline (first ++ second) =
      complete newline first ++ complete newline (rest newline first ++ second) :=
  (congrArg (complete newline) (append_eq first second)).trans
    (complete_terminated (free_append first second) (not_mem_rest _))

/-- What is left of two chunks is left of the rest of the first and the second. -/
theorem rest_append (first second : List Symbol) :
    rest newline (first ++ second) = rest newline (rest newline first ++ second) :=
  (congrArg (rest newline) (append_eq first second)).trans
    (rest_terminated (free_append first second) (not_mem_rest _))

/-- Without a line break no line is complete. -/
theorem complete_of_not_mem {text : List Symbol} (unended : newline ∉ text) :
    complete newline text = [] := by
  rw [complete, List.splitOn_eq_singleton unended, List.dropLast_singleton]

theorem rest_of_not_mem {text : List Symbol} (unended : newline ∉ text) :
    rest newline text = text := by
  rw [rest, List.splitOn_eq_singleton unended]
  rfl

/-- Nothing is carried over after a newline. -/
theorem rest_newline (text : List Symbol) : rest newline (text ++ [newline]) = [] := by
  rw [rest, List.splitOn_append_cons_self, List.splitOn_nil, List.getLastD_concat]

/-- There is a complete line for each newline. -/
theorem length_complete (text : List Symbol) :
    (complete newline text).length = text.count newline := by
  have free : ∀ line ∈ complete newline text, newline ∉ line := fun line => not_mem_complete
  have ended (lines : List (List Symbol)) (free : ∀ line ∈ lines, newline ∉ line) :
      (terminated newline lines).count newline = lines.length := by
    induction lines with
    | nil => rfl
    | cons line lines inductionHypothesis =>
      have none : line.count newline = 0 := List.count_eq_zero.mpr (free line (.head _))
      rw [terminated_cons, List.count_append, List.count_cons_self, none,
        inductionHypothesis (fun other member => free other (.tail _ member)), List.length_cons,
        Nat.zero_add]
  calc (complete newline text).length
      = (terminated newline (complete newline text)).count newline := (ended _ free).symm
    _ = (terminated newline (complete newline text) ++ rest newline text).count newline := by
        rw [List.count_append, List.count_eq_zero.mpr (not_mem_rest text), Nat.add_zero]
    _ = text.count newline := by rw [terminated_complete]

end Lines
