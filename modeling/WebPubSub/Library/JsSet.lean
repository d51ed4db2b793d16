import Mathlib.Data.List.Nodup

/-!
# Sets in insertion order

A JavaScript `Set` holds each element once and is iterated in the order in which
its elements were first added. Adding an element it has and deleting one it has
not change nothing.
-/

universe u

/-- Distinct elements in the order of their insertion. -/
structure JsSet (α : Type u) where
  elements : List α
  distinct : elements.Nodup
deriving DecidableEq

namespace JsSet

variable {α : Type u}

/-- `new Set()`. -/
def empty : JsSet α := ⟨[], List.nodup_nil⟩

instance : Membership α (JsSet α) where
  mem set element := element ∈ set.elements

theorem mem_def (set : JsSet α) (element : α) : element ∈ set ↔ element ∈ set.elements := Iff.rfl

@[simp]
theorem notMem_empty (element : α) : element ∉ (empty : JsSet α) := List.not_mem_nil

/-- A set without elements is the empty set. -/
theorem eq_empty_of_elements {set : JsSet α} (vacant : set.elements = []) : set = empty := by
  cases set
  cases vacant
  rfl

variable [DecidableEq α]

instance (set : JsSet α) (element : α) : Decidable (element ∈ set) :=
  inferInstanceAs (Decidable (element ∈ set.elements))

/-- `add`. -/
def add (set : JsSet α) (element : α) : JsSet α :=
  if absent : element ∈ set.elements then set
  else ⟨set.elements ++ [element], by
    apply set.distinct.append (List.nodup_singleton element)
    simpa using absent⟩

/-- `delete`. -/
def delete (set : JsSet α) (element : α) : JsSet α :=
  ⟨set.elements.erase element, set.distinct.erase element⟩

/-- Add every element of a list in turn. -/
def addAll (set : JsSet α) (elements : List α) : JsSet α := elements.foldl add set

/-- `new Set(elements)`. -/
def ofList (elements : List α) : JsSet α := empty.addAll elements

@[simp]
theorem mem_add (set : JsSet α) (added element : α) :
    element ∈ set.add added ↔ element ∈ set ∨ element = added := by
  by_cases present : added ∈ set.elements
  · have kept : set.add added = set := dif_pos present
    rw [kept]
    constructor
    · exact Or.inl
    · rintro (inside | rfl)
      · exact inside
      · exact present
  · have extended : (set.add added).elements = set.elements ++ [added] := by
      rw [add, dif_neg present]
    simp [mem_def, extended]

@[simp]
theorem mem_delete (set : JsSet α) (removed element : α) :
    element ∈ set.delete removed ↔ element ∈ set ∧ element ≠ removed := by
  rw [mem_def, delete, List.Nodup.mem_erase_iff set.distinct]
  exact and_comm

@[simp]
theorem mem_addAll (set : JsSet α) (elements : List α) (element : α) :
    element ∈ set.addAll elements ↔ element ∈ set ∨ element ∈ elements := by
  induction elements generalizing set with
  | nil => simp [addAll]
  | cons first rest inductionHypothesis =>
    have unfolded : set.addAll (first :: rest) = (set.add first).addAll rest := rfl
    rw [unfolded, inductionHypothesis, mem_add, List.mem_cons, or_assoc]

@[simp]
theorem mem_ofList (elements : List α) (element : α) :
    element ∈ ofList elements ↔ element ∈ elements := by
  simp [ofList]

end JsSet
