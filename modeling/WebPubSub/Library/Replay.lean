/-!
# Replaying changes

A log of changes is replayed on a view from left to right. A change that commutes with the
changes before it may be replayed first, and changes that leave a view as it is may be left
out. A part of a view that every change either sets or leaves alone is what the last change
that sets it tells.
-/

universe u v w

namespace Replay

variable {View : Type u} {Change : Type v} (apply : View → Change → View)

/-- The order of two changes makes no difference. -/
def Commutes (first second : Change) : Prop :=
  ∀ view, apply (apply view first) second = apply (apply view second) first

/-- A change that commutes with all earlier ones is replayed first. -/
theorem foldl_commute {before : List Change} {change : Change}
    (commutes : ∀ earlier ∈ before, Commutes apply earlier change) (after : List Change)
    (view : View) :
    (before ++ change :: after).foldl apply view =
      (change :: (before ++ after)).foldl apply view := by
  induction before generalizing view with
  | nil => rfl
  | cons earlier before inductionHypothesis =>
    have later := inductionHypothesis
      (fun other member => commutes other (List.mem_cons_of_mem _ member)) (apply view earlier)
    simp only [List.cons_append, List.foldl_cons] at later ⊢
    rw [later, commutes earlier List.mem_cons_self]

/-- What the last change that tells something tells. -/
def latest {Value : Type w} (tells : Change → Option Value) (changes : List Change) :
    Option Value :=
  changes.reverse.findSome? tells

/-- A part of a view that every change sets to what it tells, if it tells something, holds what
was said last. -/
theorem foldl_latest {Value : Type w} (tells : Change → Option Value) (part : View → Value)
    {invariant : View → Prop}
    (kept : ∀ view change, invariant view → invariant (apply view change))
    (sets : ∀ view change, invariant view →
      part (apply view change) = (tells change).getD (part view))
    (changes : List Change) {view : View} (holds : invariant view) :
    part (changes.foldl apply view) = (latest tells changes).getD (part view) := by
  induction changes generalizing view with
  | nil => rfl
  | cons change changes inductionHypothesis =>
    rw [List.foldl_cons, inductionHypothesis (kept view change holds), sets view change holds,
      latest, latest, List.reverse_cons, List.findSome?_append]
    cases changes.reverse.findSome? tells with
    | some value => rfl
    | none => cases said : tells change <;> simp [said]

/-- What a change tells is what was said last if no change behind it tells anything. -/
theorem latest_of_silent {Value : Type w} {tells : Change → Option Value}
    {before after : List Change} {change : Change} {value : Value}
    (said : tells change = some value) (silent : ∀ later ∈ after, tells later = none) :
    latest tells (before ++ change :: after) = some value := by
  have none : after.reverse.findSome? tells = none := by
    apply List.findSome?_eq_none_iff.mpr
    intro later listed
    exact silent later (List.mem_reverse.mp listed)
  simp [latest, List.findSome?_append, none, said]

end Replay
