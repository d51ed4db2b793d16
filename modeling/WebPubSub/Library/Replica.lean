import Mathlib.Data.Finset.SDiff
import Mathlib.Order.Disjoint

/-!
# Replicated documents

A document is the join of the updates it has taken, in any order and with repetitions.
What a document has that a known one lacks is an update of its own: it adds to the known
document whatever is missing there, and nothing of it was known.
-/

universe u

/-- A join-semilattice of updates with the exact difference of two documents. -/
class UpdateDoc (Doc : Type u) extends SemilatticeSup Doc, OrderBot Doc where
  /-- The updates of a document that a known document lacks. -/
  missing : Doc → Doc → Doc
  missing_le : ∀ doc known, missing doc known ≤ doc
  le_missing : ∀ doc known, doc ≤ known ⊔ missing doc known
  missing_disjoint : ∀ doc known, Disjoint (missing doc known) known

namespace UpdateDoc

/-- Sets of updates, with the difference of sets. -/
instance {Update : Type u} [DecidableEq Update] : UpdateDoc (Finset Update) where
  missing doc known := doc \ known
  missing_le _ _ := Finset.sdiff_subset
  le_missing doc known := by
    intro update member
    by_cases present : update ∈ known <;> simp [member, present]
  missing_disjoint _ _ := disjoint_sdiff_self_left

variable {Doc : Type u} [UpdateDoc Doc]

/-- The document of several updates. -/
def merged (updates : List Doc) : Doc :=
  updates.foldr (· ⊔ ·) ⊥

theorem merged_le_iff {updates : List Doc} {doc : Doc} :
    merged updates ≤ doc ↔ ∀ update ∈ updates, update ≤ doc := by
  induction updates with
  | nil => simp [merged]
  | cons update updates inductionHypothesis =>
    have unfolded : merged (update :: updates) = update ⊔ merged updates := rfl
    rw [unfolded, sup_le_iff, inductionHypothesis, List.forall_mem_cons]

theorem le_merged {updates : List Doc} {update : Doc} (member : update ∈ updates) :
    update ≤ merged updates :=
  merged_le_iff.mp le_rfl update member

/-- More updates, possibly inside larger ones, merge to a larger document. -/
theorem merged_mono {updates others : List Doc}
    (each : ∀ update ∈ updates, update ≤ merged others) : merged updates ≤ merged others :=
  merged_le_iff.mpr each

theorem merged_subset {updates others : List Doc} (subset : updates ⊆ others) :
    merged updates ≤ merged others :=
  merged_mono (fun _ member => le_merged (subset member))

/-- A document under the known one misses nothing of what it may hold. -/
theorem le_merged_of_missing {updates : List Doc} {doc known : Doc}
    (knows : known ≤ merged updates) (tells : missing doc known ≤ merged updates) :
    doc ≤ merged updates :=
  (le_missing doc known).trans (sup_le knows tells)

/-- What is missing in a document shares nothing with its parts. -/
theorem disjoint_missing {doc known part : Doc} (inside : part ≤ known) :
    Disjoint part (missing doc known) :=
  ((missing_disjoint doc known).mono_right inside).symm

end UpdateDoc
