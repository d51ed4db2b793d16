import Mathlib.Data.List.Nodup

/-!
# Lists looked up by a key

A list of entries is searched from its front for the first entry with a given key. An entry
that is missing is created at the end before it is updated, and the first entry of a key can be
removed. In a list whose keys are distinct an entry is found by its key, and each of these
operations changes what is found for one key only.
-/

universe u v

namespace Keyed

variable {α : Type u} {κ : Type v} [DecidableEq κ] (key : α → κ)

/-- The first entry with a key. -/
def find (name : κ) (entries : List α) : Option α :=
  entries.find? (fun entry => key entry = name)

/-- Update the first entry with a key, which is created at the end where there is none. -/
def alter (create : κ → α) (update : α → α) (name : κ) : List α → List α
  | [] => [update (create name)]
  | entry :: entries =>
    if key entry = name then update entry :: entries
    else entry :: alter create update name entries

/-- Remove the first entry with a key. -/
def remove (name : κ) (entries : List α) : List α :=
  entries.eraseP (fun entry => key entry = name)

/-- Update the first entry with a key, and remove what the update leaves vacant. -/
def alterRemoving (create : κ → α) (update : α → α) (vacant : α → Bool) (name : κ)
    (entries : List α) : List α :=
  let altered := alter key create update name entries
  if ((find key name altered).map vacant).getD true then remove key name altered else altered

variable {key}

theorem find_cons (name : κ) (entry : α) (entries : List α) :
    find key name (entry :: entries) =
      if key entry = name then some entry else find key name entries := by
  by_cases same : key entry = name <;> simp [find, same]

theorem find_some {name : κ} {entries : List α} {entry : α}
    (found : find key name entries = some entry) : entry ∈ entries ∧ key entry = name :=
  ⟨List.mem_of_find?_eq_some found, by simpa using List.find?_some found⟩

theorem find_eq_none_iff {name : κ} {entries : List α} :
    find key name entries = none ↔ ∀ entry ∈ entries, key entry ≠ name := by
  simp [find]

theorem find_map_key {name : κ} {entries : List α} (listed : name ∈ entries.map key) :
    ∃ entry, find key name entries = some entry := by
  obtain ⟨entry, member, rfl⟩ : ∃ entry ∈ entries, key entry = name := List.mem_map.mp listed
  cases found : find key (key entry) entries with
  | some first => exact ⟨first, rfl⟩
  | none => exact absurd rfl (find_eq_none_iff.mp found entry member)

/-- In a list of distinct keys every entry is found by its key. -/
theorem find_of_mem {entries : List α} (distinct : (entries.map key).Nodup) {entry : α}
    (member : entry ∈ entries) : find key (key entry) entries = some entry := by
  have listed : key entry ∈ entries.map key := List.mem_map_of_mem member
  obtain ⟨first, found⟩ := find_map_key listed
  obtain ⟨listed, same⟩ := find_some found
  rw [found, List.inj_on_of_nodup_map distinct listed member same]

/-! ## Updates -/

section Alter

variable {create : κ → α} {update : α → α} (created : ∀ name, key (create name) = name)
  (kept : ∀ entry, key (update entry) = key entry)

include created kept

/-- The key that is updated leads to the updated entry. -/
theorem find_alter (name : κ) (entries : List α) :
    find key name (alter key create update name entries) =
      some (update ((find key name entries).getD (create name))) := by
  induction entries with
  | nil => simp [alter, find, created, kept]
  | cons entry entries inductionHypothesis =>
    rw [alter]
    by_cases same : key entry = name
    · simp [find_cons, same, kept]
    · rw [if_neg same, find_cons, if_neg same, inductionHypothesis, find_cons, if_neg same]

/-- Every other key leads where it did. -/
theorem find_alter_of_ne {name other : κ} (apart : other ≠ name) (entries : List α) :
    find key other (alter key create update name entries) = find key other entries := by
  induction entries with
  | nil => simp [alter, find, created, kept, apart.symm]
  | cons entry entries inductionHypothesis =>
    rw [alter]
    by_cases same : key entry = name
    · have elsewhere : key entry ≠ other := fun equal => apart (equal.symm.trans same)
      rw [if_pos same, find_cons, if_neg (by rwa [kept]), find_cons, if_neg elsewhere]
    · rw [if_neg same, find_cons, inductionHypothesis, find_cons]

theorem map_key_alter (name : κ) (entries : List α) :
    (alter key create update name entries).map key =
      if name ∈ entries.map key then entries.map key else entries.map key ++ [name] := by
  induction entries with
  | nil => simp [alter, created, kept]
  | cons entry entries inductionHypothesis =>
    rw [alter]
    by_cases same : key entry = name
    · simp [same, kept]
    · rw [if_neg same, List.map_cons, inductionHypothesis]
      by_cases listed : name ∈ entries.map key
      · have inside : name ∈ (entry :: entries).map key := List.mem_cons_of_mem _ listed
        rw [if_pos listed, if_pos inside, List.map_cons]
      · have outside : name ∉ (entry :: entries).map key := by
          simpa [Ne.symm same] using listed
        rw [if_neg listed, if_neg outside, List.map_cons, List.cons_append]

theorem nodup_alter (name : κ) {entries : List α} (distinct : (entries.map key).Nodup) :
    ((alter key create update name entries).map key).Nodup := by
  rw [map_key_alter created kept]
  split
  · exact distinct
  · rename_i absent
    exact distinct.append (List.nodup_singleton name) (by simpa using absent)

end Alter

/-- What holds of every entry and of the updated one holds of every entry of the new list. -/
theorem forall_alter {create : κ → α} {update : α → α} {name : κ} {entries : List α}
    {holds : α → Prop} (every : ∀ entry ∈ entries, holds entry)
    (updated : holds (update ((find key name entries).getD (create name)))) :
    ∀ entry ∈ alter key create update name entries, holds entry := by
  induction entries with
  | nil => simpa [alter, find] using updated
  | cons first entries inductionHypothesis =>
    rw [alter]
    by_cases same : key first = name
    · rw [find_cons, if_pos same] at updated
      rw [if_pos same]
      exact List.forall_mem_cons.mpr ⟨updated, fun entry listed =>
        every entry (List.mem_cons_of_mem _ listed)⟩
    · rw [find_cons, if_neg same] at updated
      rw [if_neg same]
      exact List.forall_mem_cons.mpr ⟨every first List.mem_cons_self, inductionHypothesis
        (fun entry listed => every entry (List.mem_cons_of_mem _ listed)) updated⟩

/-! ## Removal -/

theorem sublist_remove (name : κ) (entries : List α) :
    (remove key name entries).Sublist entries := List.eraseP_sublist

theorem nodup_remove (name : κ) {entries : List α} (distinct : (entries.map key).Nodup) :
    ((remove key name entries).map key).Nodup :=
  distinct.sublist ((sublist_remove name entries).map key)

/-- A removal from a list of distinct keys leaves the entries with other keys. -/
theorem mem_remove_iff {name : κ} {entries : List α} (distinct : (entries.map key).Nodup)
    (entry : α) : entry ∈ remove key name entries ↔ entry ∈ entries ∧ key entry ≠ name := by
  induction entries with
  | nil => simp [remove]
  | cons first entries inductionHypothesis =>
    obtain ⟨fresh, others⟩ := List.nodup_cons.mp distinct
    have rest := inductionHypothesis others
    rw [remove] at rest
    by_cases same : key first = name
    · have apart (listed : entry ∈ entries) : key entry ≠ name := by
        rintro equal
        exact fresh (List.mem_map.mpr ⟨entry, listed, equal.trans same.symm⟩)
      rw [remove, List.eraseP_cons_of_pos (by simpa using same), List.mem_cons]
      constructor
      · intro listed
        exact ⟨Or.inr listed, apart listed⟩
      · rintro ⟨rfl | listed, elsewhere⟩
        · exact absurd same elsewhere
        · exact listed
    · rw [remove, List.eraseP_cons_of_neg (by simpa using same), List.mem_cons, rest, List.mem_cons]
      constructor
      · rintro (rfl | ⟨listed, elsewhere⟩)
        · exact ⟨Or.inl rfl, same⟩
        · exact ⟨Or.inr listed, elsewhere⟩
      · rintro ⟨rfl | listed, elsewhere⟩
        · exact Or.inl rfl
        · exact Or.inr ⟨listed, elsewhere⟩

theorem remove_of_find_none {name : κ} {entries : List α} (absent : find key name entries = none) :
    remove key name entries = entries := by
  rw [remove, List.eraseP_of_forall_not]
  simpa using find_eq_none_iff.mp absent

theorem find_remove {name : κ} {entries : List α} (distinct : (entries.map key).Nodup) :
    find key name (remove key name entries) = none :=
  find_eq_none_iff.mpr (fun entry listed => ((mem_remove_iff distinct entry).mp listed).2)

theorem find_remove_of_ne {name other : κ} (apart : other ≠ name) (entries : List α) :
    find key other (remove key name entries) = find key other entries := by
  induction entries with
  | nil => rfl
  | cons first entries inductionHypothesis =>
    rw [remove] at inductionHypothesis
    by_cases same : key first = name
    · have elsewhere : key first ≠ other := fun equal => apart (equal.symm.trans same)
      rw [remove, List.eraseP_cons_of_pos (by simpa using same), find_cons, if_neg elsewhere]
    · rw [remove, List.eraseP_cons_of_neg (by simpa using same), find_cons, inductionHypothesis,
        find_cons]

/-! ## Updates that may remove -/

section AlterRemoving

variable {create : κ → α} {update : α → α} {vacant : α → Bool}
  (created : ∀ name, key (create name) = name) (kept : ∀ entry, key (update entry) = key entry)

include created kept

theorem nodup_alterRemoving (name : κ) {entries : List α} (distinct : (entries.map key).Nodup) :
    ((alterRemoving key create update vacant name entries).map key).Nodup := by
  have altered := nodup_alter created kept name distinct
  rw [alterRemoving]
  split
  · exact nodup_remove name altered
  · exact altered

/-- The key that is updated leads to the updated entry unless this is vacant. -/
theorem find_alterRemoving (name : κ) {entries : List α} (distinct : (entries.map key).Nodup) :
    find key name (alterRemoving key create update vacant name entries) =
      if vacant (update ((find key name entries).getD (create name))) then none
      else some (update ((find key name entries).getD (create name))) := by
  have altered := nodup_alter created kept name distinct
  have found := find_alter created kept name entries
  rw [alterRemoving]
  rw [found, Option.map_some, Option.getD_some]
  split
  · exact find_remove altered
  · exact found

theorem find_alterRemoving_of_ne {name other : κ} (apart : other ≠ name) (entries : List α) :
    find key other (alterRemoving key create update vacant name entries) =
      find key other entries := by
  rw [alterRemoving]
  split
  · rw [find_remove_of_ne apart, find_alter_of_ne created kept apart]
  · exact find_alter_of_ne created kept apart entries

/-- What holds of every entry and of the updated one, unless it is vacant, holds of every entry
of the new list. -/
theorem forall_alterRemoving {name : κ} {entries : List α} {holds : α → Prop}
    (distinct : (entries.map key).Nodup) (every : ∀ entry ∈ entries, holds entry)
    (updated : vacant (update ((find key name entries).getD (create name))) = false →
      holds (update ((find key name entries).getD (create name)))) :
    ∀ entry ∈ alterRemoving key create update vacant name entries, holds entry := by
  intro entry listed
  have found := find_of_mem (nodup_alterRemoving created kept name distinct) listed
  by_cases same : key entry = name
  · rw [same, find_alterRemoving created kept name distinct] at found
    split at found
    · cases found
    · rename_i left
      rw [← Option.some.inj found]
      exact updated (by simpa using left)
  · rw [find_alterRemoving_of_ne created kept same] at found
    exact every entry (find_some found).1

end AlterRemoving

end Keyed
