import Mathlib.Data.List.Nodup
import Mathlib.Data.List.Range

/-!
# Ledgers of numbered entries

Entries are appended and later amended in place, so the position of an entry is
its number for good. A test of entries selects their numbers, in order. The
lemmas say which entry stands under a number after an amendment, and how one
amendment changes such a selection: not at all when the test answers as before,
by the number itself otherwise.
-/

universe u v

namespace Ledger

variable {Entry : Type u} {Value : Type v}

section Numbers

variable {ledger more : List Entry} {number other : Nat} {entry found : Entry}

/-- An amended entry is the only one that changes. -/
theorem getElem?_set_cases (located : (ledger.set number entry)[other]? = some found) :
    (other = number ∧ found = entry) ∨ (other ≠ number ∧ ledger[other]? = some found) := by
  by_cases same : number = other
  · subst same
    rw [List.getElem?_set_self'] at located
    cases standing : ledger[number]? with
    | none => simp [standing] at located
    | some old => exact Or.inl ⟨rfl, by simpa [standing, eq_comm] using located⟩
  · exact Or.inr ⟨Ne.symm same, by rwa [List.getElem?_set_ne same] at located⟩

/-- An entry keeps its number when others are appended. -/
theorem getElem?_append_of_some (standing : ledger[number]? = some entry) (more : List Entry) :
    (ledger ++ more)[number]? = some entry := by
  rw [List.getElem?_append_left (List.getElem?_eq_some_iff.mp standing).1]
  exact standing

/-- Entries that are appended are the only new ones. -/
theorem getElem?_append_cases (located : (ledger ++ more)[number]? = some found) :
    (ledger.length ≤ number ∧ found ∈ more) ∨ ledger[number]? = some found := by
  cases Nat.lt_or_ge number ledger.length with
  | inl earlier => exact Or.inr (by rwa [List.getElem?_append_left earlier] at located)
  | inr later =>
    rw [List.getElem?_append_right later] at located
    exact Or.inl ⟨later, List.mem_of_getElem? located⟩

/-- One that is appended alone gets the next number. -/
theorem getElem?_concat_cases (located : (ledger ++ [entry])[number]? = some found) :
    (number = ledger.length ∧ found = entry) ∨ ledger[number]? = some found := by
  rcases getElem?_append_cases located with ⟨later, member⟩ | old
  · have inside := (List.getElem?_eq_some_iff.mp located).1
    rw [List.length_append, List.length_singleton] at inside
    exact Or.inl ⟨by omega, List.mem_singleton.mp member⟩
  · exact Or.inr old

end Numbers

/-- The numbers of the entries that pass a test, in order. -/
def selected (test : Entry → Bool) (ledger : List Entry) : List Nat :=
  (List.range ledger.length).filter (fun number => ledger[number]?.any test)

theorem mem_selected (test : Entry → Bool) (ledger : List Entry) (number : Nat) :
    number ∈ selected test ledger ↔ ∃ entry, ledger[number]? = some entry ∧ test entry = true := by
  simp only [selected, List.mem_filter, List.mem_range, Option.any_eq_true]
  constructor
  · exact And.right
  · rintro ⟨entry, found, passed⟩
    exact ⟨(List.getElem?_eq_some_iff.mp found).1, entry, found, passed⟩

/-- The selection is in increasing order. -/
theorem selected_sorted (test : Entry → Bool) (ledger : List Entry) :
    (selected test ledger).Pairwise (· < ·) := List.Pairwise.filter _ List.pairwise_lt_range

/-- The head of a selection is its least number. -/
theorem head_le (test : Entry → Bool) (ledger : List Entry) {first number : Nat}
    (head : (selected test ledger).head? = some first)
    (member : number ∈ selected test ledger) : first ≤ number := by
  have ordered := selected_sorted test ledger
  cases selection : selected test ledger with
  | nil => simp [selection] at head
  | cons least rest =>
    obtain rfl : least = first := by simpa [selection] using head
    rw [selection] at ordered member
    rcases List.mem_cons.mp member with rfl | later
    · exact Nat.le_refl _
    · exact Nat.le_of_lt ((List.pairwise_cons.mp ordered).1 number later)

/-- A new entry is selected last, when it passes the test. -/
theorem selected_append (test : Entry → Bool) (ledger : List Entry) (entry : Entry) :
    selected test (ledger ++ [entry]) =
      selected test ledger ++ (if test entry then [ledger.length] else []) := by
  have earlier : ∀ number ∈ List.range ledger.length,
      (ledger ++ [entry])[number]?.any test = ledger[number]?.any test := by
    intro number inside
    rw [List.getElem?_append_left (List.mem_range.mp inside)]
  rw [selected, List.length_append, List.length_singleton, List.range_succ, List.filter_append,
    List.filter_congr earlier]
  cases passed : test entry <;> simp [selected, passed]

/-- An amendment that keeps the answer of the test keeps the selection. -/
theorem selected_set_of_same (test : Entry → Bool) {ledger : List Entry} {number : Nat}
    {old : Entry} (found : ledger[number]? = some old) {entry : Entry}
    (same : test entry = test old) :
    selected test (ledger.set number entry) = selected test ledger := by
  rw [selected, List.length_set]
  apply List.filter_congr
  intro other inside
  rw [List.getElem?_set]
  by_cases here : number = other
  · subst here
    rw [if_pos rfl, if_pos (List.getElem?_eq_some_iff.mp found).1, found]
    exact same
  · rw [if_neg here]

/-- An amendment that makes the test fail takes its number out. -/
theorem selected_set_of_failed (test : Entry → Bool) (ledger : List Entry) (number : Nat)
    {entry : Entry} (failed : test entry = false) :
    selected test (ledger.set number entry) =
      (selected test ledger).filter (fun other => !(number == other)) := by
  rw [selected, List.length_set, selected, List.filter_filter]
  apply List.filter_congr
  intro other inside
  rw [List.getElem?_set]
  by_cases here : number = other
  · subst here
    have bound := List.mem_range.mp inside
    simp [failed, bound]
  · simp [here]

/-- Taking the first selected number out leaves the others in order. -/
theorem selected_set_of_head (test : Entry → Bool) (ledger : List Entry) (number : Nat)
    {entry : Entry} (failed : test entry = false)
    (first : (selected test ledger).head? = some number) :
    selected test (ledger.set number entry) = (selected test ledger).tail := by
  rw [selected_set_of_failed test ledger number failed]
  obtain ⟨rest, shape⟩ : ∃ rest, selected test ledger = number :: rest := by
    cases selection : selected test ledger with
    | nil => simp [selection] at first
    | cons head rest =>
      obtain rfl : head = number := by simpa [selection] using first
      exact ⟨rest, rfl⟩
  have ordered := selected_sorted test ledger
  rw [shape] at ordered ⊢
  have others : ∀ other ∈ rest, (!(number == other)) = true := by
    intro other member
    have later : number < other := (List.pairwise_cons.mp ordered).1 other member
    simpa using Nat.ne_of_lt later
  rw [List.filter_cons_of_neg (by simp), List.filter_eq_self.mpr others, List.tail_cons]

/-- A value is given by an entry at some number. -/
theorem mem_filterMap_iff (value : Entry → Option Value) (ledger : List Entry) (given : Value) :
    given ∈ ledger.filterMap value ↔
      ∃ (number : Nat) (entry : Entry), ledger[number]? = some entry ∧ value entry = some given := by
  rw [List.mem_filterMap]
  constructor
  · rintro ⟨entry, member, gives⟩
    obtain ⟨number, found⟩ := List.getElem?_of_mem member
    exact ⟨number, entry, found, gives⟩
  · rintro ⟨number, entry, found, gives⟩
    exact ⟨entry, List.mem_of_getElem? found, gives⟩

/-- After an amendment, a value is given by the new entry or by another one. -/
theorem mem_filterMap_set (value : Entry → Option Value) {ledger : List Entry} {number : Nat}
    {old : Entry} (found : ledger[number]? = some old) (entry : Entry) (given : Value) :
    given ∈ (ledger.set number entry).filterMap value ↔ value entry = some given ∨
      ∃ (other : Nat) (kept : Entry), other ≠ number ∧ ledger[other]? = some kept ∧
        value kept = some given := by
  have bound := (List.getElem?_eq_some_iff.mp found).1
  rw [mem_filterMap_iff]
  constructor
  · rintro ⟨other, kept, located, gives⟩
    rw [List.getElem?_set] at located
    by_cases here : number = other
    · rw [if_pos here, if_pos bound] at located
      exact Or.inl (Option.some.inj located ▸ gives)
    · rw [if_neg here] at located
      exact Or.inr ⟨other, kept, fun same => here same.symm, located, gives⟩
  · rintro (gives | ⟨other, kept, different, located, gives⟩)
    · refine ⟨number, entry, ?_, gives⟩
      rw [List.getElem?_set, if_pos rfl, if_pos bound]
    · refine ⟨other, kept, ?_, gives⟩
      rw [List.getElem?_set, if_neg (fun same => different same.symm)]
      exact located

/-- A value that the old entry does not give survives its amendment. -/
theorem mem_filterMap_set_of_ne (value : Entry → Option Value) {ledger : List Entry}
    {number : Nat} {old : Entry} (found : ledger[number]? = some old) (entry : Entry)
    {given : Value} (elsewhere : value old ≠ some given) (member : given ∈ ledger.filterMap value) :
    given ∈ (ledger.set number entry).filterMap value := by
  obtain ⟨other, kept, located, gives⟩ := (mem_filterMap_iff value ledger given).mp member
  apply (mem_filterMap_set value found entry given).mpr
  refine Or.inr ⟨other, kept, ?_, located, gives⟩
  rintro rfl
  rw [found] at located
  obtain rfl := Option.some.inj located
  exact elsewhere gives

/-- The values of an amended ledger are as before when the entry gives what it gave. -/
theorem filterMap_set_of_same (value : Entry → Option Value) {ledger : List Entry} {number : Nat}
    {old : Entry} (found : ledger[number]? = some old) {entry : Entry}
    (same : value entry = value old) :
    (ledger.set number entry).filterMap value = ledger.filterMap value := by
  induction ledger generalizing number with
  | nil => simp at found
  | cons first rest inductionHypothesis =>
    cases number with
    | zero =>
      obtain rfl : first = old := by simpa using found
      simp [List.filterMap_cons, same]
    | succ number =>
      have later : rest[number]? = some old := by simpa using found
      simp [List.filterMap_cons, inductionHypothesis later]

/-- An entry that begins to give a value, when no later entry gives one, gives the
last value. -/
theorem filterMap_set_of_last (value : Entry → Option Value) {ledger : List Entry} {number : Nat}
    {old : Entry} (found : ledger[number]? = some old) (before : value old = none)
    (last : ∀ other later, number < other → ledger[other]? = some later → value later = none)
    {entry : Entry} {given : Value} (after : value entry = some given) :
    (ledger.set number entry).filterMap value = ledger.filterMap value ++ [given] := by
  induction ledger generalizing number with
  | nil => simp at found
  | cons first rest inductionHypothesis =>
    cases number with
    | zero =>
      obtain rfl : first = old := by simpa using found
      have silent : rest.filterMap value = [] := by
        rw [List.filterMap_eq_nil_iff]
        intro later member
        obtain ⟨position, found⟩ := List.getElem?_of_mem member
        exact last (position + 1) later (Nat.succ_pos position) (by simpa using found)
      simp [after, before, silent]
    | succ number =>
      have later : rest[number]? = some old := by simpa using found
      have silent : ∀ other entry, number < other → rest[other]? = some entry →
          value entry = none := by
        intro other entry beyond found
        exact last (other + 1) entry (Nat.succ_lt_succ beyond) (by simpa using found)
      have continued := inductionHypothesis later silent
      cases head : value first <;> simp [head, continued]

end Ledger
