import Mathlib.Data.List.Nodup

/-!
# Objects as tables

A JavaScript object that is used as a table has one value for each of its own names. An
assignment replaces the value of a name, or adds the name behind the others; the name of the
prototype takes no text. The entries stand in the order in which they were added. JavaScript
lists names of integers before all others; the laws here are about names and their values.
-/

universe u

/-- The own entries of an object. -/
structure JsRecord (Value : Type u) where
  entries : List (List Char × Value)
  distinct : (entries.map Prod.fst).Nodup
deriving DecidableEq

namespace JsRecord

variable {Value : Type u}

/-- An object literal without entries. -/
def empty : JsRecord Value := ⟨[], List.nodup_nil⟩

/-- The own names, as `Object.keys` gives them. -/
def names (record : JsRecord Value) : List (List Char) := record.entries.map Prod.fst

/-- The value of an own name. -/
def get (record : JsRecord Value) (name : List Char) : Option Value :=
  (record.entries.find? (fun entry => entry.1 = name)).map Prod.snd

/-- An entry with its value replaced, if it has the name. -/
def replaced (name : List Char) (value : Value) (entry : List Char × Value) : List Char × Value :=
  if entry.1 = name then (name, value) else entry

theorem replaced_name (name : List Char) (value : Value) (entry : List Char × Value) :
    (replaced name value entry).1 = entry.1 := by
  unfold replaced
  split
  · rename_i same
    exact same.symm
  · rfl

theorem map_replaced (entries : List (List Char × Value)) (name : List Char) (value : Value) :
    (entries.map (replaced name value)).map Prod.fst = entries.map Prod.fst := by
  rw [List.map_map]
  exact List.map_congr_left (fun entry _ => replaced_name name value entry)

/-- An own name gets a value. -/
def set (record : JsRecord Value) (name : List Char) (value : Value) : JsRecord Value :=
  if present : name ∈ record.names then
    ⟨record.entries.map (replaced name value), by
      rw [map_replaced]
      exact record.distinct⟩
  else
    ⟨record.entries ++ [(name, value)], by
      rw [List.map_append]
      apply record.distinct.append (List.nodup_singleton _)
      simpa [names] using present⟩

/-- The name under which an object has its prototype. -/
def prototypeName : List Char := "__proto__".toList

/-- `record[name] = value` for a text: the prototype of an object is not replaced by one. -/
def assign (record : JsRecord (List Char)) (name value : List Char) : JsRecord (List Char) :=
  if name = prototypeName then record else record.set name value

@[simp]
theorem get_empty (name : List Char) : (empty : JsRecord Value).get name = none := rfl

theorem mem_names_iff (record : JsRecord Value) (name : List Char) :
    name ∈ record.names ↔ (record.get name).isSome = true := by
  rw [get, Option.isSome_map, List.find?_isSome]
  constructor
  · intro listed
    obtain ⟨entry, inside, same⟩ := List.mem_map.mp listed
    exact ⟨entry, inside, by simpa using same⟩
  · rintro ⟨entry, inside, same⟩
    exact List.mem_map.mpr ⟨entry, inside, by simpa using same⟩

/-- An assignment sets its name and no other. -/
@[simp]
theorem get_set (record : JsRecord Value) (name : List Char) (value : Value)
    (other : List Char) :
    (record.set name value).get other = if other = name then some value else record.get other := by
  unfold set
  split
  · rename_i present
    have found (entries : List (List Char × Value)) :
        ((entries.map (replaced name value)).find? (fun entry => entry.1 = other)).map Prod.snd =
          if other = name ∧ name ∈ entries.map Prod.fst then some value
          else (entries.find? (fun entry => entry.1 = other)).map Prod.snd := by
      induction entries with
      | nil => simp
      | cons entry entries inductionHypothesis =>
        rw [List.map_cons, List.find?_cons, List.find?_cons, replaced_name]
        by_cases same : entry.1 = other
        · subst same
          by_cases owned : entry.1 = name
          · simp [replaced, owned]
          · simp [replaced, owned]
        · simp only [same, decide_false, inductionHypothesis]
          by_cases owned : other = name
          · subst owned
            have listed : other ∈ (entry :: entries).map Prod.fst ↔
                other ∈ entries.map Prod.fst := by
              rw [List.map_cons, List.mem_cons, or_iff_right (Ne.symm same)]
            simp only [listed]
          · simp [owned]
    rw [get, found]
    by_cases owned : other = name
    · rw [if_pos ⟨owned, present⟩, if_pos owned]
    · rw [if_neg (fun both => owned both.1), if_neg owned]
      rfl
  · rename_i absent
    have foreign : record.get name = none := by
      simpa using (not_congr (record.mem_names_iff name)).mp absent
    rw [get, List.find?_append, Option.map_or]
    by_cases owned : other = name
    · subst owned
      have none : (record.entries.find? (fun entry => entry.1 = other)).map Prod.snd = none :=
        foreign
      simp [none]
    · have apart : name ≠ other := Ne.symm owned
      simp [owned, apart, get]

/-- An assignment of a text sets its name and no other, if it is not that of the prototype. -/
theorem get_assign (record : JsRecord (List Char)) (name value other : List Char) :
    (record.assign name value).get other =
      if other = name ∧ name ≠ prototypeName then some value else record.get other := by
  unfold assign
  split
  · rename_i prototype
    rw [if_neg (fun both => both.2 prototype)]
  · rename_i own
    simp [own]

end JsRecord
