import WebPubSub.Library.Ledger
import WebPubSub.Library.Machine

/-!
# Independent activities

Many activities of one kind, named by their place in the order in which they began. Each is
begun with a seed and takes its own events afterwards, in any order with those of the
others. No activity sees another: a run of them all is, to each of them, a run of its own.

Activities may share one process that an event can end: a run of the machine that stops is
a run of the machine.
-/

universe u v w

namespace Machine

/-- An activity begins, or takes an event. -/
inductive FamilyEvent (Seed : Type u) (Event : Type v) where
  | begun (seed : Seed)
  | own (index : Nat) (event : Event)

section Family

variable {Local Seed Event Output : Type}

/-- All activities at once, with each output under the place of its activity. -/
def family (start : Seed → Local) (machine : Machine Local Event Output) :
    Machine (List Local) (FamilyEvent Seed Event) (Nat × Output) where
  step activities
    | .begun seed => some (activities ++ [start seed], [])
    | .own index event =>
      (activities[index]?).bind (fun activity =>
        (machine.step activity event).map (fun result =>
          (activities.set index result.1, result.2.map (fun output => (index, output)))))

/-- The seeds in the order in which their activities begin. -/
def seeds (events : List (FamilyEvent Seed Event)) : List Seed :=
  events.filterMap (fun
    | .begun seed => some seed
    | .own _ _ => none)

/-- The events of one activity. -/
def ownEvents (index : Nat) (events : List (FamilyEvent Seed Event)) : List Event :=
  events.filterMap (fun
    | .begun _ => none
    | .own other event => if other = index then some event else none)

/-- The outputs of one activity. -/
def ownOutputs (index : Nat) (outputs : List (Nat × Output)) : List Output :=
  outputs.filterMap (fun output => if output.1 = index then some output.2 else none)

theorem ownOutputs_append (index : Nat) (first second : List (Nat × Output)) :
    ownOutputs index (first ++ second) = ownOutputs index first ++ ownOutputs index second :=
  List.filterMap_append

theorem ownOutputs_same (index : Nat) (outputs : List Output) :
    ownOutputs index (outputs.map (fun output => (index, output))) = outputs := by
  simp [ownOutputs, List.filterMap_map]

theorem ownOutputs_other {index other : Nat} (apart : other ≠ index) (outputs : List Output) :
    ownOutputs index (outputs.map (fun output => (other, output))) = [] := by
  simp [ownOutputs, List.filterMap_map, apart]

variable {start : Seed → Local} {machine : Machine Local Event Output}

/-- What a run is to its activities: those that began have run alone, and the others have
neither events nor outputs. -/
structure Apart (start : Seed → Local) (machine : Machine Local Event Output)
    (events : List (FamilyEvent Seed Event)) (outputs : List (Nat × Output))
    (activities : List Local) : Prop where
  begun : activities.length = (seeds events).length
  alone : ∀ index seed, (seeds events)[index]? = some seed → ∃ activity,
    activities[index]? = some activity ∧
      machine.run (start seed) (ownEvents index events) =
        some (activity, ownOutputs index outputs)
  later : ∀ index, activities.length ≤ index →
    ownEvents index events = [] ∧ ownOutputs index outputs = []

theorem apart_begun {events : List (FamilyEvent Seed Event)} {outputs : List (Nat × Output)}
    {activities : List Local} (apart : Apart start machine events outputs activities)
    (seed : Seed) :
    Apart start machine (events ++ [.begun seed]) outputs (activities ++ [start seed]) := by
  have seeded : seeds (events ++ [.begun seed]) = seeds events ++ [seed] := by
    simp [seeds]
  have same (index : Nat) : ownEvents index (events ++ [.begun seed]) = ownEvents index events := by
    simp [ownEvents]
  constructor
  · rw [seeded, List.length_append, List.length_append, apart.begun]
    rfl
  · intro index other found
    rw [seeded] at found
    rw [same]
    rcases Ledger.getElem?_concat_cases found with ⟨rfl, rfl⟩ | old
    case inr =>
      obtain ⟨activity, standing, ran⟩ := apart.alone index other old
      exact ⟨activity, Ledger.getElem?_append_of_some standing _, ran⟩
    · obtain ⟨noEvents, noOutputs⟩ := apart.later (seeds events).length (Nat.le_of_eq apart.begun)
      refine ⟨start other, ?_, ?_⟩
      · rw [← apart.begun]
        simp
      · rw [noEvents, noOutputs]
        rfl
  · intro index beyond
    rw [List.length_append] at beyond
    rw [same]
    exact apart.later index (by omega)

theorem apart_own {events : List (FamilyEvent Seed Event)} {outputs : List (Nat × Output)}
    {activities : List Local} (apart : Apart start machine events outputs activities)
    {index : Nat} {activity next : Local} {event : Event} {added : List Output}
    (standing : activities[index]? = some activity)
    (stepped : machine.step activity event = some (next, added)) :
    Apart start machine (events ++ [.own index event])
      (outputs ++ added.map (fun output => (index, output))) (activities.set index next) := by
  have inside : index < activities.length := (List.getElem?_eq_some_iff.mp standing).1
  have seeded : seeds (events ++ [.own index event]) = seeds events := by
    simp [seeds]
  have own : ownEvents index (events ++ [.own index event]) = ownEvents index events ++ [event] := by
    simp [ownEvents]
  have others {other : Nat} (distinct : index ≠ other) :
      ownEvents other (events ++ [.own index event]) = ownEvents other events := by
    simp [ownEvents, distinct]
  constructor
  · rw [seeded, List.length_set, apart.begun]
  · intro other seed found
    rw [seeded] at found
    obtain ⟨before, held, ran⟩ := apart.alone other seed found
    by_cases same : index = other
    · subst same
      obtain rfl : activity = before := by simpa [standing] using held
      refine ⟨next, by simp [inside], ?_⟩
      rw [own, ownOutputs_append, ownOutputs_same]
      exact run_append_of_run machine ran (run_single machine stepped)
    · refine ⟨before, by rw [List.getElem?_set_ne same, held], ?_⟩
      rw [others same, ownOutputs_append, ownOutputs_other same, List.append_nil]
      exact ran
  · intro other beyond
    rw [List.length_set] at beyond
    have distinct : index ≠ other := by omega
    obtain ⟨noEvents, noOutputs⟩ := apart.later other beyond
    rw [others distinct, ownOutputs_append, ownOutputs_other distinct, noEvents, noOutputs]
    exact ⟨rfl, rfl⟩

/-- In every run each activity has run alone. -/
theorem family_apart {events : List (FamilyEvent Seed Event)} {outputs : List (Nat × Output)}
    {activities : List Local}
    (ran : (family start machine).run [] events = some (activities, outputs)) :
    Apart start machine events outputs activities := by
  refine run_induction (family start machine) (fun events outputs activities =>
    Apart start machine events outputs activities) ?_ ?_ ran
  · constructor
    · rfl
    · intro index seed found
      simp [seeds] at found
    · intro index _
      exact ⟨rfl, rfl⟩
  · intro before outputs activities event next added _ apart stepped
    cases event with
    | begun seed =>
      obtain ⟨rfl, rfl⟩ : activities ++ [start seed] = next ∧ [] = added := by
        simpa [family] using stepped
      rw [List.append_nil]
      exact apart_begun apart seed
    | own index event =>
      obtain ⟨activity, standing, acted⟩ := Option.bind_eq_some_iff.mp stepped
      obtain ⟨⟨after, given⟩, taken, result⟩ := Option.map_eq_some_iff.mp acted
      obtain ⟨rfl, rfl⟩ := Prod.mk.inj result
      exact apart_own apart standing taken

end Family

/-! ## Machines that stop -/

section Halting

variable {State Event Output : Type}

/-- A machine that stops for good at an event that halts it. The flag says that it runs. -/
def halting (halts : Event → Bool) (machine : Machine State Event Output) :
    Machine (State × Bool) Event Output where
  step state event :=
    if state.2 then
      (machine.step state.1 event).map (fun result => ((result.1, !halts event), result.2))
    else none

/-- A run of it is a run of the machine, and it runs on as long as nothing halts it. -/
theorem run_of_halting {halts : Event → Bool} {machine : Machine State Event Output}
    {initial : State} {events : List Event} {final : State × Bool} {outputs : List Output}
    (ran : (machine.halting halts).run (initial, true) events = some (final, outputs)) :
    machine.run initial events = some (final.1, outputs) ∧ final.2 = !events.any halts := by
  refine run_induction (machine.halting halts) (fun events outputs final =>
    machine.run initial events = some (final.1, outputs) ∧ final.2 = !events.any halts) ?_ ?_ ran
  · exact ⟨rfl, rfl⟩
  · intro before outputs state event next added _ held stepped
    obtain ⟨ran, running⟩ := held
    obtain ⟨runs, moved⟩ := Option.ite_none_right_eq_some.mp stepped
    obtain ⟨⟨after, given⟩, taken, result⟩ := Option.map_eq_some_iff.mp moved
    obtain ⟨rfl, rfl⟩ := Prod.mk.inj result
    refine ⟨run_append_of_run machine ran (run_single machine taken), ?_⟩
    have quiet : before.any halts = false := by simpa [runs] using running
    simp [quiet]

end Halting

end Machine
