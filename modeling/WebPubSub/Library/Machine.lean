import Mathlib.Data.List.Induction

/-!
# Partial machines with outputs

A machine takes one event at a time. A step may be refused, moves to one next
state, and lists the outputs it gives. A run threads a finite sequence of events
and concatenates the outputs in order; it is refused as soon as one step is.

Two induction rules carry the results about single runs. The first follows the history
of a run from its start, so that an invariant can mention the events and outputs
so far. The second also supplies a condition that every step of the run meets,
evaluated at the state the step leaves. A third rule compares a run with the run of
some of its events.
-/

universe u v w

/-- A deterministic, partial transition function with outputs. -/
structure Machine (State : Type u) (Event : Type v) (Output : Type w) where
  step : State → Event → Option (State × List Output)

namespace Machine

variable {State : Type u} {Event : Type v} {Output : Type w}

/-- Take every event in turn. One refused step refuses the whole run. -/
def run (machine : Machine State Event Output) :
    State → List Event → Option (State × List Output)
  | state, [] => some (state, [])
  | state, event :: events => do
    let (next, outputs) ← machine.step state event
    let (final, rest) ← machine.run next events
    pure (final, outputs ++ rest)

/-- Every step of a run meets a condition on the state it leaves and its event.
Events after a refused step carry no obligation. -/
def Meets (machine : Machine State Event Output) (condition : State → Event → Prop) :
    State → List Event → Prop
  | _, [] => True
  | state, event :: events => condition state event ∧
      ∀ next outputs, machine.step state event = some (next, outputs) →
        machine.Meets condition next events

/-- The steps of a run, each with the state it leaves. -/
def steps (machine : Machine State Event Output) : State → List Event → List (State × Event)
  | _, [] => []
  | state, event :: events =>
    match machine.step state event with
    | none => []
    | some (next, _) => (state, event) :: machine.steps next events

/-- A state is reachable when some finite run ends in it. -/
def Reachable (machine : Machine State Event Output) (initial state : State) : Prop :=
  ∃ events outputs, machine.run initial events = some (state, outputs)

variable (machine : Machine State Event Output)

@[simp]
theorem run_nil (state : State) : machine.run state [] = some (state, []) := rfl

/-- A completed nonempty run is a completed first step and a completed rest. -/
theorem run_cons_iff (state final : State) (event : Event) (events : List Event)
    (outputs : List Output) :
    machine.run state (event :: events) = some (final, outputs) ↔
      ∃ next first rest, machine.step state event = some (next, first) ∧
        machine.run next events = some (final, rest) ∧ outputs = first ++ rest := by
  simp only [run, Option.bind_eq_bind, Option.bind_eq_some_iff, Option.pure_def,
    Option.some.injEq, Prod.mk.injEq]
  constructor
  · rintro ⟨⟨next, first⟩, stepped, ⟨other, rest⟩, ran, rfl, rfl⟩
    exact ⟨next, first, rest, stepped, ran, rfl⟩
  · rintro ⟨next, first, rest, stepped, ran, rfl⟩
    exact ⟨(next, first), stepped, (final, rest), ran, rfl, rfl⟩

/-- A completed first step leaves the rest of the run. -/
theorem run_cons_of_step {state next : State} {event : Event} {first : List Output}
    (stepped : machine.step state event = some (next, first)) (events : List Event) :
    machine.run state (event :: events) =
      (machine.run next events).map (fun result => (result.1, first ++ result.2)) := by
  simp only [run, stepped, Option.bind_eq_bind, Option.bind_some]
  cases machine.run next events <;> rfl

/-- One completed step is a completed run of one event. -/
theorem run_single {state next : State} {event : Event} {outputs : List Output}
    (stepped : machine.step state event = some (next, outputs)) :
    machine.run state [event] = some (next, outputs) := by
  rw [run_cons_of_step machine stepped]
  simp

/-- Two completed runs compose, and their outputs are concatenated in order. -/
theorem run_append_of_run {state middle final : State} {before after : List Event}
    {first rest : List Output} (ran : machine.run state before = some (middle, first))
    (continued : machine.run middle after = some (final, rest)) :
    machine.run state (before ++ after) = some (final, first ++ rest) := by
  induction before generalizing state first with
  | nil =>
    obtain ⟨rfl, rfl⟩ : state = middle ∧ [] = first := by simpa using ran
    simpa using continued
  | cons event events inductionHypothesis =>
    obtain ⟨next, head, tail, stepped, remaining, rfl⟩ :=
      (run_cons_iff machine _ _ _ _ _).mp ran
    rw [List.cons_append, run_cons_of_step machine stepped, inductionHypothesis remaining]
    simp [List.append_assoc]

/-- A completed run of a concatenation splits at the seam. -/
theorem run_append_inv {state final : State} {before after : List Event}
    {outputs : List Output} (ran : machine.run state (before ++ after) = some (final, outputs)) :
    ∃ middle first rest, machine.run state before = some (middle, first) ∧
      machine.run middle after = some (final, rest) ∧ outputs = first ++ rest := by
  induction before generalizing state outputs with
  | nil => exact ⟨state, [], outputs, rfl, ran, rfl⟩
  | cons event events inductionHypothesis =>
    obtain ⟨next, head, tail, stepped, remaining, rfl⟩ :=
      (run_cons_iff machine _ _ _ _ _).mp ran
    obtain ⟨middle, first, rest, began, ended, rfl⟩ := inductionHypothesis remaining
    refine ⟨middle, head ++ first, rest, ?_, ended, (List.append_assoc _ _ _).symm⟩
    exact (run_cons_iff machine _ _ _ _ _).mpr ⟨next, head, first, stepped, began, rfl⟩

/-- The steps of a concatenated run are those of both parts. -/
theorem steps_append {state middle : State} {before after : List Event} {first : List Output}
    (ran : machine.run state before = some (middle, first)) :
    machine.steps state (before ++ after) =
      machine.steps state before ++ machine.steps middle after := by
  induction before generalizing state first with
  | nil =>
    obtain ⟨rfl, -⟩ : state = middle ∧ [] = first := by simpa using ran
    rfl
  | cons event events inductionHypothesis =>
    obtain ⟨next, head, tail, stepped, remaining, -⟩ :=
      (run_cons_iff machine _ _ _ _ _).mp ran
    simp only [List.cons_append, steps, stepped]
    rw [inductionHypothesis remaining]

/-- The condition of a concatenated run is that of both parts. -/
theorem meets_append {condition : State → Event → Prop} {state middle : State}
    {before after : List Event} {first : List Output}
    (met : machine.Meets condition state (before ++ after))
    (ran : machine.run state before = some (middle, first)) :
    machine.Meets condition state before ∧ machine.Meets condition middle after := by
  induction before generalizing state first with
  | nil =>
    obtain ⟨rfl, -⟩ : state = middle ∧ [] = first := by simpa using ran
    exact ⟨trivial, met⟩
  | cons event events inductionHypothesis =>
    obtain ⟨next, head, tail, stepped, remaining, -⟩ :=
      (run_cons_iff machine _ _ _ _ _).mp ran
    obtain ⟨here, later⟩ := met
    obtain ⟨front, back⟩ := inductionHypothesis (later next head stepped) remaining
    refine ⟨⟨here, ?_⟩, back⟩
    intro other outputs otherStep
    obtain ⟨rfl, -⟩ : next = other ∧ head = outputs := by
      simpa [stepped] using otherStep
    exact front

/-- The condition of a run that goes on is that of the run and of what follows. -/
theorem meets_append_iff {condition : State → Event → Prop} {state middle : State}
    {before after : List Event} {first : List Output}
    (ran : machine.run state before = some (middle, first)) :
    machine.Meets condition state (before ++ after) ↔
      machine.Meets condition state before ∧ machine.Meets condition middle after := by
  constructor
  · intro met
    exact machine.meets_append met ran
  · rintro ⟨front, back⟩
    induction before generalizing state first with
    | nil =>
      obtain ⟨rfl, -⟩ : state = middle ∧ [] = first := by simpa using ran
      exact back
    | cons event events inductionHypothesis =>
      obtain ⟨next, head, tail, stepped, remaining, -⟩ :=
        (run_cons_iff machine _ _ _ _ _).mp ran
      refine ⟨front.1, ?_⟩
      intro other outputs otherStep
      obtain ⟨rfl, -⟩ : next = other ∧ head = outputs := by simpa [stepped] using otherStep
      exact inductionHypothesis remaining (front.2 next head stepped)

/-- The condition of a run with one more event is that of the run and of this event. -/
theorem meets_concat_iff {condition : State → Event → Prop} {state next : State}
    {events : List Event} {outputs : List Output}
    (ran : machine.run state events = some (next, outputs)) (event : Event) :
    machine.Meets condition state (events ++ [event]) ↔
      machine.Meets condition state events ∧ condition next event := by
  have single : machine.Meets condition next [event] ↔ condition next event :=
    and_iff_left (fun _ _ _ => trivial)
  rw [machine.meets_append_iff ran, single]

/-- The condition of a run with a refused first step is that of this step. -/
theorem meets_cons_of_refused {condition : State → Event → Prop} {state : State} {event : Event}
    (refused : machine.step state event = none) (events : List Event) :
    condition state event ↔ machine.Meets condition state (event :: events) :=
  ⟨fun here => ⟨here, fun _ _ stepped => by simp [refused] at stepped⟩, And.left⟩

/-- The condition of a run with a completed first step is that of the step and of the
rest. -/
theorem meets_cons_of_step {condition : State → Event → Prop} {state next : State}
    {event : Event} {first : List Output}
    (stepped : machine.step state event = some (next, first)) (events : List Event) :
    condition state event ∧ machine.Meets condition next events ↔
      machine.Meets condition state (event :: events) := by
  constructor
  · rintro ⟨here, later⟩
    constructor
    · exact here
    · intro other outputs otherStep
      obtain ⟨rfl, -⟩ : next = other ∧ first = outputs := by simpa [stepped] using otherStep
      exact later
  · rintro ⟨here, later⟩
    exact ⟨here, later next first stepped⟩

/-- A decidable condition is decided along the run. -/
instance decidableMeets {condition : State → Event → Prop}
    [∀ state event, Decidable (condition state event)] :
    ∀ state events, Decidable (machine.Meets condition state events)
  | _, [] => isTrue trivial
  | state, event :: events =>
    match stepped : machine.step state event with
    | none => decidable_of_iff _ (machine.meets_cons_of_refused stepped events)
    | some (next, _) =>
      have : Decidable (machine.Meets condition next events) := decidableMeets next events
      decidable_of_iff _ (machine.meets_cons_of_step stepped events)

/-- A property of the history holds at the end of every run whose steps meet a
condition, once it holds at the start and each such step extends it. The
induction is on the last step of the run, so the history is the part before it. -/
theorem run_induction_meets {condition : State → Event → Prop} {initial : State}
    (Property : List Event → List Output → State → Prop) (start : Property [] [] initial)
    (extend : ∀ before outputs state event next added,
      machine.run initial before = some (state, outputs) → Property before outputs state →
      condition state event → machine.step state event = some (next, added) →
      Property (before ++ [event]) (outputs ++ added) next)
    {events : List Event} {state : State} {outputs : List Output}
    (met : machine.Meets condition initial events)
    (ran : machine.run initial events = some (state, outputs)) :
    Property events outputs state := by
  induction events using List.reverseRecOn generalizing state outputs with
  | nil =>
    obtain ⟨rfl, rfl⟩ : initial = state ∧ [] = outputs := by simpa using ran
    exact start
  | append_singleton before event inductionHypothesis =>
    obtain ⟨middle, first, rest, began, ended, rfl⟩ := run_append_inv machine ran
    obtain ⟨front, back⟩ := meets_append machine met began
    obtain ⟨next, added, none, stepped, finished, rfl⟩ :=
      (run_cons_iff machine _ _ _ _ _).mp ended
    obtain ⟨rfl, rfl⟩ : next = state ∧ [] = none := by simpa using finished
    have held : Property before first middle := inductionHypothesis front began
    simpa using extend before first middle event next added began held back.1 stepped

/-- Every run meets the condition that asks nothing. -/
theorem meets_trivial (state : State) (events : List Event) :
    machine.Meets (fun _ _ => True) state events := by
  induction events generalizing state with
  | nil => trivial
  | cons event events inductionHypothesis =>
    exact ⟨trivial, fun next _ _ => inductionHypothesis next⟩

/-- The unconditional history rule. -/
theorem run_induction {initial : State}
    (Property : List Event → List Output → State → Prop) (start : Property [] [] initial)
    (extend : ∀ before outputs state event next added,
      machine.run initial before = some (state, outputs) → Property before outputs state →
      machine.step state event = some (next, added) →
      Property (before ++ [event]) (outputs ++ added) next)
    {events : List Event} {state : State} {outputs : List Output}
    (ran : machine.run initial events = some (state, outputs)) :
    Property events outputs state :=
  run_induction_meets machine Property start
    (fun before outputs state event next added began held _ stepped =>
      extend before outputs state event next added began held stepped)
    (meets_trivial machine initial events) ran

/-- A predicate of states preserved by every step that meets a condition holds at
the end of every run of such steps. -/
theorem invariant_meets {condition : State → Event → Prop} (invariant : State → Prop)
    (preserve : ∀ state event next outputs, invariant state → condition state event →
      machine.step state event = some (next, outputs) → invariant next)
    {initial state : State} {events : List Event} {outputs : List Output}
    (start : invariant initial) (met : machine.Meets condition initial events)
    (ran : machine.run initial events = some (state, outputs)) : invariant state :=
  run_induction_meets machine (fun _ _ state => invariant state) start
    (fun _ _ state event next added _ held here stepped =>
      preserve state event next added held here stepped) met ran

/-- Two conditions of a run are met together. -/
theorem meets_and {condition other : State → Event → Prop} {state : State} {events : List Event}
    (met : machine.Meets condition state events) (also : machine.Meets other state events) :
    machine.Meets (fun state event => condition state event ∧ other state event) state events := by
  induction events generalizing state with
  | nil => trivial
  | cons event events inductionHypothesis =>
    refine ⟨⟨met.1, also.1⟩, fun next outputs stepped => ?_⟩
    exact inductionHypothesis (met.2 next outputs stepped) (also.2 next outputs stepped)

/-- An invariant turns one condition of a run into another. -/
theorem meets_of_invariant {condition other : State → Event → Prop} (invariant : State → Prop)
    (preserve : ∀ state event next outputs, invariant state → condition state event →
      machine.step state event = some (next, outputs) → invariant next)
    (implies : ∀ state event, invariant state → condition state event → other state event)
    {initial : State} {events : List Event} (start : invariant initial)
    (met : machine.Meets condition initial events) : machine.Meets other initial events := by
  induction events generalizing initial with
  | nil => trivial
  | cons event events inductionHypothesis =>
    obtain ⟨here, later⟩ := met
    constructor
    · exact implies initial event start here
    · intro next outputs stepped
      exact inductionHypothesis (preserve _ _ _ _ start here stepped) (later next outputs stepped)

/-- A predicate that each step keeps exactly under a condition holds at the end of a run
exactly when it holds at the start and each step meets the condition. -/
theorem meets_iff_of_step {condition : State → Event → Prop} {predicate : State → Prop}
    (exact : ∀ state event next outputs, machine.step state event = some (next, outputs) →
      (predicate next ↔ predicate state ∧ condition state event))
    {initial final : State} {events : List Event} {outputs : List Output}
    (ran : machine.run initial events = some (final, outputs)) :
    predicate final ↔ predicate initial ∧ machine.Meets condition initial events := by
  induction events generalizing initial outputs with
  | nil =>
    obtain ⟨rfl, -⟩ : initial = final ∧ [] = outputs := by simpa using ran
    exact (and_iff_left trivial).symm
  | cons event events inductionHypothesis =>
    obtain ⟨next, first, rest, stepped, continued, -⟩ :=
      (run_cons_iff machine _ _ _ _ _).mp ran
    rw [inductionHypothesis continued, exact initial event next first stepped,
      ← meets_cons_of_step machine stepped, and_assoc]

/-- A predicate preserved by every step holds in every reachable state. -/
theorem invariant_reachable (invariant : State → Prop)
    (preserve : ∀ state event next outputs, invariant state →
      machine.step state event = some (next, outputs) → invariant next)
    {initial state : State} (start : invariant initial)
    (reached : machine.Reachable initial state) : invariant state := by
  obtain ⟨events, outputs, ran⟩ := reached
  exact invariant_meets machine invariant
    (fun state event next outputs held (_ : True) stepped =>
      preserve state event next outputs held stepped)
    start (meets_trivial machine initial events) ran

/-- What one observer sees of a run is a run of its own events. `Related` compares a state
of the whole run with one of the restricted run: an event of the observer is taken by both,
with the outputs it sees, and any other event only by the whole run, unseen. -/
theorem run_restricted {condition : State → Event → Prop} (own : Event → Bool)
    (seen : Output → Bool) (Related : State → State → Prop)
    (ownStep : ∀ main alone event next outputs, Related main alone → own event = true →
      condition main event → machine.step main event = some (next, outputs) →
      ∃ other, machine.step alone event = some (other, outputs.filter seen) ∧ Related next other)
    (otherStep : ∀ main alone event next outputs, Related main alone → own event = false →
      condition main event → machine.step main event = some (next, outputs) →
      outputs.filter seen = [] ∧ Related next alone)
    {main alone final : State} {events : List Event} {outputs : List Output}
    (related : Related main alone) (met : machine.Meets condition main events)
    (ran : machine.run main events = some (final, outputs)) :
    ∃ last, machine.run alone (events.filter own) = some (last, outputs.filter seen) ∧
      Related final last := by
  induction events generalizing main alone outputs with
  | nil =>
    obtain ⟨rfl, rfl⟩ : main = final ∧ [] = outputs := by simpa using ran
    exact ⟨alone, rfl, related⟩
  | cons event events inductionHypothesis =>
    obtain ⟨next, first, rest, stepped, continued, rfl⟩ :=
      (run_cons_iff machine _ _ _ _ _).mp ran
    have later : machine.Meets condition next events := met.2 next first stepped
    cases owned : own event with
    | true =>
      obtain ⟨other, alike, reached⟩ :=
        ownStep main alone event next first related owned met.1 stepped
      obtain ⟨last, restricted, ended⟩ := inductionHypothesis reached later continued
      refine ⟨last, ?_, ended⟩
      rw [List.filter_cons_of_pos owned, run_cons_of_step machine alike, restricted,
        List.filter_append]
      rfl
    | false =>
      obtain ⟨unseen, reached⟩ :=
        otherStep main alone event next first related owned met.1 stepped
      obtain ⟨last, restricted, ended⟩ := inductionHypothesis reached later continued
      refine ⟨last, ?_, ended⟩
      rw [List.filter_cons_of_neg (by simp [owned]), restricted, List.filter_append, unseen,
        List.nil_append]

end Machine
