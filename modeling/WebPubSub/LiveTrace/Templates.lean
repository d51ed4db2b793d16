import Mathlib.Data.List.Forall2
import WebPubSub.LiveTrace.View

/-!
# Templates of the listed items

Every log event has its item, the newest first, and the template of an event id is the first
one that came for it. An item should carry that template from the moment it has come, whether
before the item or after it.

`shown_iff` says when the view keeps this: the handler of a template updates one item, the
newest of the event id, so that no older one may still wait for it.
-/

namespace WebPubSub.LiveTrace

/-! ## What has come -/

/-- The log events, the newest first. -/
def logged (events : List Event) : List LiveTraceLogData :=
  (events.filterMap (fun
    | .logEvent logEvent => some logEvent
    | .logProperty _ => none)).reverse

/-- The templates, in the order in which they came. -/
def templates (events : List Event) : List LiveTraceLogProperty :=
  events.filterMap (fun
    | .logEvent _ => none
    | .logProperty props => some props)

/-- The template of an event id: the first that came for it. -/
def received (events : List Event) (eventId : Int) : Option LiveTraceLogProperty :=
  (templates events).find? (fun props => props.eventId = eventId)

section History

variable (events : List Event) (logEvent : LiveTraceLogData) (props : LiveTraceLogProperty)

theorem logged_logEvent : logged (events ++ [.logEvent logEvent]) = logEvent :: logged events := by
  simp [logged]

theorem logged_logProperty : logged (events ++ [.logProperty props]) = logged events := by
  simp [logged]

theorem received_logEvent : received (events ++ [.logEvent logEvent]) = received events := by
  funext eventId
  simp [received, templates]

theorem received_logProperty (eventId : Int) :
    received (events ++ [.logProperty props]) eventId =
      (received events eventId).or (if props.eventId = eventId then some props else none) := by
  simp [received, templates, List.find?_append, List.find?_singleton]

/-- A later template of an id does not count. -/
theorem received_later {template : LiveTraceLogProperty}
    (known : received events props.eventId = some template) :
    received (events ++ [.logProperty props]) = received events := by
  funext eventId
  rw [received_logProperty]
  by_cases same : props.eventId = eventId
  · subst same
    rw [known]
    rfl
  · rw [if_neg same, Option.or_none]

/-- The first template of an id is that of this id from now on. -/
theorem received_first (unknown : received events props.eventId = none) :
    received (events ++ [.logProperty props]) =
      Function.update (received events) props.eventId (some props) := by
  funext eventId
  rw [received_logProperty, Function.update_apply]
  by_cases same : props.eventId = eventId
  · subst same
    simp [unknown]
  · rw [if_neg same, if_neg (Ne.symm same), Option.or_none]

end History

/-! ## Items and their events -/

/-- The two columns of a template. -/
def Spells (columns : JsRecord Text) (template : LiveTraceLogProperty) (values : List Text) :
    Prop :=
  columns.get "eventName".toList = some template.eventName ∧
    columns.get "message".toList = some (render template.template values).1

instance (columns : JsRecord Text) (template : LiveTraceLogProperty) (values : List Text) :
    Decidable (Spells columns template values) :=
  inferInstanceAs (Decidable (_ ∧ _))

/-- An item is that of a log event, and carries the template of its id, if there is one. -/
def Carries (known : Int → Option LiveTraceLogProperty) (item : LogDataViewModel)
    (data : LiveTraceLogData) : Prop :=
  item.eventId = data.eventId ∧
    ∀ template ∈ known data.eventId, Spells item.columns template data.values

instance (known : Int → Option LiveTraceLogProperty) (item : LogDataViewModel)
    (data : LiveTraceLogData) : Decidable (Carries known item data) :=
  inferInstanceAs (Decidable (_ ∧ _))

/-- Every log event has its item, and every item carries the template that has come for it. -/
def Shown (events : List Event) (state : State) : Prop :=
  List.Forall₂ (Carries (received events)) state.logItems (logged events)

instance (events : List Event) (state : State) : Decidable (Shown events state) :=
  inferInstanceAs (Decidable (List.Forall₂ _ _ _))

/-- The older items of an event id, which the handler of its template passes over. -/
def State.passedOver (state : State) (eventId : Int) : List LogDataViewModel :=
  (state.logItems.filter (fun item => item.eventId = eventId)).tail

/-- The condition on an event: with the first template of an id, every listed item of the id
but the newest has the two texts in its own context already. Without such contexts there is at
most one. -/
def Prompt (state : State) : Event → Prop
  | .logEvent _ => True
  | .logProperty props => state.logProps props.eventId = none →
      ∀ item ∈ state.passedOver props.eventId, Spells item.data.logContext props item.data.values

instance (state : State) : ∀ event, Decidable (Prompt state event)
  | .logEvent _ => inferInstanceAs (Decidable True)
  | .logProperty _ => inferInstanceAs (Decidable (_ → _))

/-! ## What an item holds -/

section Carrying

variable {known : Int → Option LiveTraceLogProperty} {item : LogDataViewModel}
  {data : LiveTraceLogData}

theorem carries_of_unknown (eventId : item.eventId = data.eventId)
    (unknown : known data.eventId = none) : Carries known item data := by
  refine ⟨eventId, ?_⟩
  intro template held
  rw [unknown] at held
  cases held

/-- With a template for its id, an item carries exactly this one. -/
theorem carries_iff_spells {template : LiveTraceLogProperty} (eventId : item.eventId = data.eventId)
    (found : known data.eventId = some template) :
    Carries known item data ↔ Spells item.columns template data.values := by
  constructor
  · intro carries
    exact carries.2 template found
  · intro spells
    refine ⟨eventId, ?_⟩
    intro other held
    obtain rfl : template = other := Option.some.inj (found.symm.trans held)
    exact spells

end Carrying

theorem updateViewModel_spells (model : LogDataViewModel) (template : LiveTraceLogProperty) :
    Spells (updateViewModel model template).columns template model.data.values := by
  constructor
  · simp [updateViewModel]
  · simp [updateViewModel]

/-- The columns of an item without a template are those of its context, its time and id, and
its exception. -/
theorem getViewModel_waits (data : LiveTraceLogData) (template : LiveTraceLogProperty)
    (values : List Text) :
    Spells (getViewModel data none).columns template values ↔
      Spells data.logContext template values := by
  unfold Spells getViewModel
  split
  · simp
  · simp
  · simp

/-! ## One update -/

section Update

variable {Item Data : Type} {test : Item → Bool} {update : Item → Item}
  {Known Before After : Item → Data → Prop} {Kept : Item → Prop}
  {items : List Item} {datas : List Data}

/-- The items that a test passes are held to their own condition, if nothing is updated. -/
theorem forall₂_kept_iff (known : List.Forall₂ Known items datas)
    (others : ∀ item data, Known item data → test item = false →
      (After item data ↔ Before item data))
    (passed : ∀ item data, Known item data → test item = true →
      Before item data ∧ (After item data ↔ Kept item)) :
    List.Forall₂ After items datas ↔
      List.Forall₂ Before items datas ∧ ∀ item ∈ items.filter test, Kept item := by
  induction known with
  | nil => simp
  | @cons item data items datas here known inductionHypothesis =>
    rw [List.forall₂_cons, List.forall₂_cons, inductionHypothesis]
    cases tested : test item with
    | false =>
      rw [others item data here tested, List.filter_cons_of_neg (by simp [tested]), and_assoc]
    | true =>
      obtain ⟨before, same⟩ := passed item data here tested
      rw [same, List.filter_cons_of_pos tested, List.forall_mem_cons]
      tauto

/-- The first item that a test passes is updated, and all behind it are held to their own
condition. -/
theorem forall₂_updateFirst_iff (known : List.Forall₂ Known items datas)
    (others : ∀ item data, Known item data → test item = false →
      (After item data ↔ Before item data))
    (passed : ∀ item data, Known item data → test item = true →
      Before item data ∧ (After item data ↔ Kept item))
    (updated : ∀ item data, Known item data → test item = true → After (update item) data) :
    List.Forall₂ After (updateFirst test update items) datas ↔
      List.Forall₂ Before items datas ∧ ∀ item ∈ (items.filter test).tail, Kept item := by
  induction known with
  | nil => simp [updateFirst]
  | @cons item data items datas here known inductionHypothesis =>
    cases tested : test item with
    | false =>
      rw [updateFirst, if_neg (by simp [tested]), List.forall₂_cons, List.forall₂_cons,
        inductionHypothesis, others item data here tested,
        List.filter_cons_of_neg (by simp [tested]), and_assoc]
    | true =>
      have before : Before item data := (passed item data here tested).1
      have after : After (update item) data := updated item data here tested
      rw [updateFirst, if_pos tested, List.forall₂_cons, List.forall₂_cons,
        forall₂_kept_iff known others passed, List.filter_cons_of_pos tested, List.tail_cons,
        and_iff_right before, and_iff_right after]

/-- What holds of every item, and of every updated one, holds after the update. -/
theorem forall₂_updateFirst (known : List.Forall₂ Known items datas)
    (others : ∀ item data, Known item data → After item data)
    (updated : ∀ item data, Known item data → test item = true → After (update item) data) :
    List.Forall₂ After (updateFirst test update items) datas := by
  induction known with
  | nil => exact List.Forall₂.nil
  | @cons item data items datas here known inductionHypothesis =>
    unfold updateFirst
    split
    · rename_i tested
      exact List.Forall₂.cons (updated item data here tested) (known.imp others)
    · exact List.Forall₂.cons (others item data here) inductionHypothesis

end Update

/-! ## What the view knows -/

/-- An item waits for its template as long as none has come: nothing of it has changed. -/
structure Waits (item : LogDataViewModel) (data : LiveTraceLogData) : Prop where
  unchanged : item.data = data
  columns : ∀ template values,
    Spells item.columns template values ↔ Spells data.logContext template values

/-- What holds of the item of a log event, whether or not it carries its template. -/
structure Knows (known : Int → Option LiveTraceLogProperty) (item : LogDataViewModel)
    (data : LiveTraceLogData) : Prop where
  eventId : item.eventId = data.eventId
  waits : known data.eventId = none → Waits item data

/-- The view follows the events: it has the templates that have come, and an item for every log
event. -/
structure Follows (events : List Event) (state : State) : Prop where
  logProps : state.logProps = received events
  logItems : List.Forall₂ (Knows (received events)) state.logItems (logged events)

theorem follows_initial : Follows [] State.initial := ⟨rfl, List.Forall₂.nil⟩

theorem getViewModel_knows (known : Int → Option LiveTraceLogProperty)
    (data : LiveTraceLogData) : Knows known (getViewModel data (known data.eventId)) data := by
  cases found : known data.eventId with
  | none => exact ⟨rfl, fun _ => ⟨rfl, getViewModel_waits data⟩⟩
  | some template =>
    constructor
    · rfl
    · intro unknown
      rw [found] at unknown
      cases unknown

theorem getViewModel_carries (known : Int → Option LiveTraceLogProperty)
    (data : LiveTraceLogData) : Carries known (getViewModel data (known data.eventId)) data := by
  cases found : known data.eventId with
  | none => exact carries_of_unknown rfl found
  | some template => exact (carries_iff_spells rfl found).mpr (updateViewModel_spells _ template)

section Steps

variable {events : List Event} {state : State}

/-- The item of a new log event carries its template from the start. -/
theorem follows_logEvent (follows : Follows events state) (logEvent : LiveTraceLogData) :
    Follows (events ++ [.logEvent logEvent]) (state.onLogEvent logEvent).1 ∧
      (Shown (events ++ [.logEvent logEvent]) (state.onLogEvent logEvent).1 ↔
        Shown events state) := by
  have listed : (state.onLogEvent logEvent).1.logItems =
      getViewModel logEvent (received events logEvent.eventId) :: state.logItems := by
    rw [← follows.logProps]
    rfl
  constructor
  · constructor
    · rw [received_logEvent]
      exact follows.logProps
    · rw [listed, received_logEvent, logged_logEvent]
      exact List.Forall₂.cons (getViewModel_knows _ logEvent) follows.logItems
  · unfold Shown
    rw [listed, received_logEvent, logged_logEvent, List.forall₂_cons]
    exact and_iff_right (getViewModel_carries _ logEvent)

/-- The first template of an id reaches the items that are not passed over. -/
theorem follows_first (follows : Follows events state) (props : LiveTraceLogProperty)
    (unknown : received events props.eventId = none) :
    Follows (events ++ [.logProperty props]) (state.onLogProperty props) ∧
      (Shown (events ++ [.logProperty props]) (state.onLogProperty props) ↔
        Shown events state ∧ Prompt state (.logProperty props)) := by
  have none : state.logProps props.eventId = none := by rw [follows.logProps, unknown]
  have moved : state.onLogProperty props = { state with
      logProps := Function.update state.logProps props.eventId (some props)
      logItems := updateFirst (fun item => item.eventId = props.eventId)
        (fun item => updateViewModel item props) state.logItems } := by
    simp [State.onLogProperty, none]
  have own {data : LiveTraceLogData} (same : data.eventId = props.eventId) :
      received (events ++ [.logProperty props]) data.eventId = some props := by
    rw [received_first events props unknown, same, Function.update_self]
  have other {data : LiveTraceLogData} (apart : data.eventId ≠ props.eventId) :
      received (events ++ [.logProperty props]) data.eventId = received events data.eventId := by
    rw [received_first events props unknown, Function.update_of_ne apart]
  have tests {item : LogDataViewModel} {data : LiveTraceLogData}
      (knows : Knows (received events) item data) :
      decide (item.eventId = props.eventId) = true ↔ data.eventId = props.eventId := by
    rw [knows.eventId, decide_eq_true_iff]
  rw [moved]
  constructor
  · constructor
    · rw [received_first events props unknown, ← follows.logProps]
    · rw [logged_logProperty]
      apply forall₂_updateFirst follows.logItems
      · intro item data knows
        refine ⟨knows.eventId, ?_⟩
        intro absent
        by_cases same : data.eventId = props.eventId
        · rw [own same] at absent
          cases absent
        · exact knows.waits (by rw [← other same, absent])
      · intro item data knows tested
        have same : data.eventId = props.eventId := (tests knows).mp tested
        refine ⟨knows.eventId, ?_⟩
        intro absent
        rw [own same] at absent
        cases absent
  · have exact : List.Forall₂ (Carries (received (events ++ [.logProperty props])))
        (updateFirst (fun item => item.eventId = props.eventId)
          (fun item => updateViewModel item props) state.logItems) (logged events) ↔
        List.Forall₂ (Carries (received events)) state.logItems (logged events) ∧
          ∀ item ∈ state.passedOver props.eventId,
            Spells item.data.logContext props item.data.values := by
      apply forall₂_updateFirst_iff follows.logItems
      · intro item data knows tested
        have apart : data.eventId ≠ props.eventId := by
          intro same
          rw [(tests knows).mpr same] at tested
          cases tested
        unfold Carries
        rw [other apart]
      · intro item data knows tested
        have same : data.eventId = props.eventId := (tests knows).mp tested
        have waits : Waits item data := knows.waits (by rw [same, unknown])
        constructor
        · exact carries_of_unknown knows.eventId (by rw [same, unknown])
        · rw [waits.unchanged, ← waits.columns]
          exact carries_iff_spells knows.eventId (own same)
      · intro item data knows tested
        have same : data.eventId = props.eventId := (tests knows).mp tested
        have waits : Waits item data := knows.waits (by rw [same, unknown])
        have named : (updateViewModel item props).eventId = data.eventId := knows.eventId
        apply (carries_iff_spells named (own same)).mpr
        rw [← waits.unchanged]
        exact updateViewModel_spells item props
    unfold Shown
    rw [logged_logProperty, exact]
    exact and_congr_right (fun _ => ⟨fun kept _ => kept, fun kept => kept none⟩)

/-- A later template of an id changes nothing. -/
theorem follows_later (follows : Follows events state) (props : LiveTraceLogProperty)
    {template : LiveTraceLogProperty} (known : received events props.eventId = some template) :
    Follows (events ++ [.logProperty props]) (state.onLogProperty props) ∧
      (Shown (events ++ [.logProperty props]) (state.onLogProperty props) ↔
        Shown events state ∧ Prompt state (.logProperty props)) := by
  have some : state.logProps props.eventId = some template := by rw [follows.logProps, known]
  have same : state.onLogProperty props = state := by simp [State.onLogProperty, some]
  have prompt : Prompt state (.logProperty props) := by
    intro absent
    rw [some] at absent
    cases absent
  rw [same]
  constructor
  · constructor
    · rw [received_later events props known]
      exact follows.logProps
    · rw [received_later events props known, logged_logProperty]
      exact follows.logItems
  · unfold Shown
    rw [received_later events props known, logged_logProperty]
    exact (and_iff_left prompt).symm

/-- One message: the view goes on following, and keeps what it shows exactly if the condition
holds. -/
theorem follows_step (follows : Follows events state) {event : Event} {next : State}
    {asked : List Int} (stepped : trace.step state event = some (next, asked)) :
    Follows (events ++ [event]) next ∧
      (Shown (events ++ [event]) next ↔ Shown events state ∧ Prompt state event) := by
  cases event with
  | logEvent logEvent =>
    obtain ⟨rfl, -⟩ := Prod.mk.inj (Option.some.inj stepped)
    obtain ⟨following, shown⟩ := follows_logEvent follows logEvent
    exact ⟨following, shown.trans (and_iff_left trivial).symm⟩
  | logProperty props =>
    obtain ⟨rfl, -⟩ := Prod.mk.inj (Option.some.inj stepped)
    cases found : received events props.eventId with
    | none => exact follows_first follows props found
    | some template => exact follows_later follows props found

end Steps

/-! ## Runs -/

/-- After every run the view has the templates that have come and an item for every log event. -/
theorem follows_run {events : List Event} {state : State} {asked : List Int}
    (ran : trace.run State.initial events = some (state, asked)) : Follows events state :=
  trace.run_induction (fun events _ state => Follows events state) follows_initial
    (fun _ _ _ _ _ _ _ follows stepped => (follows_step follows stepped).1) ran

/-- In every state that a run reaches, every item carries the template that has come for its
event id, exactly if each first template of an id found at most one item that waits for it. -/
theorem shown_iff (events : List Event) {state : State} {asked : List Int}
    (ran : trace.run State.initial events = some (state, asked)) :
    Shown events state ↔ trace.Meets Prompt State.initial events := by
  induction events using List.reverseRecOn generalizing state asked with
  | nil =>
    obtain ⟨rfl, -⟩ := Prod.mk.inj (Option.some.inj ran)
    exact iff_of_true List.Forall₂.nil trivial
  | append_singleton events event inductionHypothesis =>
    obtain ⟨middle, first, rest, began, ended, -⟩ := trace.run_append_inv ran
    obtain ⟨next, added, none, stepped, finished, -⟩ := (trace.run_cons_iff _ _ _ _ _).mp ended
    obtain ⟨rfl, -⟩ := Prod.mk.inj (Option.some.inj finished)
    rw [trace.meets_concat_iff began, ← inductionHypothesis began]
    exact (follows_step (follows_run began) stepped).2

/-- A log event with one value, of an id whose template has one place. -/
def oneValue (value : Text) : LiveTraceLogData := ⟨value, 7, JsRecord.empty, [value], none⟩

/-- The template of the log events with one value. -/
def onePlace : LiveTraceLogProperty := ⟨7, "Value".toList, "{value}!".toList⟩

/-- The template comes between two log events of its id. -/
theorem shown_iff_between :
    Shown [.logEvent (oneValue ['a']), .logProperty onePlace, .logEvent (oneValue ['b'])]
        (((State.initial.onLogEvent (oneValue ['a'])).1.onLogProperty onePlace).onLogEvent
          (oneValue ['b'])).1 ↔
      trace.Meets Prompt State.initial
        [.logEvent (oneValue ['a']), .logProperty onePlace, .logEvent (oneValue ['b'])] :=
  shown_iff _ rfl

/-- Two log events of one id wait for the template, and it reaches the newer one only. -/
theorem older_waits :
    ∃ state asked,
      trace.run State.initial
          [.logEvent (oneValue ['a']), .logEvent (oneValue ['b']), .logProperty onePlace] =
        some (state, asked) ∧
      state.logItems.map (fun item => item.columns.get "message".toList) =
        [some "b!".toList, none] ∧
      ¬Shown [.logEvent (oneValue ['a']), .logEvent (oneValue ['b']), .logProperty onePlace]
        state := by
  refine ⟨_, _, rfl, ?_, ?_⟩
  · decide
  · decide

end WebPubSub.LiveTrace
