import WebPubSub.HubSetting.Targets
import WebPubSub.Library.Machine

/-!
# Failures and the properties of the tree

A sequence of commands on one hub of the tree. A command succeeds when its wizard is
answered and the service accepts what is put; the tree then gets the properties anew. One
that fails or is cancelled leaves the tree as its wizard has left it. A wizard that is
cancelled has edited nothing, but the lists of handlers are edited before they are put, so
that what the service refuses stays in the tree and is put by the next command.
-/

namespace WebPubSub.HubSetting

/-- The properties of a hub at the service and in the tree. -/
structure Tree (Listener : Type) where
  service : HubProperties Listener
  cached : HubProperties Listener
deriving DecidableEq

/-- A command, and whether the service accepts what it puts. -/
structure Attempt where
  operation : CachedOperation
  accepted : Bool

section Caching

variable {Listener : Type} (hosts : Url.HostParser) (hub : Hub)

/-- The body with which a command succeeds. -/
def Attempt.put (tree : Tree Listener) (attempt : Attempt) : Option (HubProperties Listener) :=
  if attempt.accepted then (attempt.operation.execute hosts hub tree.cached).2 else none

/-- The tree after a command: refreshed if it succeeded. -/
def Attempt.after (tree : Tree Listener) (attempt : Attempt) : Tree Listener :=
  match attempt.put hosts hub tree with
  | some body => ⟨body, body⟩
  | none => { tree with cached := (attempt.operation.execute hosts hub tree.cached).1 }

/-- Commands one after another; the outputs are what the service accepts. -/
def commands : Machine (Tree Listener) Attempt (HubProperties Listener) :=
  ⟨fun tree attempt => some (attempt.after hosts hub tree, (attempt.put hosts hub tree).toList)⟩

/-- A command that does not succeed leaves the properties of the tree; one that does puts
what the service has, changed in its target only. -/
structure Atomic (tree : Tree Listener) (attempt : Attempt) : Prop where
  failure : attempt.put hosts hub tree = none →
    (attempt.after hosts hub tree).cached = tree.cached
  success : ∀ body, attempt.put hosts hub tree = some body →
    body.settings = attempt.operation.target hosts tree.service.settings

/-- Nothing that edits a list is refused by the service: what it refuses is a policy, or
no change. -/
def Harmless (tree : Tree Listener) (attempt : Attempt) : Prop :=
  attempt.accepted = true ∨
    match attempt.operation with
    | .createEventHandler answers =>
      newHandler hosts answers = none ∨ tree.cached.eventHandlers = none
    | .updateEventHandler updateIndex answers =>
      ∀ index ∈ updateIndex, ∀ eventHandler ∈ tree.cached.settings.handlers[index]?,
        ∀ updated ∈ updatedHandler hosts answers eventHandler, updated = eventHandler
    | .deleteEventHandler item => tree.cached.settings.handlers.length < item.priority
    | .switchAnonymousPolicy => True

variable {hosts hub} {tree : Tree Listener}

/-- A written handler is the one that it replaces when the list stays the same. -/
theorem set_eq_self_iff {handlers : List EventHandler} {index : Nat}
    {eventHandler updated : EventHandler} (found : handlers[index]? = some eventHandler) :
    handlers.set index updated = handlers ↔ updated = eventHandler := by
  obtain ⟨inside, rfl⟩ := List.getElem?_eq_some_iff.mp found
  constructor
  · intro same
    have read : (handlers.set index updated)[index]? = some updated :=
      List.getElem?_set_self inside
    rw [same, found] at read
    exact (Option.some.inj read).symm
  · rintro rfl
    exact List.set_getElem_self inside

theorem created_cached (answers : HandlerAnswers) :
    (CachedOperation.createEventHandler answers |>.execute hosts hub tree.cached).1 = tree.cached ↔
      newHandler hosts answers = none ∨ tree.cached.eventHandlers = none := by
  simp only [CachedOperation.execute]
  cases present : tree.cached.eventHandlers with
  | none => simp [promptNew, present]
  | some eventHandlers =>
    cases answered : newHandler hosts answers with
    | none => simp [promptNew, present, answered]
    | some eventHandler =>
      have edited : promptNew hosts answers tree.cached = some { tree.cached with
          eventHandlers := some (eventHandlers ++ [eventHandler]) } := by
        simp [promptNew, present, answered]
      rw [edited]
      refine iff_of_false (fun same => ?_) (by simp)
      have longer := congrArg HubProperties.eventHandlers same
      simp [present] at longer

theorem updated_cached (updateIndex : Option Nat) (answers : HandlerAnswers) :
    (CachedOperation.updateEventHandler updateIndex answers |>.execute hosts hub tree.cached).1 =
        tree.cached ↔
      ∀ index ∈ updateIndex, ∀ eventHandler ∈ tree.cached.settings.handlers[index]?,
        ∀ updated ∈ updatedHandler hosts answers eventHandler, updated = eventHandler := by
  simp only [CachedOperation.execute]
  cases present : tree.cached.eventHandlers with
  | none => simp [promptUpdate, present, HubProperties.settings]
  | some eventHandlers =>
    have handlers : tree.cached.settings.handlers = eventHandlers := by
      simp [HubProperties.settings, present]
    rw [handlers]
    cases updateIndex with
    | none => simp [promptUpdate, present]
    | some index =>
      cases found : eventHandlers[index]? with
      | none => simp [promptUpdate, present, found]
      | some eventHandler =>
        cases answered : updatedHandler hosts answers eventHandler with
        | none => simp [promptUpdate, present, found, answered]
        | some updated =>
          have edited : promptUpdate hosts (some index) answers tree.cached = some { tree.cached with
              eventHandlers := some (eventHandlers.set index updated) } := by
            simp [promptUpdate, present, found, answered]
          rw [edited]
          simp only [Option.mem_some_iff, forall_eq', found, answered]
          rw [← set_eq_self_iff found]
          constructor
          · intro same
            have lists := congrArg HubProperties.eventHandlers same
            simpa [present] using lists
          · intro same
            rw [same, ← present]

theorem deleted_cached (item : EventHandlerItem) :
    (CachedOperation.deleteEventHandler item |>.execute hosts hub tree.cached).1 = tree.cached ↔
      tree.cached.settings.handlers.length < item.priority := by
  have placed := item.placed
  simp only [CachedOperation.execute]
  cases present : tree.cached.eventHandlers with
  | none => simp [HubProperties.settings, present, placed]
  | some eventHandlers =>
    have beyond : eventHandlers.eraseIdx (item.priority - 1) = eventHandlers ↔
        eventHandlers.length < item.priority := by
      rw [List.eraseIdx_eq_self]
      omega
    have handlers : tree.cached.settings.handlers = eventHandlers := by
      simp [HubProperties.settings, present]
    rw [handlers, ← beyond]
    constructor
    · intro same
      have lists := congrArg HubProperties.eventHandlers same
      simpa [present] using lists
    · intro same
      dsimp only
      rw [same, ← present]

/-- A command edits nothing in the tree exactly when a refusal of it is harmless. -/
theorem execute_cached (operation : CachedOperation) :
    (operation.execute hosts hub tree.cached).1 = tree.cached ↔
      Harmless hosts tree ⟨operation, false⟩ := by
  simp only [Harmless, Bool.false_eq_true, false_or]
  cases operation with
  | createEventHandler answers => exact created_cached answers
  | updateEventHandler updateIndex answers => exact updated_cached updateIndex answers
  | deleteEventHandler item => exact deleted_cached item
  | switchAnonymousPolicy => exact iff_of_true rfl trivial

/-- A command without success leaves the tree exactly when it is harmless. -/
theorem after_failed {attempt : Attempt} (failed : attempt.put hosts hub tree = none) :
    (attempt.after hosts hub tree).cached = tree.cached ↔ Harmless hosts tree attempt := by
  obtain ⟨operation, accepted⟩ := attempt
  rw [Attempt.after, failed]
  cases accepted with
  | true => exact iff_of_true (execute_none failed) (Or.inl rfl)
  | false => exact execute_cached operation

/-- As long as the tree has what the service has, a harmless command is atomic. -/
theorem atomic_of_current {attempt : Attempt} (current : tree.cached = tree.service)
    (harmless : Harmless hosts tree attempt) : Atomic hosts hub tree attempt := by
  constructor
  case failure => exact fun failed => (after_failed failed).mpr harmless
  case success =>
    intro body succeeded
    rw [Attempt.put, Option.ite_none_right_eq_some] at succeeded
    rw [settings_execute succeeded.2, current]

/-- It leaves the tree with what the service has. -/
theorem current_step {attempt : Attempt} (current : tree.cached = tree.service)
    (harmless : Harmless hosts tree attempt) :
    (attempt.after hosts hub tree).cached = (attempt.after hosts hub tree).service := by
  cases put : attempt.put hosts hub tree with
  | some body => rw [Attempt.after, put]
  | none =>
    rw [(after_failed put).mpr harmless, current, Attempt.after, put]

/-- In a run of commands that starts with a current tree, every command that fails or is
cancelled leaves the properties of the tree, and every one that succeeds puts the last
state of the service changed in its target only, exactly when every command of the run is
harmless. -/
theorem failures_keep_cache (hosts : Url.HostParser) (hub : Hub)
    (hubProperties : HubProperties Listener) (attempts : List Attempt) :
    (commands hosts hub).Meets (Atomic hosts hub) ⟨hubProperties, hubProperties⟩ attempts ↔
      (commands hosts hub).Meets (Harmless hosts) ⟨hubProperties, hubProperties⟩ attempts := by
  constructor
  · apply Machine.meets_of_invariant _ (fun _ => True) (fun _ _ _ _ _ _ _ => trivial) ?_ trivial
    intro tree attempt _ atomic
    cases put : attempt.put hosts hub tree with
    | none => exact (after_failed put).mp (atomic.failure put)
    | some body =>
      rw [Attempt.put, Option.ite_none_right_eq_some] at put
      exact Or.inl put.1
  · apply Machine.meets_of_invariant _ (fun tree => tree.cached = tree.service) ?_ ?_ rfl
    · intro tree attempt next outputs current harmless stepped
      obtain ⟨rfl, -⟩ := Prod.mk.inj (Option.some.inj stepped)
      exact current_step current harmless
    · exact fun tree attempt current harmless => atomic_of_current current harmless

/-- A hub with one handler. -/
def handledHub : HubProperties Text :=
  ⟨some [⟨"https://app/".toList, none, none, none⟩], some [], none⟩

/-- The service refuses to delete the handler. -/
def refusedDeletion : Attempt :=
  ⟨.deleteEventHandler ⟨⟨"https://app/".toList, none, none, none⟩, 1, by decide⟩, false⟩

/-- A deletion that the service has refused is put with the policy that is switched next. -/
theorem refused_deletion_stays :
    ¬(commands (fun _ host => some host) ⟨['h'], ['g'], ['s'], by decide⟩).Meets
      (Atomic (fun _ host => some host) ⟨['h'], ['g'], ['s'], by decide⟩) ⟨handledHub, handledHub⟩
      [refusedDeletion, ⟨.switchAnonymousPolicy, true⟩] ∧
    (((commands (fun _ host => some host) ⟨['h'], ['g'], ['s'], by decide⟩).run
      ⟨handledHub, handledHub⟩ [refusedDeletion, ⟨.switchAnonymousPolicy, true⟩]).map Prod.snd =
        some [⟨some [], some [], some "allow".toList⟩]) := by
  constructor
  · intro met
    have kept := met.1.failure rfl
    revert kept
    decide
  · decide

end Caching

end WebPubSub.HubSetting
