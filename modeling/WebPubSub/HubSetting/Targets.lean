import WebPubSub.HubSetting.Workflows

/-!
# What a workflow is to change

The settings of a hub with its lists taken as empty when they are absent, and the part of
them that each command names. The four commands that put the properties of the tree back
change that part alone. The step of a local tunnel puts a body that names the handlers and
nothing else, so that it deletes the listeners and the policy of a hub that has any; and
neither it nor the creation of a handler serves a hub whose list of handlers is absent.
-/

namespace WebPubSub.HubSetting

/-- The settings of a hub. -/
structure Settings (Listener : Type) where
  handlers : List EventHandler
  listeners : List Listener
  policy : Option Text
deriving DecidableEq

section Targets

variable {Listener : Type}

/-- An absent list counts as an empty one. -/
def HubProperties.settings (hubProperties : HubProperties Listener) : Settings Listener where
  handlers := hubProperties.eventHandlers.getD []
  listeners := hubProperties.eventListeners.getD []
  policy := hubProperties.anonymousConnectPolicy

variable (hosts : Url.HostParser)

/-- The settings with the named handler added, replaced or removed, or with the other
policy. A command that the user does not answer changes nothing. -/
def CachedOperation.target (settings : Settings Listener) : CachedOperation → Settings Listener
  | .createEventHandler answers =>
    { settings with handlers := settings.handlers ++ (newHandler hosts answers).toList }
  | .updateEventHandler updateIndex answers =>
    match updateIndex with
    | none => settings
    | some index =>
      { settings with handlers := settings.handlers.modify index (fun eventHandler =>
        (updatedHandler hosts answers eventHandler).getD eventHandler) }
  | .deleteEventHandler item =>
    { settings with handlers := settings.handlers.eraseIdx (item.priority - 1) }
  | .switchAnonymousPolicy => { settings with policy := some (targetPolicy settings.policy) }

/-- A tunnel handler is added when no handler has its URL, unless the user declines. -/
def Operation.target (settings : Settings Listener) : Operation → Settings Listener
  | .cached operation => operation.target hosts settings
  | .attachLocalTunnel answers =>
    if ∃ e ∈ settings.handlers, e.urlTemplate = tunnelUrlTemplate then settings
    else { settings with handlers := settings.handlers ++ (tunnelEventHandler answers).toList }

/-- The list of handlers is there when a handler is to be added, and when a tunnel handler
is to be added there is nothing else that its body could delete. -/
def Operation.Fits (hubProperties : HubProperties Listener) : Operation → Prop
  | .cached (.createEventHandler answers) =>
    (newHandler hosts answers).isSome → hubProperties.eventHandlers ≠ none
  | .attachLocalTunnel answers =>
    (tunnelEventHandler answers).isSome →
      (∀ e ∈ hubProperties.settings.handlers, e.urlTemplate ≠ tunnelUrlTemplate) →
        hubProperties.eventHandlers ≠ none ∧ hubProperties.settings.listeners = [] ∧
          hubProperties.anonymousConnectPolicy = none
  | _ => True

variable {hosts} {hub : Hub} {hubProperties edited body : HubProperties Listener}

/-- On a hub of the tree the body has the settings that the wizard was given. -/
theorem createOrUpdateHubSetting_context (hub : Hub) (hubProperties : HubProperties Listener) :
    createOrUpdateHubSetting (hub.context hubProperties) = some { hubProperties with
      eventHandlers := some (hubProperties.eventHandlers.getD [])
      eventListeners := some (hubProperties.eventListeners.getD []) } := by
  have named := hub.named
  simp [createOrUpdateHubSetting, Hub.context, guard, named]

/-- What a command puts has the settings of the edited properties. -/
theorem settings_put
    (put : createOrUpdateHubSetting (hub.context edited) = some body) :
    body.settings = edited.settings := by
  rw [createOrUpdateHubSetting_context] at put
  obtain rfl := Option.some.inj put
  rfl

theorem settings_promptNew {answers : HandlerAnswers}
    (prompted : promptNew hosts answers hubProperties = some edited) :
    ∃ eventHandler, newHandler hosts answers = some eventHandler ∧
      edited.settings = { hubProperties.settings with
        handlers := hubProperties.settings.handlers ++ [eventHandler] } := by
  simp only [promptNew, Option.bind_eq_bind, Option.bind_eq_some_iff, Option.pure_def,
    Option.some.injEq] at prompted
  obtain ⟨eventHandlers, present, eventHandler, answered, rfl⟩ := prompted
  exact ⟨eventHandler, answered, by simp [HubProperties.settings, present]⟩

theorem settings_promptUpdate {updateIndex : Option Nat} {answers : HandlerAnswers}
    (prompted : promptUpdate hosts updateIndex answers hubProperties = some edited) :
    edited.settings =
      (CachedOperation.updateEventHandler updateIndex answers).target hosts hubProperties.settings := by
  simp only [promptUpdate, Option.bind_eq_bind, Option.bind_eq_some_iff, Option.pure_def,
    Option.some.injEq] at prompted
  obtain ⟨eventHandlers, present, index, picked, eventHandler, found, updated, answered, rfl⟩ :=
    prompted
  subst picked
  have replaced : eventHandlers.set index updated = eventHandlers.modify index (fun eventHandler =>
      (updatedHandler hosts answers eventHandler).getD eventHandler) := by
    rw [List.modify_eq_set_getElem?, found]
    simp [answered]
  simp [CachedOperation.target, HubProperties.settings, present, replaced]

/-- What a command on the properties of the tree puts is its target. -/
theorem settings_execute {operation : CachedOperation}
    (put : (operation.execute hosts hub hubProperties).2 = some body) :
    body.settings = operation.target hosts hubProperties.settings := by
  cases operation with
  | createEventHandler answers =>
    simp only [CachedOperation.execute] at put
    split at put
    · cases put
    · rename_i edited prompted
      obtain ⟨eventHandler, answered, added⟩ := settings_promptNew prompted
      rw [settings_put put, added, CachedOperation.target, answered]
      rfl
  | updateEventHandler updateIndex answers =>
    simp only [CachedOperation.execute] at put
    split at put
    · cases put
    · rename_i edited prompted
      rw [settings_put put, settings_promptUpdate prompted]
  | deleteEventHandler item =>
    simp only [CachedOperation.execute] at put
    split at put
    · cases put
    · rename_i eventHandlers present
      rw [settings_put put]
      simp [CachedOperation.target, HubProperties.settings, present]
  | switchAnonymousPolicy =>
    rw [settings_put put]
    rfl

/-- A wizard that is not answered leaves the properties of the tree. -/
theorem execute_none {operation : CachedOperation}
    (unput : (operation.execute hosts hub hubProperties).2 = none) :
    (operation.execute hosts hub hubProperties).1 = hubProperties := by
  cases operation with
  | createEventHandler answers =>
    simp only [CachedOperation.execute] at unput ⊢
    split at unput
    · rfl
    · simp [createOrUpdateHubSetting_context] at unput
  | updateEventHandler updateIndex answers =>
    simp only [CachedOperation.execute] at unput ⊢
    split at unput
    · rfl
    · simp [createOrUpdateHubSetting_context] at unput
  | deleteEventHandler item =>
    simp only [CachedOperation.execute] at unput ⊢
    split at unput
    · rfl
    · simp [createOrUpdateHubSetting_context] at unput
  | switchAnonymousPolicy => simp [CachedOperation.execute, createOrUpdateHubSetting_context] at unput

/-- A change of one place that changes nothing there changes nothing. -/
theorem modify_of_same {handlers : List EventHandler} {index : Nat}
    {change : EventHandler → EventHandler}
    (same : ∀ eventHandler, handlers[index]? = some eventHandler →
      change eventHandler = eventHandler) : handlers.modify index change = handlers := by
  rw [List.modify_eq_set_getElem?]
  cases found : handlers[index]? with
  | none => rfl
  | some eventHandler =>
    obtain ⟨inside, rfl⟩ := List.getElem?_eq_some_iff.mp found
    simp [same _ found]

/-- A wizard that puts nothing meets its target if it had none, so unless it was to add a
handler to an absent list. -/
theorem target_of_unput {operation : CachedOperation}
    (unput : (operation.execute hosts hub hubProperties).2 = none) :
    hubProperties.settings = operation.target hosts hubProperties.settings ↔
      (Operation.cached operation).Fits hosts hubProperties := by
  cases operation with
  | createEventHandler answers =>
    have unanswered : promptNew hosts answers hubProperties = none := by
      cases prompted : promptNew hosts answers hubProperties with
      | none => rfl
      | some edited =>
        simp [CachedOperation.execute, prompted, createOrUpdateHubSetting_context] at unput
    cases answered : newHandler hosts answers with
    | none => simp [CachedOperation.target, Operation.Fits, answered]
    | some eventHandler =>
      have absent : hubProperties.eventHandlers = none := by
        cases present : hubProperties.eventHandlers with
        | none => rfl
        | some eventHandlers => simp [promptNew, present, answered] at unanswered
      simp [CachedOperation.target, Operation.Fits, answered, absent, HubProperties.settings]
  | updateEventHandler updateIndex answers =>
    refine iff_of_true ?_ trivial
    cases updateIndex with
    | none => rfl
    | some index =>
      have kept : hubProperties.settings.handlers.modify index (fun eventHandler =>
          (updatedHandler hosts answers eventHandler).getD eventHandler) =
            hubProperties.settings.handlers := by
        apply modify_of_same
        intro eventHandler found
        cases answered : updatedHandler hosts answers eventHandler with
        | none => rfl
        | some updated =>
          cases present : hubProperties.eventHandlers with
          | none => simp [HubProperties.settings, present] at found
          | some eventHandlers =>
            have located : eventHandlers[index]? = some eventHandler := by
              simpa [HubProperties.settings, present] using found
            simp [CachedOperation.execute, promptUpdate, present, located, answered,
              createOrUpdateHubSetting_context] at unput
      rw [CachedOperation.target, kept]
  | deleteEventHandler item =>
    refine iff_of_true ?_ trivial
    cases present : hubProperties.eventHandlers with
    | none => simp [CachedOperation.target, HubProperties.settings, present]
    | some eventHandlers =>
      simp [CachedOperation.execute, present, createOrUpdateHubSetting_context] at unput
  | switchAnonymousPolicy =>
    simp [CachedOperation.execute, createOrUpdateHubSetting_context] at unput

/-- A command that puts its body fits. -/
theorem fits_of_put {operation : CachedOperation}
    (put : (operation.execute hosts hub hubProperties).2 = some body) :
    (Operation.cached operation).Fits hosts hubProperties := by
  cases operation with
  | createEventHandler answers =>
    rintro - absent
    simp [CachedOperation.execute, promptNew, absent] at put
  | updateEventHandler updateIndex answers => trivial
  | deleteEventHandler item => trivial
  | switchAnonymousPolicy => trivial

/-- The put of the step of a local tunnel on a hub with a list of handlers. -/
theorem attachLocalTunnel_present {eventHandlers : List EventHandler}
    (present : hubProperties.eventHandlers = some eventHandlers) (answers : TunnelAnswers) :
    attachLocalTunnel answers hubProperties =
      if ∃ e ∈ eventHandlers, e.urlTemplate = tunnelUrlTemplate then none
      else (tunnelEventHandler answers).map (fun eventHandler =>
        ⟨some (eventHandlers ++ [eventHandler]), none, none⟩) := by
  have empty : (eventHandlers.filter (fun e =>
      decide (e.urlTemplate = tunnelUrlTemplate))).length = 0 ↔
        ¬∃ e ∈ eventHandlers, e.urlTemplate = tunnelUrlTemplate := by
    simp [List.filter_eq_nil_iff]
  simp only [attachLocalTunnel, present, Option.bind_eq_bind, Option.bind_some]
  split
  · rename_i tunneled
    rw [guard, if_neg (fun none => empty.mp none tunneled)]
    rfl
  · rename_i apart
    rw [guard, if_pos (empty.mpr apart)]
    cases tunnelEventHandler answers with
    | none => rfl
    | some eventHandler => rfl

/-- The step of a local tunnel meets its target where its body deletes nothing. -/
theorem attachLocalTunnel_target (answers : TunnelAnswers) :
    ((attachLocalTunnel answers hubProperties).getD hubProperties).settings =
        (Operation.attachLocalTunnel answers).target hosts hubProperties.settings ↔
      (Operation.attachLocalTunnel answers).Fits hosts hubProperties := by
  obtain ⟨eventHandlers, eventListeners, policy⟩ := hubProperties
  cases eventHandlers with
  | none =>
    have kept : attachLocalTunnel answers (⟨none, eventListeners, policy⟩ : HubProperties Listener) =
        none := rfl
    rw [kept]
    cases answered : tunnelEventHandler answers with
    | none => simp [Operation.target, Operation.Fits, answered]
    | some eventHandler =>
      simp [Operation.target, Operation.Fits, answered, HubProperties.settings]
  | some eventHandlers =>
    rw [attachLocalTunnel_present rfl]
    by_cases tunneled : ∃ e ∈ eventHandlers, e.urlTemplate = tunnelUrlTemplate
    · have target : (Operation.attachLocalTunnel answers).target hosts
          (⟨some eventHandlers, eventListeners, policy⟩ : HubProperties Listener).settings =
            (⟨some eventHandlers, eventListeners, policy⟩ : HubProperties Listener).settings :=
        if_pos tunneled
      rw [if_pos tunneled, target]
      refine iff_of_true rfl (fun _ apart => ?_)
      obtain ⟨e, listed, named⟩ := tunneled
      exact absurd named (apart e listed)
    · have target : (Operation.attachLocalTunnel answers).target hosts
          (⟨some eventHandlers, eventListeners, policy⟩ : HubProperties Listener).settings =
            ⟨eventHandlers ++ (tunnelEventHandler answers).toList, eventListeners.getD [], policy⟩ :=
        if_neg tunneled
      rw [if_neg tunneled, target]
      have apart : ∀ e ∈ eventHandlers, e.urlTemplate ≠ tunnelUrlTemplate :=
        fun e listed named => tunneled ⟨e, listed, named⟩
      cases answered : tunnelEventHandler answers with
      | none =>
        simp only [Operation.Fits, answered, Option.toList_none, List.append_nil]
        exact iff_of_true rfl (fun unanswered => absurd unanswered (by simp))
      | some eventHandler =>
        have fits : (Operation.attachLocalTunnel answers).Fits hosts
            (⟨some eventHandlers, eventListeners, policy⟩ : HubProperties Listener) ↔
              eventListeners.getD [] = [] ∧ policy = none := by
          simp only [Operation.Fits, answered, Option.isSome_some, forall_const]
          exact ⟨fun fitting => (fitting apart).2, fun nothing _ => ⟨by simp, nothing⟩⟩
        rw [fits]
        constructor
        · intro same
          obtain ⟨-, listeners, policies⟩ := Settings.mk.inj same
          exact ⟨listeners.symm, policies.symm⟩
        · rintro ⟨listeners, rfl⟩
          rw [listeners]
          rfl

/-- A command changes the part of the settings that it names and no other part, exactly
when it fits the properties of the hub. -/
theorem operations_change_only_target (hosts : Url.HostParser) (hub : Hub) (operation : Operation)
    (hubProperties : HubProperties Listener) :
    (operation.perform hosts hub hubProperties).settings =
        operation.target hosts hubProperties.settings ↔
      operation.Fits hosts hubProperties := by
  cases operation with
  | cached operation =>
    cases put : (operation.execute hosts hub hubProperties).2 with
    | none =>
      rw [Operation.perform, put]
      exact target_of_unput put
    | some body =>
      rw [Operation.perform, put]
      exact iff_of_true (settings_execute put) (fits_of_put put)
  | attachLocalTunnel answers => exact attachLocalTunnel_target answers

/-- A hub without handlers whose anonymous clients are allowed. -/
def allowingHub : HubProperties Text := ⟨some [], some [], some "allow".toList⟩

/-- The user adds the tunnel handler for all user events and no system event. -/
def tunnelAccepted : TunnelAnswers := ⟨⟨some .all, none, some []⟩, some true⟩

/-- Attaching a local tunnel deletes the policy. -/
theorem attach_deletes_policy :
    ((Operation.attachLocalTunnel tunnelAccepted).perform (fun _ host => some host)
      ⟨['h'], ['g'], ['s'], by decide⟩ allowingHub).settings ≠
        (Operation.attachLocalTunnel tunnelAccepted).target (fun _ host => some host)
          allowingHub.settings := by
  decide

end Targets

end WebPubSub.HubSetting
