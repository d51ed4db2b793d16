import WebPubSub.Library.Url
import WebPubSub.Packets

/-!
# The workflows of hub settings

The commands of the editor extension that change the settings of a hub: four of them edit
the properties that the tree keeps of the hub and put them to the service, the fifth gets
the properties from the service and puts a body of its own. A put replaces the whole
resource. A wizard that throws, or that the user cancels, puts nothing.

The wizard hands the properties of the tree to its steps without a copy, so that a step
that edits a list edits that of the tree; an edit is therefore given back beside the body.
Event listeners are passed on unread. The later steps of a local tunnel do not touch the
hub and are left out.
-/

namespace WebPubSub.HubSetting

/-- `ManagedIdentitySettings`. -/
structure ManagedIdentitySettings where
  resource : Option Text
deriving DecidableEq, Repr

/-- `UpstreamAuthSettings`. -/
structure UpstreamAuthSettings where
  type : Option Text
  managedIdentity : Option ManagedIdentitySettings
deriving DecidableEq, Repr

/-- `EventHandler`. -/
structure EventHandler where
  urlTemplate : Text
  userEventPattern : Option Text
  systemEvents : Option (List Text)
  auth : Option UpstreamAuthSettings
deriving DecidableEq, Repr

/-- `WebPubSubHubProperties`. -/
structure HubProperties (Listener : Type) where
  eventHandlers : Option (List EventHandler)
  eventListeners : Option (List Listener)
  anonymousConnectPolicy : Option Text
deriving DecidableEq, Repr

/-- A hub of the tree with the names that its requests are sent to. -/
structure Hub where
  hubName : Text
  resourceGroup : Text
  serviceName : Text
  named : hubName ≠ [] ∧ resourceGroup ≠ [] ∧ serviceName ≠ []

/-- `ICreateOrUpdateHubSettingContext`. -/
structure Context (Listener : Type) where
  hubName : Option Text
  resourceGroupName : Option Text
  serviceName : Option Text
  hubProperties : Option (HubProperties Listener)

/-- `EventHandlerItem`: its priority is its place in the list, from one on. -/
structure EventHandlerItem where
  eventHandler : EventHandler
  priority : Nat
  placed : 0 < priority

/-! ## Prompts -/

/-- `KnownUserEvents`. -/
inductive KnownUserEvents where
  | none | all | specify
deriving DecidableEq, Repr

/-- `KnownSystemEvents`. -/
inductive KnownSystemEvents where
  | connect | connected | disconnected
deriving DecidableEq, Repr

def KnownSystemEvents.text : KnownSystemEvents → Text
  | .connect => "connect".toList
  | .connected => "connected".toList
  | .disconnected => "disconnected".toList

/-- `KnownAnonymousConnectPolicy`. -/
inductive KnownAnonymousConnectPolicy where
  | allow | deny
deriving DecidableEq, Repr

def KnownAnonymousConnectPolicy.text : KnownAnonymousConnectPolicy → Text
  | .allow => "allow".toList
  | .deny => "deny".toList

/-- The answers to the prompts for the events of a handler. A prompt without an answer was
cancelled. -/
structure EventAnswers where
  userEvents : Option KnownUserEvents
  specified : Option Text
  systemEvents : Option (List KnownSystemEvents)

/-- The answers to the prompts for a handler. -/
structure HandlerAnswers extends EventAnswers where
  urlTemplate : Option Text

/-- `trim`. -/
def trim (text : Text) : Text :=
  ((text.dropWhile JsNumber.blank).reverse.dropWhile JsNumber.blank).reverse

/-- `isUrlValid`. -/
def isUrlValid (hosts : Url.HostParser) (url : Text) : Bool := (Url.parse hosts url).isSome

/-- `inputUrlTemplate`. A text that is not valid keeps the box open, so that it is no
answer. -/
def inputUrlTemplate (hosts : Url.HostParser) (answers : HandlerAnswers)
    (defaultUrlTemplate : Text) : Option Text :=
  answers.urlTemplate.filter (fun urlTemplate =>
    urlTemplate = defaultUrlTemplate || isUrlValid hosts urlTemplate)

/-- `inputUserEvents`. -/
def inputUserEvents (answers : EventAnswers) : Option Text :=
  answers.userEvents.bind (fun userEvent =>
    match userEvent with
    | .all => some "*".toList
    | .none => some []
    | .specify => answers.specified.map trim)

/-- `selectSystemEvents`. -/
def selectSystemEvents (answers : EventAnswers) : Option (List Text) :=
  answers.systemEvents.map (List.map KnownSystemEvents.text)

/-- The handler that `CreateOrUpdateEventHandlerStep` adds. -/
def newHandler (hosts : Url.HostParser) (answers : HandlerAnswers) : Option EventHandler := do
  let urlTemplate ← inputUrlTemplate hosts answers "https://".toList
  let userEventPattern ← inputUserEvents answers.toEventAnswers
  let systemEvents ← selectSystemEvents answers.toEventAnswers
  pure ⟨urlTemplate, some userEventPattern, some systemEvents, some ⟨none, none⟩⟩

/-- The handler that it writes over another one. -/
def updatedHandler (hosts : Url.HostParser) (answers : HandlerAnswers)
    (eventHandler : EventHandler) : Option EventHandler := do
  let urlTemplate ← inputUrlTemplate hosts answers eventHandler.urlTemplate
  let userEventPattern ← inputUserEvents answers.toEventAnswers
  let systemEvents ← selectSystemEvents answers.toEventAnswers
  pure { eventHandler with
    urlTemplate := urlTemplate
    userEventPattern := some userEventPattern
    systemEvents := some systemEvents }

/-! ## Steps -/

section Steps

variable {Listener : Type}

/-- `CreateOrUpdateEventHandlerStep.prompt` for a new handler. -/
def promptNew (hosts : Url.HostParser) (answers : HandlerAnswers)
    (hubProperties : HubProperties Listener) : Option (HubProperties Listener) := do
  let eventHandlers ← hubProperties.eventHandlers
  let eventHandler ← newHandler hosts answers
  pure { hubProperties with eventHandlers := some (eventHandlers ++ [eventHandler]) }

/-- `CreateOrUpdateEventHandlerStep.prompt` for a handler that the user picks. -/
def promptUpdate (hosts : Url.HostParser) (updateIndex : Option Nat) (answers : HandlerAnswers)
    (hubProperties : HubProperties Listener) : Option (HubProperties Listener) := do
  let eventHandlers ← hubProperties.eventHandlers
  let updateIndex ← updateIndex
  let eventHandler ← eventHandlers[updateIndex]?
  let updated ← updatedHandler hosts answers eventHandler
  pure { hubProperties with eventHandlers := some (eventHandlers.set updateIndex updated) }

/-- `CreateOrUpdateHubSettingStep.execute`: the body that it puts, unless it throws. -/
def createOrUpdateHubSetting (context : Context Listener) : Option (HubProperties Listener) := do
  let hubProperties ← context.hubProperties
  guard (context.hubName.getD [] ≠ [] ∧ context.resourceGroupName.getD [] ≠ [] ∧
    context.serviceName.getD [] ≠ [])
  pure { hubProperties with
    eventHandlers := some (hubProperties.eventHandlers.getD [])
    eventListeners := some (hubProperties.eventListeners.getD []) }

/-- The context of a wizard on a hub. -/
def Hub.context (hub : Hub) (hubProperties : HubProperties Listener) : Context Listener :=
  ⟨some hub.hubName, some hub.resourceGroup, some hub.serviceName, some hubProperties⟩

end Steps

/-! ## Commands -/

/-- The commands that edit the properties of the tree. -/
inductive CachedOperation where
  | createEventHandler (answers : HandlerAnswers)
  | updateEventHandler (updateIndex : Option Nat) (answers : HandlerAnswers)
  | deleteEventHandler (item : EventHandlerItem)
  | switchAnonymousPolicy

/-- What the user answers to the step of a local tunnel: the question whether a handler is
to be added, which may be dismissed, and the events of the handler. -/
structure TunnelAnswers extends EventAnswers where
  selection : Option Bool

/-- The commands that change the settings of a hub. -/
inductive Operation where
  | cached (operation : CachedOperation)
  | attachLocalTunnel (answers : TunnelAnswers)

/-- The policy that `switchAnonymousPolicy` sets. -/
def targetPolicy (anonymousConnectPolicy : Option Text) : Text :=
  if anonymousConnectPolicy = some KnownAnonymousConnectPolicy.allow.text then
    KnownAnonymousConnectPolicy.deny.text
  else KnownAnonymousConnectPolicy.allow.text

/-- The URL of `LOCAL_TUNNEL_TYPICAL_EVENT_HANDLER`. -/
def tunnelUrlTemplate : Text := "tunnel:///eventhandler".toList

/-- The handler that the step of a local tunnel adds, unless the user declines or cancels. -/
def tunnelEventHandler (answers : TunnelAnswers) : Option EventHandler := do
  guard (answers.selection ≠ some false)
  let userEventPattern ← inputUserEvents answers.toEventAnswers
  let systemEvents ← selectSystemEvents answers.toEventAnswers
  pure ⟨tunnelUrlTemplate, some userEventPattern, some systemEvents, none⟩

section Commands

variable {Listener : Type} (hosts : Url.HostParser) (hub : Hub)

/-- A command on the properties of the tree: what they are when its wizard executes, and
the body of its put. -/
def CachedOperation.execute (hubProperties : HubProperties Listener) :
    CachedOperation → HubProperties Listener × Option (HubProperties Listener)
  | .createEventHandler answers =>
    match promptNew hosts answers hubProperties with
    | none => (hubProperties, none)
    | some edited => (edited, createOrUpdateHubSetting (hub.context edited))
  | .updateEventHandler updateIndex answers =>
    match promptUpdate hosts updateIndex answers hubProperties with
    | none => (hubProperties, none)
    | some edited => (edited, createOrUpdateHubSetting (hub.context edited))
  | .deleteEventHandler item =>
    match hubProperties.eventHandlers with
    | none => (hubProperties, none)
    | some eventHandlers =>
      -- the list of the tree is spliced before the wizard is made
      let updatedHubProperties :=
        { hubProperties with eventHandlers := some (eventHandlers.eraseIdx (item.priority - 1)) }
      (updatedHubProperties, createOrUpdateHubSetting (hub.context updatedHubProperties))
  | .switchAnonymousPolicy =>
    (hubProperties, createOrUpdateHubSetting (hub.context { hubProperties with
      anonymousConnectPolicy := some (targetPolicy hubProperties.anonymousConnectPolicy) }))

/-- `AttachLocalTunnelStep.execute` up to its put. The body names the handlers only. -/
def attachLocalTunnel (answers : TunnelAnswers) (hubProperties : HubProperties Listener) :
    Option (HubProperties Listener) := do
  -- without a list the optional chain is undefined, which is not 0
  let eventHandlers ← hubProperties.eventHandlers
  guard ((eventHandlers.filter (fun e => e.urlTemplate = tunnelUrlTemplate)).length = 0)
  let eventHandler ← tunnelEventHandler answers
  pure ⟨some (eventHandlers ++ [eventHandler]), none, none⟩

/-- The properties at the service after a command that starts from them, when the service
accepts what is put. -/
def Operation.perform (operation : Operation) (hubProperties : HubProperties Listener) :
    HubProperties Listener :=
  match operation with
  | .cached operation => (operation.execute hosts hub hubProperties).2.getD hubProperties
  | .attachLocalTunnel answers =>
    (HubSetting.attachLocalTunnel answers hubProperties).getD hubProperties

end Commands

end WebPubSub.HubSetting
