import WebPubSub.Library.Machine
import WebPubSub.Packets

/-!
# The status view of the tunnel

Besides the traffic, the server of the tunnel reports the URLs, the two statuses, the service
configuration and whether its own upstream server runs: it sets a field and emits it. The
browser attaches its handlers once it has loaded the description of the API, and what is emitted
before is lost to it; then it asks for a snapshot.

The snapshot is read in two parts, before and after the wait for a client URL, and sent after a
further wait for the history. The browser awaits it and assigns it in a step of its own, so that
a message of the same payload is handled first. A field that is reported between the read and the
assignment is overwritten in the browser by the older value of the snapshot, and stays so until
its next report is handled.

The client URL is shown nowhere and left out, and so are the traffic and the answers to other
requests. What JSON leaves out of the snapshot, a configuration that is not yet loaded, leaves
the field of the browser as it is.
-/

namespace WebPubSub.Traffic

inductive ConnectionStatus where
  | none | connecting | connected | reconnecting | disconnected | disconnecting
deriving DecidableEq, Repr

structure ConnectionStatusPair where
  statusOut : ConnectionStatus
  statusIn : ConnectionStatus
deriving DecidableEq, Repr

/-- `ServiceConfiguration`; what is set of an event handler is not looked at. -/
structure ServiceConfiguration (Setting : Type) where
  eventHandlers : Option (List Setting)
  message : Option Text
  subscriptionId : Option Text
  resourceGroup : Option Text
  resourceName : Text
  loaded : Bool
deriving DecidableEq

namespace Status

variable {Setting : Type}

/-- The configuration that a browser starts with. -/
def unloaded : ServiceConfiguration Setting := ⟨none, none, none, none, [], false⟩

/-- The fields of `DataHub` that a browser is told. -/
structure DataHub (Setting : Type) where
  endpoint : Text
  hub : Text
  livetraceUrl : Text
  upstreamServerUrl : Text
  tunnelConnectionStatus : ConnectionStatus
  tunnelServerStatus : ConnectionStatusPair
  serviceConfiguration : Option (ServiceConfiguration Setting)
  /-- `DataHub.upstreamServer !== undefined`. -/
  upstreamServerStarted : Bool

/-- What is emitted with a new value. -/
inductive Report (Setting : Type) where
  | liveTraceUrl (url : Text)
  | serviceEndpoint (url : Text)
  | localServerUrl (url : Text)
  | statusChange (status : ConnectionStatus)
  | tunnelToLocalServerStatus (status : ConnectionStatusPair)
  | serviceConfiguration (config : ServiceConfiguration Setting)
  | builtinUpstreamServerStarted (started : Bool)

/-- The assignment before a report. -/
def DataHub.set (hub : DataHub Setting) : Report Setting → DataHub Setting
  | .liveTraceUrl url => { hub with livetraceUrl := url }
  | .serviceEndpoint url => { hub with endpoint := url }
  | .localServerUrl url => { hub with upstreamServerUrl := url }
  | .statusChange status => { hub with tunnelConnectionStatus := status }
  | .tunnelToLocalServerStatus status => { hub with tunnelServerStatus := status }
  | .serviceConfiguration config => { hub with serviceConfiguration := some config }
  | .builtinUpstreamServerStarted started => { hub with upstreamServerStarted := started }

/-- `DataModel` of the browser. -/
structure DataModel (Setting : Type) where
  ready : Bool
  endpoint : Text
  hub : Text
  liveTraceUrl : Text
  upstreamServerUrl : Text
  tunnelConnectionStatus : ConnectionStatus
  tunnelServerStatus : ConnectionStatusPair
  serviceConfiguration : ServiceConfiguration Setting
  builtinUpstreamServerStarted : Bool
  logs : List Text

/-- The model of a browser that has heard of nothing. -/
def DataModel.initial : DataModel Setting where
  ready := false
  endpoint := []
  hub := []
  liveTraceUrl := []
  upstreamServerUrl := []
  tunnelConnectionStatus := .none
  tunnelServerStatus := ⟨.none, .none⟩
  serviceConfiguration := unloaded
  builtinUpstreamServerStarted := false
  logs := []

/-- The handlers of the reports. -/
def DataModel.report (model : DataModel Setting) : Report Setting → DataModel Setting
  | .liveTraceUrl url => { model with liveTraceUrl := url }
  | .serviceEndpoint url => { model with endpoint := url }
  | .localServerUrl url => { model with upstreamServerUrl := url }
  | .statusChange status => { model with tunnelConnectionStatus := status }
  | .tunnelToLocalServerStatus status => { model with tunnelServerStatus := status }
  | .serviceConfiguration config => { model with serviceConfiguration := config }
  | .builtinUpstreamServerStarted started => { model with builtinUpstreamServerStarted := started }

/-- What is on its way to the browser. -/
inductive Message (Setting : Type) where
  | report (report : Report Setting)
  | updateLogs (logs : List Text)
  /-- The answer to `getCurrentModel`: the `state` of it, and no logs. -/
  | currentModel (state : DataHub Setting)

def Message.answer : Message Setting → Option (DataHub Setting)
  | .currentModel state => some state
  | _ => none

/-- The handler of a message. The answer only settles the promise that `_start` awaits. -/
def DataModel.receive (model : DataModel Setting) : Message Setting → DataModel Setting
  | .report report => model.report report
  | .updateLogs logs => { model with logs := model.logs ++ logs }
  | .currentModel _ => model

/-- The assignment after the await in `_start`. -/
def DataModel.assign (model : DataModel Setting) (state : DataHub Setting) :
    DataModel Setting where
  ready := true
  endpoint := state.endpoint
  hub := state.hub
  liveTraceUrl := state.livetraceUrl
  upstreamServerUrl := state.upstreamServerUrl
  tunnelConnectionStatus := state.tunnelConnectionStatus
  tunnelServerStatus := state.tunnelServerStatus
  serviceConfiguration := state.serviceConfiguration.getD model.serviceConfiguration
  builtinUpstreamServerStarted := state.upstreamServerStarted
  logs := []

/-- How far the answer to `getCurrentModel` is. -/
inductive Answer (Setting : Type) where
  | waiting
  /-- The endpoint and the hub are read. -/
  | started (endpoint hub : Text)
  | taken (state : DataHub Setting)
  | replied

/-- The server, the channel and one browser. -/
structure State (Setting : Type) where
  hub : DataHub Setting
  answer : Answer Setting
  channel : List (Message Setting)
  /-- The handlers of the browser are attached. -/
  attached : Bool
  model : DataModel Setting
  /-- The answer that `_start` awaited and has yet to assign. -/
  serverModel : Option (DataHub Setting)

def State.initial (hub : DataHub Setting) : State Setting :=
  ⟨hub, .waiting, [], false, .initial, none⟩

inductive Event (Setting : Type) where
  | report (report : Report Setting)
  | updateLogs (logs : List Text)
  | attach
  /-- The request arrives, and the first part of the answer is read. -/
  | getCurrentModel
  /-- The client URL is there, and the second part is read. -/
  | clientUrl
  | reply
  /-- The browser takes the next message. -/
  | receive
  /-- `_start` goes on with the answer. -/
  | assign

/-- The browser takes a message. -/
def State.receive (state : State Setting) (message : Message Setting)
    (rest : List (Message Setting)) : State Setting :=
  { state with
    channel := rest
    model := if state.attached then state.model.receive message else state.model
    serverModel := message.answer.or state.serverModel }

/-- The server and one browser, which asks for one snapshot when its handlers are attached. -/
def status : Machine (State Setting) (Event Setting) Unit where
  step state
    | .report report => some ({ state with
        hub := state.hub.set report
        channel := state.channel ++ [.report report] }, [])
    | .updateLogs logs => some ({ state with
        channel := state.channel ++ [.updateLogs logs] }, [])
    | .attach => some ({ state with attached := true }, [])
    | .getCurrentModel =>
      match state.answer with
      | .waiting =>
        if state.attached then
          some ({ state with answer := .started state.hub.endpoint state.hub.hub }, [])
        else none
      | _ => none
    | .clientUrl =>
      match state.answer with
      | .started endpoint hub =>
        some ({ state with
          answer := .taken { state.hub with endpoint := endpoint, hub := hub } }, [])
      | _ => none
    | .reply =>
      match state.answer with
      | .taken snapshot => some ({ state with
          answer := .replied
          channel := state.channel ++ [.currentModel snapshot] }, [])
      | _ => none
    | .receive =>
      match state.channel with
      | [] => none
      | message :: rest => some (state.receive message rest, [])
    | .assign => state.serverModel.map (fun serverModel =>
        ({ state with model := state.model.assign serverModel, serverModel := none }, []))

/-! ## Fields -/

/-- The fields that a browser shows. -/
inductive Field where
  | endpoint | hub | liveTraceUrl | upstreamServerUrl | tunnelConnectionStatus
  | tunnelServerStatus | serviceConfiguration | builtinUpstreamServerStarted
deriving DecidableEq, Repr

def Report.field : Report Setting → Field
  | .liveTraceUrl _ => .liveTraceUrl
  | .serviceEndpoint _ => .endpoint
  | .localServerUrl _ => .upstreamServerUrl
  | .statusChange _ => .tunnelConnectionStatus
  | .tunnelToLocalServerStatus _ => .tunnelServerStatus
  | .serviceConfiguration _ => .serviceConfiguration
  | .builtinUpstreamServerStarted _ => .builtinUpstreamServerStarted

/-- The browser shows what the server has. -/
def DataModel.Shows (model : DataModel Setting) (hub : DataHub Setting) : Field → Prop
  | .endpoint => model.endpoint = hub.endpoint
  | .hub => model.hub = hub.hub
  | .liveTraceUrl => model.liveTraceUrl = hub.livetraceUrl
  | .upstreamServerUrl => model.upstreamServerUrl = hub.upstreamServerUrl
  | .tunnelConnectionStatus => model.tunnelConnectionStatus = hub.tunnelConnectionStatus
  | .tunnelServerStatus => model.tunnelServerStatus = hub.tunnelServerStatus
  | .serviceConfiguration =>
      model.serviceConfiguration = hub.serviceConfiguration.getD unloaded
  | .builtinUpstreamServerStarted =>
      model.builtinUpstreamServerStarted = hub.upstreamServerStarted

/-- What a snapshot has of a field is what the server has, or it has nothing of it. -/
def DataHub.Current (snapshot hub : DataHub Setting) : Field → Prop
  | .endpoint => snapshot.endpoint = hub.endpoint
  | .hub => snapshot.hub = hub.hub
  | .liveTraceUrl => snapshot.livetraceUrl = hub.livetraceUrl
  | .upstreamServerUrl => snapshot.upstreamServerUrl = hub.upstreamServerUrl
  | .tunnelConnectionStatus => snapshot.tunnelConnectionStatus = hub.tunnelConnectionStatus
  | .tunnelServerStatus => snapshot.tunnelServerStatus = hub.tunnelServerStatus
  | .serviceConfiguration =>
      snapshot.serviceConfiguration = none ∨
        snapshot.serviceConfiguration.getD unloaded = hub.serviceConfiguration.getD unloaded
  | .builtinUpstreamServerStarted => snapshot.upstreamServerStarted = hub.upstreamServerStarted

/-- The fields that are reported in some events. -/
def reported (events : List (Event Setting)) : List Field :=
  events.filterMap (fun event =>
    match event with
    | .report report => some report.field
    | _ => none)

/-- The logs that are emitted in some events. -/
def logged (events : List (Event Setting)) : List Text :=
  events.flatMap (fun event =>
    match event with
    | .updateLogs logs => logs
    | _ => [])

/-- The fields that some messages report. -/
def told (messages : List (Message Setting)) : List Field :=
  messages.filterMap (fun message =>
    match message with
    | .report report => some report.field
    | _ => none)

/-- The logs of some messages. -/
def toldLogs (messages : List (Message Setting)) : List Text :=
  messages.flatMap (fun message =>
    match message with
    | .updateLogs logs => logs
    | _ => [])

/-- The model once all that is on its way is handled, with no answer assigned. -/
def State.settled (state : State Setting) : DataModel Setting :=
  state.channel.foldl DataModel.receive state.model

theorem shows_report_self (model : DataModel Setting) (hub : DataHub Setting)
    (report : Report Setting) : (model.report report).Shows (hub.set report) report.field := by
  cases report <;> rfl

/-- A report changes one field on both sides. -/
theorem shows_report_other (model : DataModel Setting) (hub : DataHub Setting)
    {report : Report Setting} {field : Field} (other : report.field ≠ field) :
    (model.report report).Shows (hub.set report) field ↔ model.Shows hub field := by
  cases report <;> cases field <;> first | exact absurd rfl other | exact Iff.rfl

theorem shows_report (model : DataModel Setting) (hub : DataHub Setting)
    (report : Report Setting) (field : Field) :
    (model.report report).Shows (hub.set report) field ↔
      field = report.field ∨ model.Shows hub field := by
  by_cases same : report.field = field
  · subst same
    simp [shows_report_self]
  · rw [shows_report_other model hub same, or_iff_right (Ne.symm same)]

theorem shows_logs (model : DataModel Setting) (hub : DataHub Setting) (logs : List Text)
    (field : Field) :
    (model.receive (.updateLogs logs)).Shows hub field ↔ model.Shows hub field := by
  cases field <;> exact Iff.rfl

/-- The answer shows what is current of it, where the configuration it lacks is right. -/
theorem shows_assign {model : DataModel Setting} {snapshot hub : DataHub Setting}
    (kept : snapshot.serviceConfiguration = none → model.Shows hub .serviceConfiguration)
    (field : Field) : (model.assign snapshot).Shows hub field ↔ snapshot.Current hub field := by
  cases field with
  | serviceConfiguration =>
    cases given : snapshot.serviceConfiguration with
    | none =>
      have right : model.serviceConfiguration = hub.serviceConfiguration.getD unloaded := kept given
      simp [DataModel.assign, DataModel.Shows, DataHub.Current, given, right]
    | some config => simp [DataModel.assign, DataModel.Shows, DataHub.Current, given]
  | _ => exact Iff.rfl

/-! ## Models that are alike in a field -/

/-- Two models show the same of a field. -/
def DataModel.Alike (model other : DataModel Setting) (field : Field) : Prop :=
  ∀ hub, model.Shows hub field ↔ other.Shows hub field

theorem alike_receive {model other : DataModel Setting} {field : Field}
    (alike : model.Alike other field) (message : Message Setting) :
    (model.receive message).Alike (other.receive message) field := by
  cases message with
  | report report =>
    cases report <;> cases field <;> first | exact alike | exact fun _ => Iff.rfl
  | updateLogs logs =>
    intro hub
    exact ((shows_logs model hub logs field).trans (alike hub)).trans
      (shows_logs other hub logs field).symm
  | currentModel snapshot => exact alike

/-- What a report says of its field does not depend on what was shown before. -/
theorem alike_reported (model other : DataModel Setting) (report : Report Setting) :
    (model.report report).Alike (other.report report) report.field := by
  cases report <;> exact fun _ => Iff.rfl

/-- Messages make models alike in what they tell, and leave alike those that are. -/
theorem alike_foldl (messages : List (Message Setting)) {field : Field}
    {model other : DataModel Setting} (alike : field ∈ told messages ∨ model.Alike other field) :
    (messages.foldl DataModel.receive model).Alike (messages.foldl DataModel.receive other)
      field := by
  induction messages generalizing model other with
  | nil => exact alike.resolve_left List.not_mem_nil
  | cons message messages inductionHypothesis =>
    apply inductionHypothesis
    rcases alike with listed | alike
    · cases message with
      | report report =>
        rcases List.mem_cons.mp listed with rfl | later
        · exact Or.inr (alike_reported model other report)
        · exact Or.inl later
      | updateLogs logs => exact Or.inl listed
      | currentModel snapshot => exact Or.inl listed
    · exact Or.inr (alike_receive alike message)

/-- Messages that tell nothing of a field leave what is shown of it. -/
theorem untold_foldl (messages : List (Message Setting)) {field : Field}
    (model : DataModel Setting) (untold : field ∉ told messages) :
    (messages.foldl DataModel.receive model).Alike model field := by
  induction messages generalizing model with
  | nil => exact fun _ => Iff.rfl
  | cons message messages inductionHypothesis =>
    intro hub
    cases message with
    | report report =>
      obtain ⟨other, later⟩ := not_or.mp (List.mem_cons.not.mp untold)
      rw [List.foldl_cons, inductionHypothesis _ later hub]
      cases report <;> cases field <;> first | exact absurd rfl other | exact Iff.rfl
    | updateLogs logs =>
      rw [List.foldl_cons, inductionHypothesis _ untold hub]
      exact shows_logs model hub logs field
    | currentModel snapshot => exact inductionHypothesis _ untold hub

/-- The logs of some messages are added. -/
theorem logs_foldl (messages : List (Message Setting)) (model : DataModel Setting) :
    (messages.foldl DataModel.receive model).logs = model.logs ++ toldLogs messages ∧
      (messages.foldl DataModel.receive model).ready = model.ready := by
  induction messages generalizing model with
  | nil => simp [toldLogs]
  | cons message messages inductionHypothesis =>
    obtain ⟨logs, ready⟩ := inductionHypothesis (model.receive message)
    rw [List.foldl_cons, logs, ready]
    cases message with
    | report report => cases report <;> exact ⟨rfl, rfl⟩
    | updateLogs added => simp [DataModel.receive, toldLogs]
    | currentModel snapshot => exact ⟨rfl, rfl⟩

/-! ## Until the assignment -/

section Runs

variable {state next : State Setting} {event : Event Setting} {outputs : List Unit}

/-- The answers that are on their way, or have come and are not yet assigned. -/
def State.answers (state : State Setting) : List (DataHub Setting) :=
  state.serverModel.toList ++ state.channel.filterMap Message.answer

/-- What holds of the answer and the messages at any time. Until the answer is sent, what a
browser has of a configuration that is not loaded is what it started with, and a snapshot without
one is brought up to date. -/
structure State.Answering (state : State Setting) : Prop where
  attached : state.answer ≠ .waiting → state.attached = true
  unsent : state.answer ≠ .replied → state.answers = []
  single : state.answers.length ≤ 1
  untouched : state.answer ≠ .replied → state.hub.serviceConfiguration = none →
    state.model.serviceConfiguration = unloaded ∧ ∀ message ∈ state.channel, ∀ model,
      (DataModel.receive model message).serviceConfiguration = model.serviceConfiguration
  /-- The last message about a field tells what the server has. -/
  current : ∀ field ∈ told state.channel, state.settled.Shows state.hub field
  kept : ∀ snapshot, state.answer = .taken snapshot ∨ snapshot ∈ state.answers →
    snapshot.serviceConfiguration = none → state.settled.Shows state.hub .serviceConfiguration

theorem settled_send (hub : DataHub Setting) (answer : Answer Setting) (message : Message Setting) :
    ({ state with
        hub := hub
        answer := answer
        channel := state.channel ++ [message] } : State Setting).settled =
      state.settled.receive message := by
  simp [State.settled]

theorem answers_send (hub : DataHub Setting) (answer : Answer Setting) (message : Message Setting) :
    ({ state with
        hub := hub
        answer := answer
        channel := state.channel ++ [message] } : State Setting).answers =
      state.answers ++ message.answer.toList := by
  cases message <;> simp [State.answers, Message.answer]

theorem initial_answering (hub : DataHub Setting) : (State.initial hub).Answering where
  attached := fun started => absurd rfl started
  unsent := fun _ => rfl
  single := Nat.zero_le 1
  untouched := fun _ _ => ⟨rfl, fun _ listed => by cases listed⟩
  current := fun _ listed => by cases listed
  kept := fun _ coming => by rcases coming with taken | listed <;> contradiction

theorem answering_report (report : Report Setting) (answering : state.Answering) :
    ({ state with
        hub := state.hub.set report
        channel := state.channel ++ [.report report] } : State Setting).Answering where
  attached := answering.attached
  unsent := by
    intro unreplied
    rw [answers_send, answering.unsent unreplied]
    rfl
  single := by
    rw [answers_send]
    simpa [Message.answer] using answering.single
  untouched := by
    intro unreplied absent
    have before : state.hub.serviceConfiguration = none := by
      cases report <;> first | exact absent | cases absent
    obtain ⟨unset, quiet⟩ := answering.untouched unreplied before
    refine ⟨unset, ?_⟩
    intro message listed model
    rcases List.mem_append.mp listed with earlier | last
    · exact quiet message earlier model
    · rw [List.mem_singleton.mp last]
      cases report <;> first | rfl | cases absent
  current := by
    intro field listed
    rw [settled_send]
    apply (shows_report _ _ report _).mpr
    rw [told, List.filterMap_append, List.mem_append] at listed
    rcases listed with earlier | last
    · exact Or.inr (answering.current field earlier)
    · exact Or.inl (List.mem_singleton.mp last)
  kept := by
    intro snapshot coming absent
    rw [answers_send] at coming
    have before := answering.kept snapshot (by simpa [Message.answer] using coming) absent
    rw [settled_send]
    exact (shows_report _ _ report _).mpr (Or.inr before)

theorem answering_logs (logs : List Text) (answering : state.Answering) :
    ({ state with channel := state.channel ++ [.updateLogs logs] } : State Setting).Answering where
  attached := answering.attached
  unsent := by
    intro unreplied
    rw [answers_send, answering.unsent unreplied]
    rfl
  single := by
    rw [answers_send]
    simpa [Message.answer] using answering.single
  untouched := by
    intro unreplied absent
    obtain ⟨unset, quiet⟩ := answering.untouched unreplied absent
    refine ⟨unset, ?_⟩
    intro message listed model
    rcases List.mem_append.mp listed with earlier | last
    · exact quiet message earlier model
    · rw [List.mem_singleton.mp last]
      rfl
  current := by
    intro field listed
    rw [settled_send]
    apply (shows_logs _ _ logs _).mpr
    rw [told, List.filterMap_append, List.mem_append] at listed
    exact answering.current field (listed.resolve_right List.not_mem_nil)
  kept := by
    intro snapshot coming absent
    rw [answers_send] at coming
    rw [settled_send]
    apply (shows_logs _ _ logs _).mpr
    exact answering.kept snapshot (by simpa [Message.answer] using coming) absent

/-- The second read of the answer. -/
theorem answering_clientUrl {endpoint hub : Text} (answer : state.answer = .started endpoint hub)
    (answering : state.Answering) :
    ({ state with
        answer := .taken { state.hub with endpoint := endpoint, hub := hub } } :
      State Setting).Answering where
  attached := fun _ => answering.attached (by simp [answer])
  unsent := fun _ => answering.unsent (by simp [answer])
  single := answering.single
  untouched := fun _ => answering.untouched (by simp [answer])
  current := answering.current
  kept := by
    intro snapshot coming absent
    have unreplied : state.answer ≠ .replied := by simp [answer]
    have unanswered : state.answers = [] := answering.unsent unreplied
    rcases coming with taken | listed
    · cases taken
      have bare : state.hub.serviceConfiguration = none := absent
      obtain ⟨unset, quiet⟩ := answering.untouched unreplied bare
      have settled (channel : List (Message Setting)) (model : DataModel Setting)
          (quiet : ∀ message ∈ channel, ∀ model,
            (DataModel.receive model message).serviceConfiguration = model.serviceConfiguration) :
          (channel.foldl DataModel.receive model).serviceConfiguration =
            model.serviceConfiguration := by
        induction channel generalizing model with
        | nil => rfl
        | cons message channel inductionHypothesis =>
          obtain ⟨here, others⟩ := List.forall_mem_cons.mp quiet
          rw [List.foldl_cons, inductionHypothesis _ others, here]
      have shown : state.settled.serviceConfiguration = unloaded :=
        (settled _ _ quiet).trans unset
      change state.settled.serviceConfiguration = state.hub.serviceConfiguration.getD unloaded
      rw [shown, bare, Option.getD_none]
    · change snapshot ∈ state.answers at listed
      rw [unanswered] at listed
      cases listed

/-- The answer is sent. -/
theorem answering_reply {snapshot : DataHub Setting} (answer : state.answer = .taken snapshot)
    (answering : state.Answering) :
    ({ state with
        answer := .replied
        channel := state.channel ++ [.currentModel snapshot] } : State Setting).Answering := by
  have none : state.answers = [] := answering.unsent (by simp [answer])
  constructor
  · exact fun _ => answering.attached (by simp [answer])
  · exact fun unreplied => absurd rfl unreplied
  · rw [answers_send, none]
    exact Nat.le_refl 1
  · exact fun unreplied => absurd rfl unreplied
  · intro field listed
    rw [settled_send]
    rw [told, List.filterMap_append, List.mem_append] at listed
    exact answering.current field (listed.resolve_right List.not_mem_nil)
  · intro other coming absent
    rw [answers_send, none] at coming
    rcases coming with taken | listed
    · cases taken
    · obtain rfl := List.mem_singleton.mp listed
      rw [settled_send]
      exact answering.kept other (Or.inl answer) absent

theorem answers_receive {message : Message Setting} {rest : List (Message Setting)}
    (channel : state.channel = message :: rest) :
    (state.receive message rest).answers.Sublist state.answers := by
  cases message with
  | currentModel snapshot =>
    have before : state.answers =
        state.serverModel.toList ++ snapshot :: rest.filterMap Message.answer := by
      simp [State.answers, channel, Message.answer]
    rw [before]
    exact List.sublist_append_right _ _
  | report report =>
    rw [State.answers, State.answers, channel]
    exact List.Sublist.refl _
  | updateLogs logs =>
    rw [State.answers, State.answers, channel]
    exact List.Sublist.refl _

theorem settled_receive {message : Message Setting} {rest : List (Message Setting)}
    (channel : state.channel = message :: rest) (attached : state.attached = true) :
    (state.receive message rest).settled = state.settled := by
  simp [State.settled, State.receive, channel, attached]

theorem answering_receive {message : Message Setting} {rest : List (Message Setting)}
    (channel : state.channel = message :: rest) (answering : state.Answering) :
    (state.receive message rest).Answering where
  attached := answering.attached
  unsent := by
    intro unreplied
    have fewer := answers_receive channel
    rw [answering.unsent unreplied] at fewer
    exact List.sublist_nil.mp fewer
  single := (answers_receive channel).length_le.trans answering.single
  untouched := by
    intro unreplied absent
    obtain ⟨unset, quiet⟩ := answering.untouched unreplied absent
    rw [channel] at quiet
    obtain ⟨here, others⟩ := List.forall_mem_cons.mp quiet
    refine ⟨?_, others⟩
    unfold State.receive
    split
    · rw [here, unset]
    · exact unset
  current := by
    intro field listed
    have before : field ∈ told state.channel := by
      rw [channel, told, List.filterMap_cons]
      split
      · exact listed
      · exact List.mem_cons_of_mem _ listed
    have shown := answering.current field before
    rw [State.settled, channel, List.foldl_cons] at shown
    exact (alike_foldl rest (Or.inl listed) _).mp shown
  kept := by
    intro snapshot coming absent
    have before : state.answer = .taken snapshot ∨ snapshot ∈ state.answers :=
      coming.imp_right (fun listed => (answers_receive channel).subset listed)
    have started : state.answer ≠ .waiting := by
      intro waiting
      rcases before with taken | listed
      · rw [waiting] at taken
        cases taken
      · rw [answering.unsent (by simp [waiting])] at listed
        cases listed
    rw [settled_receive channel (answering.attached started)]
    exact answering.kept snapshot before absent

/-- The answer is assigned, and there is no other. -/
theorem answers_assign {snapshot : DataHub Setting} (arrived : state.serverModel = some snapshot)
    (answering : state.Answering) :
    state.channel.filterMap Message.answer = [] ∧ state.answer = .replied := by
  have listed : state.answers = snapshot :: state.channel.filterMap Message.answer := by
    simp [State.answers, arrived]
  constructor
  · have single := answering.single
    rw [listed, List.length_cons] at single
    exact List.eq_nil_of_length_eq_zero (by omega)
  · by_contra unreplied
    have none := answering.unsent unreplied
    rw [listed] at none
    cases none

/-- The fields that are told are told whatever the browser shows before. -/
theorem shows_assigned {snapshot : DataHub Setting} (arrived : state.serverModel = some snapshot)
    (answering : state.Answering) (field : Field) :
    (state.channel.foldl DataModel.receive (state.model.assign snapshot)).Shows state.hub field ↔
      field ∈ told state.channel ∨ snapshot.Current state.hub field := by
  by_cases listed : field ∈ told state.channel
  · have shown := answering.current field listed
    exact iff_of_true ((alike_foldl _ (Or.inl listed) _).mp shown) (Or.inl listed)
  · rw [untold_foldl _ _ listed state.hub, or_iff_right listed]
    by_cases configuration : field = .serviceConfiguration
    · subst configuration
      apply shows_assign
      intro absent
      have coming : snapshot ∈ state.answers := by simp [State.answers, arrived]
      have kept := answering.kept snapshot (Or.inr coming) absent
      exact (untold_foldl _ _ listed state.hub).mp kept
    · cases field <;> first | exact absurd rfl configuration | exact Iff.rfl

theorem answering_assign {snapshot : DataHub Setting} (arrived : state.serverModel = some snapshot)
    (answering : state.Answering) :
    ({ state with model := state.model.assign snapshot, serverModel := none } :
      State Setting).Answering := by
  obtain ⟨none, replied⟩ := answers_assign arrived answering
  have answers : ({ state with model := state.model.assign snapshot, serverModel := Option.none } :
      State Setting).answers = [] := none
  constructor
  · exact answering.attached
  · exact fun _ => answers
  · rw [answers]
    exact Nat.zero_le 1
  · exact fun unreplied => absurd replied unreplied
  · intro field listed
    exact (shows_assigned arrived answering field).mpr (Or.inl listed)
  · intro other coming absent
    rw [answers] at coming
    rcases coming with taken | listed
    · exact absurd (replied.symm.trans taken) (by simp)
    · cases listed

theorem answering_step (answering : state.Answering)
    (stepped : status.step state event = some (next, outputs)) : next.Answering := by
  cases event with
  | report report =>
    cases stepped
    exact answering_report report answering
  | updateLogs logs =>
    cases stepped
    exact answering_logs logs answering
  | attach =>
    cases stepped
    exact ⟨fun _ => rfl, answering.unsent, answering.single, answering.untouched,
      answering.current, answering.kept⟩
  | getCurrentModel =>
    cases answer : state.answer with
    | waiting =>
      simp only [status, answer] at stepped
      split at stepped
      · rename_i attached
        cases stepped
        have unreplied : state.answer ≠ .replied := by simp [answer]
        refine ⟨fun _ => attached, fun _ => answering.unsent unreplied, answering.single,
          fun _ => answering.untouched unreplied, answering.current, ?_⟩
        intro snapshot coming
        exact answering.kept snapshot (coming.imp_left (fun taken => by cases taken))
      · cases stepped
    | _ => simp [status, answer] at stepped
  | clientUrl =>
    cases answer : state.answer with
    | started endpoint hub =>
      simp only [status, answer] at stepped
      cases stepped
      exact answering_clientUrl answer answering
    | _ => simp [status, answer] at stepped
  | reply =>
    cases answer : state.answer with
    | taken snapshot =>
      simp only [status, answer] at stepped
      cases stepped
      exact answering_reply answer answering
    | _ => simp [status, answer] at stepped
  | receive =>
    cases channel : state.channel with
    | nil => simp [status, channel] at stepped
    | cons message rest =>
      simp only [status, channel] at stepped
      cases stepped
      exact answering_receive channel answering
  | assign =>
    obtain ⟨snapshot, arrived, same⟩ := Option.map_eq_some_iff.mp stepped
    cases same
    exact answering_assign arrived answering

/-! ## After the assignment -/

/-- The answer was sent and is assigned. -/
structure State.Assigned (state : State Setting) : Prop where
  replied : state.answer = .replied
  attached : state.attached = true
  answers : state.answers = []

/-- What a step after the assignment does to what is shown in the end. -/
theorem settled_step (assigned : state.Assigned)
    (stepped : status.step state event = some (next, outputs)) :
    next.Assigned ∧
      (∀ field, next.settled.Shows next.hub field ↔
        field ∈ reported [event] ∨ state.settled.Shows state.hub field) ∧
      next.settled.logs = state.settled.logs ++ logged [event] ∧
      next.settled.ready = state.settled.ready := by
  obtain ⟨replied, attached, answers⟩ := assigned
  cases event with
  | report report =>
    cases stepped
    refine ⟨⟨replied, attached, by rw [answers_send, answers]; rfl⟩, ?_, ?_, ?_⟩
    · intro field
      have shown : (state.settled.receive (.report report)).Shows (state.hub.set report) field ↔
          field = report.field ∨ state.settled.Shows state.hub field :=
        shows_report state.settled state.hub report field
      rw [settled_send]
      simpa [reported] using shown
    · rw [settled_send]
      cases report <;> simp [DataModel.receive, DataModel.report, logged]
    · rw [settled_send]
      cases report <;> rfl
  | updateLogs logs =>
    cases stepped
    refine ⟨⟨replied, attached, by rw [answers_send, answers]; rfl⟩, ?_, ?_, ?_⟩
    · intro field
      rw [settled_send]
      simpa [reported] using shows_logs state.settled state.hub logs field
    · rw [settled_send]
      simp [DataModel.receive, logged]
    · rw [settled_send]
      rfl
  | attach =>
    cases stepped
    exact ⟨⟨replied, rfl, answers⟩, by simp [reported, State.settled],
      by simp [logged, State.settled], rfl⟩
  | getCurrentModel => simp [status, replied] at stepped
  | clientUrl => simp [status, replied] at stepped
  | reply => simp [status, replied] at stepped
  | receive =>
    cases channel : state.channel with
    | nil => simp [status, channel] at stepped
    | cons message rest =>
      simp only [status, channel] at stepped
      cases stepped
      have same : (state.receive message rest).settled = state.settled :=
        settled_receive channel attached
      have fewer := answers_receive channel
      rw [answers] at fewer
      refine ⟨⟨replied, attached, List.sublist_nil.mp fewer⟩, ?_, ?_, congrArg _ same⟩
      · intro field
        change (state.receive message rest).settled.Shows state.hub field ↔ _
        rw [same]
        simp [reported]
      · rw [same]
        simp [logged]
  | assign =>
    obtain ⟨snapshot, arrived, -⟩ := Option.map_eq_some_iff.mp stepped
    rw [State.answers, arrived] at answers
    cases answers

/-- What a run leaves on the way: each field is right that was reported in it or was right
before, and the logs are those before with the ones emitted in it. -/
theorem settled_run {after : List (Event Setting)} {final : State Setting}
    (ran : status.run state after = some (final, outputs)) (assigned : state.Assigned) :
    (∀ field, final.settled.Shows final.hub field ↔
        field ∈ reported after ∨ state.settled.Shows state.hub field) ∧
      final.settled.logs = state.settled.logs ++ logged after ∧
      final.settled.ready = state.settled.ready := by
  induction after generalizing state outputs with
  | nil =>
    cases ran
    simp [reported, logged]
  | cons event after inductionHypothesis =>
    obtain ⟨middle, first, rest, stepped, continued, -⟩ :=
      (Machine.run_cons_iff status _ _ _ _ _).mp ran
    obtain ⟨stillAssigned, shown, logs, ready⟩ := settled_step assigned stepped
    obtain ⟨finallyShown, finalLogs, finallyReady⟩ := inductionHypothesis continued stillAssigned
    have listed (field : Field) : field ∈ reported (event :: after) ↔
        field ∈ reported [event] ∨ field ∈ reported after := by
      rw [← List.mem_append, reported, reported, reported, ← List.filterMap_append,
        List.singleton_append]
    have emitted : logged (event :: after) = logged [event] ++ logged after := by
      simp [logged]
    refine ⟨?_, ?_, finallyReady.trans ready⟩
    · intro field
      rw [finallyShown, shown, listed]
      tauto
    · rw [finalLogs, logs, emitted, List.append_assoc]

/-- Once everything has arrived, the browser shows what the server has of a field exactly if
its last report was on its way or yet to come when the answer was assigned, or the answer had the
value that was current then. The logs it shows are those that were on their way then or emitted
later. -/
theorem status_agrees_iff {hub : DataHub Setting} {before after : List (Event Setting)}
    {atAnswer final : State Setting} {first rest : List Unit} {snapshot : DataHub Setting}
    (ranBefore : status.run (State.initial hub) before = some (atAnswer, first))
    (arrived : atAnswer.serverModel = some snapshot)
    (ranAfter : status.run atAnswer (.assign :: after) = some (final, rest))
    (drained : final.channel = []) :
    (∀ field, final.model.Shows final.hub field ↔
        field ∈ told atAnswer.channel ∨ field ∈ reported after ∨
          snapshot.Current atAnswer.hub field) ∧
      final.model.logs = toldLogs atAnswer.channel ++ logged after ∧
      final.model.ready = true := by
  have answering : atAnswer.Answering :=
    Machine.invariant_reachable status State.Answering
      (fun _ _ _ _ answering stepped => answering_step answering stepped)
      (initial_answering hub) ⟨before, first, ranBefore⟩
  obtain ⟨next, added, others, stepped, continued, -⟩ :=
    (Machine.run_cons_iff status _ _ _ _ _).mp ranAfter
  simp only [status, arrived, Option.map_some] at stepped
  cases stepped
  obtain ⟨none, replied⟩ := answers_assign arrived answering
  have attached : atAnswer.attached = true := answering.attached (by simp [replied])
  obtain ⟨shown, logs, ready⟩ := settled_run continued ⟨replied, attached, none⟩
  have settled : final.settled = final.model := by simp [State.settled, drained]
  obtain ⟨addedLogs, stillReady⟩ := logs_foldl atAnswer.channel (atAnswer.model.assign snapshot)
  rw [settled] at shown logs ready
  refine ⟨?_, ?_, ready.trans stillReady⟩
  · intro field
    rw [shown, State.settled, shows_assigned arrived answering]
    tauto
  · rw [logs, State.settled, addedLogs]
    rfl

end Runs

/-- A server that is connecting. -/
def sampleHub : DataHub Unit where
  endpoint := "https://name".toList
  hub := "chat".toList
  livetraceUrl := []
  upstreamServerUrl := "http://localhost:3000".toList
  tunnelConnectionStatus := .connecting
  tunnelServerStatus := ⟨.none, .none⟩
  serviceConfiguration := none
  upstreamServerStarted := false

/-- The tunnel connects after the status was read, and its report is handled before the answer is
assigned: the browser goes on to show a tunnel that is connecting. The configuration is reported
in time. -/
theorem status_agrees_iff_overtaken : ∃ atAnswer final,
    status.run (State.initial sampleHub) [.attach, .getCurrentModel, .clientUrl, .reply,
        .report (.statusChange .connected), .report (.serviceConfiguration unloaded), .receive,
        .receive] = some (atAnswer, []) ∧
    status.run atAnswer [.assign, .receive] = some (final, []) ∧
    (∀ field, final.model.Shows final.hub field ↔
        field ∈ [Field.serviceConfiguration] ∨ field ∈ ([] : List Field) ∨
          sampleHub.Current atAnswer.hub field) ∧
      final.model.logs = [] ∧ final.model.ready = true :=
  ⟨_, _, rfl, rfl, @status_agrees_iff Unit sampleHub
    [.attach, .getCurrentModel, .clientUrl, .reply, .report (.statusChange .connected),
      .report (.serviceConfiguration unloaded), .receive, .receive]
    [.receive] _ _ _ _ sampleHub rfl rfl rfl rfl⟩

end Status

end WebPubSub.Traffic
