import Mathlib.Data.List.Infix
import WebPubSub.Library.JsRecord
import WebPubSub.Library.JsonIndent
import WebPubSub.Library.Replay
import WebPubSub.Library.UrlText
import WebPubSub.Packets

/-!
# Binding options

`parseUrl` of `util.ts`, and `getCommand` and `createBindAction` of `commander.ts`. Each
invocation of the tool is a process of its own: it reads the settings file, if there is one,
and only an accepted `bind` writes it.

Only settings files that the tool itself wrote are read here; what is printed besides errors
is left out.
-/

namespace WebPubSub.Cli

open Url (HostParser Server SettledHosts)

/-! ## URLs -/

/-- The regular expression of `parseUrl`. -/
def isWebUrl (url : Text) : Bool :=
  ["http://".toList, "https://".toList].any (fun start =>
    Url.lower (url.take start.length) = start && url.drop start.length ≠ [] &&
      (url.drop start.length).all (fun char => char ≠ ' ' && char ≠ '"'))

/-- `parseUrl` without an optional scheme. -/
def parseWebUrl (hosts : HostParser) (url : Text) : Option Server :=
  if isWebUrl url then Server.read hosts url else none

/-- `parseUrl` with an optional scheme. -/
def parseUrl (hosts : HostParser) (url optionalScheme : Text) : Option Server :=
  if isWebUrl url then Server.read hosts url
  else if "://".toList <:+: url then none
  else parseWebUrl hosts (optionalScheme ++ "://".toList ++ url)

/-! ## Settings -/

/-- The properties of the settings. -/
inductive Field where
  | endpoint
  | hub
  | upstream
  | subscriptionId
  | resourceGroup
  | webviewPort
  | webviewHost
deriving DecidableEq

def Field.key : Field → Text
  | .endpoint => "Endpoint".toList
  | .hub => "Hub".toList
  | .upstream => "Upstream".toList
  | .subscriptionId => "SubscriptionId".toList
  | .resourceGroup => "ResourceGroup".toList
  | .webviewPort => "WebviewPort".toList
  | .webviewHost => "WebviewHost".toList

/-- The object `WebPubSub` of the settings; a property may be there and `undefined`. -/
abbrev Settings := JsRecord (Option Text)

namespace Settings

def value (settings : Settings) (field : Field) : Option Text := (settings.get field.key).join

/-- The settings as data. -/
def json (settings : Settings) : Json :=
  .object [("WebPubSub".toList,
    Json.record (settings.entries.map (fun entry => (entry.1, entry.2.map .string))))]

/-- The text that is written to the settings file. -/
def file (settings : Settings) : Text := settings.json.indented "  ".toList []

/-- A property that is read from a file. -/
def readMember (settings : Settings) (member : Text × Json) : Option Settings :=
  match member.2 with
  | .string text => some (settings.set member.1 (some text))
  | _ => none

/-- The settings at the start of a process. -/
def load : Option Text → Option Settings
  | none => some JsRecord.empty
  | some text =>
    match Json.parse text with
    | some (.object [(name, .object members)]) =>
      if name = "WebPubSub".toList then members.foldlM readMember JsRecord.empty else none
    | _ => none

end Settings

/-! ## Options -/

/-- An option whose value may be left out. -/
inductive Argument where
  | absent
  | flag
  | value (text : Text)
deriving DecidableEq

/-- Whether JavaScript takes the option for true. -/
def Argument.given : Argument → Bool
  | .absent => false
  | .flag => true
  | .value text => text ≠ []

/-- `BindCommandLineArgs`. -/
structure BindArguments where
  endpoint : Argument
  hub : Argument
  upstream : Argument
  subscription : Argument
  resourceGroup : Argument
  webviewPort : Argument
  webviewHost : Argument

/-- A URL as it is bound. -/
def bindUrl (hosts : HostParser) (optionalScheme name text : Text) : Except Text Text :=
  match parseUrl hosts text optionalScheme with
  | some parsed => .ok parsed.text
  | none => .error ("Error: binding to invalid ".toList ++ name ++ ": ".toList ++ text)

/-- One option: without a value it clears its property. -/
def store (settings : Settings) (field : Field) (argument : Argument)
    (normalize : Text → Except Text Text) : Except Text Settings :=
  if argument.given then
    match argument with
    | .value text => (normalize text).map (fun text => settings.set field.key (some text))
    | _ => .ok (settings.set field.key none)
  else .ok settings

/-- `createBindAction`, up to the write. -/
def createBindAction (hosts : HostParser) (settings : Settings) (updated : BindArguments) :
    Except Text Settings :=
  if !updated.endpoint.given && !updated.hub.given && !updated.upstream.given &&
      !updated.subscription.given && !updated.resourceGroup.given && !updated.webviewHost.given &&
      !updated.webviewPort.given then
    .error "Error: Please specify at least one option to bind.".toList
  else do
    let settings ← store settings .endpoint updated.endpoint
      (bindUrl hosts "https".toList "endpoint".toList)
    let settings ← store settings .upstream updated.upstream
      (bindUrl hosts "http".toList "upstream".toList)
    let settings ← store settings .webviewHost updated.webviewHost .ok
    let settings ← store settings .webviewPort updated.webviewPort .ok
    let settings ← store settings .hub updated.hub .ok
    let settings ← store settings .subscriptionId updated.subscription .ok
    store settings .resourceGroup updated.resourceGroup .ok

/-- `RunCommandLineArgs`, whose options have values, without what only turns logging on. -/
structure RunArguments where
  endpoint : Option Text
  hub : Option Text
  upstream : Option Text
  subscription : Option Text
  resourceGroup : Option Text
  webviewPort : Option Text
  webviewHost : Option Text
  noWebview : Bool
  connection : Option Text

/-- One process. -/
inductive Invocation where
  | status
  | bind (updated : BindArguments)
  | run (command : RunArguments)

/-- The settings file after a process. -/
def invoke (hosts : HostParser) (file : Option Text) : Invocation → Option Text
  | .bind updated =>
    match Settings.load file with
    | none => file
    | some settings =>
      match createBindAction hosts settings updated with
      | .ok settings => some settings.file
      | .error _ => file
  | .status | .run _ => file

/-! ## The settings file -/

namespace Settings

/-- The members that are written: those that are not `undefined`. -/
def members (entries : List (Text × Option Text)) : List (Text × Json) :=
  (entries.map (fun entry => (entry.1, entry.2.map Json.string))).filterMap
    (fun slot => slot.2.map (fun value => (slot.1, value)))

/-- Reading the members sets every property that was written, and no other. -/
theorem foldlM_members {entries : List (Text × Option Text)}
    (distinct : (entries.map Prod.fst).Nodup) (start : Settings) :
    ∃ loaded, (members entries).foldlM readMember start = some loaded ∧
      ∀ name, loaded.get name =
        (((entries.find? (fun entry => entry.1 = name)).bind Prod.snd).map some).or
          (start.get name) := by
  induction entries generalizing start with
  | nil => exact ⟨start, rfl, fun name => rfl⟩
  | cons entry entries inductionHypothesis =>
    obtain ⟨key, value⟩ := entry
    obtain ⟨fresh, others⟩ : key ∉ entries.map Prod.fst ∧ (entries.map Prod.fst).Nodup := by
      simpa using distinct
    have absent : entries.find? (fun entry => entry.1 = key) = none := by
      apply List.find?_eq_none.mpr
      intro entry listed same
      exact fresh (List.mem_map.mpr ⟨entry, listed, of_decide_eq_true same⟩)
    cases value with
    | none =>
      obtain ⟨loaded, read, values⟩ := inductionHypothesis others start
      refine ⟨loaded, read, ?_⟩
      intro name
      by_cases named : key = name
      · subst named
        simp [values, absent]
      · simp [values, named]
    | some text =>
      obtain ⟨loaded, read, values⟩ := inductionHypothesis others (start.set key (some text))
      refine ⟨loaded, read, ?_⟩
      intro name
      by_cases named : key = name
      · subst named
        simp [values, absent]
      · simp [values, named, Ne.symm named]

/-- The settings that are read from a file have the values that were written. -/
theorem load_file (settings : Settings) :
    ∃ loaded, load (some settings.file) = some loaded ∧
      ∀ field, loaded.value field = settings.value field := by
  obtain ⟨loaded, read, values⟩ := foldlM_members settings.distinct JsRecord.empty
  have blank : Json.Blank "  ".toList := by
    intro char listed
    simp only [String.reduceToList, List.mem_cons, List.not_mem_nil, or_false, or_self] at listed
    rw [listed]
    rfl
  have inner : (Json.record (settings.entries.map
      (fun entry => (entry.1, entry.2.map Json.string)))).numeric = true := by
    apply Json.numeric_record
    intro slot listed value named
    obtain ⟨entry, -, rfl⟩ := List.mem_map.mp listed
    obtain ⟨text, -, rfl⟩ := Option.map_eq_some_iff.mp named
    rfl
  have numeric : settings.json.numeric = true := by
    simp [json, Json.numeric, Json.numericMembers, Json.numericMember, inner]
  have whole : settings.json =
      .object [("WebPubSub".toList, .object (members settings.entries))] := rfl
  refine ⟨loaded, ?_, ?_⟩
  · have parsed : Json.parse settings.file = some settings.json :=
      Json.parse_indented blank numeric
    simp only [load, parsed, whole, if_true, read]
  · intro field
    rw [value, values field.key, JsRecord.get_empty, Option.or_none, value, JsRecord.get]
    cases settings.entries.find? (fun entry => entry.1 = field.key) with
    | none => rfl
    | some entry =>
      obtain ⟨name, value⟩ := entry
      cases value <;> rfl

theorem value_set (settings : Settings) (field : Field) (value : Option Text) (other : Field) :
    Settings.value (settings.set field.key value) other =
      if other = field then value else settings.value other := by
  have same : other.key = field.key ↔ other = field := by
    cases other <;> cases field <;> decide
  simp only [Settings.value, JsRecord.get_set, same]
  split <;> rfl

end Settings

/-! ## What a binding tells -/

/-- The option of a property. -/
def BindArguments.argument (updated : BindArguments) : Field → Argument
  | .endpoint => updated.endpoint
  | .hub => updated.hub
  | .upstream => updated.upstream
  | .subscriptionId => updated.subscription
  | .resourceGroup => updated.resourceGroup
  | .webviewPort => updated.webviewPort
  | .webviewHost => updated.webviewHost

/-- A value as it is bound: endpoints and upstreams are URLs, whose schemes may be left out. -/
def normalize (hosts : HostParser) : Field → Text → Except Text Text
  | .endpoint => bindUrl hosts "https".toList "endpoint".toList
  | .upstream => bindUrl hosts "http".toList "upstream".toList
  | .hub | .subscriptionId | .resourceGroup | .webviewPort | .webviewHost => .ok

/-- The properties, in the order in which they are stored. -/
def order : List Field :=
  [.endpoint, .upstream, .webviewHost, .webviewPort, .hub, .subscriptionId, .resourceGroup]

namespace BindArguments

variable (hosts : HostParser) (updated : BindArguments)

/-- The value of an option may be bound. -/
def allows (field : Field) : Bool :=
  match updated.argument field with
  | .value text => text = [] || (normalize hosts field text).toOption.isSome
  | .absent | .flag => true

/-- An option is given, and every value may be bound. -/
def accepted : Bool :=
  order.any (fun field => (updated.argument field).given) && order.all (updated.allows hosts)

/-- What an accepted binding tells about a property, if it names it: a value, or that there is
none. -/
def tells (field : Field) : Option (Option Text) :=
  match updated.argument field with
  | .value (char :: text) => some (normalize hosts field (char :: text)).toOption
  | .flag => some none
  | .absent | .value [] => none

end BindArguments

/-- What a process tells about a property. -/
def Invocation.tells (hosts : HostParser) (field : Field) : Invocation → Option (Option Text)
  | .bind updated => if updated.accepted hosts then updated.tells hosts field else none
  | .status | .run _ => none

section Binding

variable {hosts : HostParser} {updated : BindArguments} {settings next : Settings} {field : Field}

/-- An option that is stored sets its property to what it tells, and no other. -/
theorem store_value
    (stored : store settings field (updated.argument field) (normalize hosts field) = .ok next)
    (other : Field) :
    next.value other =
      (if other = field then updated.tells hosts field else none).getD (settings.value other) := by
  unfold store at stored
  unfold BindArguments.tells
  cases given : updated.argument field with
  | absent =>
    obtain rfl : settings = next := by simpa [given, Argument.given] using stored
    split <;> rfl
  | flag =>
    obtain rfl : settings.set field.key none = next := by simpa [given, Argument.given] using stored
    rw [Settings.value_set]
    split <;> rfl
  | value text =>
    cases text with
    | nil =>
      obtain rfl : settings = next := by simpa [given, Argument.given] using stored
      split <;> rfl
    | cons char text =>
      cases bound : normalize hosts field (char :: text) with
      | error message => simp [given, Argument.given, bound, Except.map] at stored
      | ok value =>
        obtain rfl : settings.set field.key (some value) = next := by
          simpa [given, Argument.given, bound, Except.map] using stored
        rw [Settings.value_set]
        split <;> simp [bound, Except.toOption]

/-- An option is stored exactly when its value may be bound. -/
theorem store_ok_iff (hosts : HostParser) (updated : BindArguments) (settings : Settings)
    (field : Field) :
    (∃ next, store settings field (updated.argument field) (normalize hosts field) = .ok next) ↔
      updated.allows hosts field = true := by
  unfold store BindArguments.allows
  cases given : updated.argument field with
  | absent => simp [Argument.given]
  | flag => simp [Argument.given]
  | value text =>
    cases text with
    | nil => simp [Argument.given]
    | cons char text =>
      cases bound : normalize hosts field (char :: text) with
      | error message => simp [Argument.given, bound, Except.map, Except.toOption]
      | ok value => simp [Argument.given, bound, Except.map, Except.toOption]

/-- All options of a list. -/
def storeAll (hosts : HostParser) (updated : BindArguments) (fields : List Field)
    (settings : Settings) : Except Text Settings :=
  fields.foldlM (fun settings field =>
    store settings field (updated.argument field) (normalize hosts field)) settings

theorem storeAll_value {fields : List Field} (distinct : fields.Nodup)
    (stored : storeAll hosts updated fields settings = .ok next) (other : Field) :
    next.value other =
      (if other ∈ fields then updated.tells hosts other else none).getD (settings.value other) := by
  induction fields generalizing settings with
  | nil =>
    obtain rfl : settings = next := by simpa [storeAll, pure, Except.pure] using stored
    simp
  | cons field fields inductionHypothesis =>
    obtain ⟨fresh, others⟩ := List.nodup_cons.mp distinct
    unfold storeAll at stored
    rw [List.foldlM_cons] at stored
    cases first : store settings field (updated.argument field) (normalize hosts field) with
    | error message => simp [first, bind, Except.bind] at stored
    | ok between =>
      rw [first] at stored
      rw [inductionHypothesis others stored, store_value first]
      by_cases same : other = field
      · subst same
        simp [fresh]
      · simp [same]

theorem storeAll_ok_iff (hosts : HostParser) (updated : BindArguments) (fields : List Field)
    (settings : Settings) :
    (∃ next, storeAll hosts updated fields settings = .ok next) ↔
      fields.all (updated.allows hosts) = true := by
  induction fields generalizing settings with
  | nil => simp [storeAll, pure, Except.pure]
  | cons field fields inductionHypothesis =>
    have here := store_ok_iff hosts updated settings field
    unfold storeAll at inductionHypothesis ⊢
    rw [List.foldlM_cons, List.all_cons, Bool.and_eq_true, ← here]
    cases first : store settings field (updated.argument field) (normalize hosts field) with
    | error message => simp [bind, Except.bind]
    | ok between =>
      have later := inductionHypothesis between
      simpa [bind, Except.bind] using later

/-- The action stores all options in their order, if any is given. -/
theorem createBindAction_eq :
    createBindAction hosts settings updated =
      if order.any (fun field => (updated.argument field).given) = true then
        storeAll hosts updated order settings
      else .error "Error: Please specify at least one option to bind.".toList := by
  have none : (!updated.endpoint.given && !updated.hub.given && !updated.upstream.given &&
      !updated.subscription.given && !updated.resourceGroup.given && !updated.webviewHost.given &&
      !updated.webviewPort.given) = !order.any (fun field => (updated.argument field).given) := by
    simp only [order, BindArguments.argument, List.any_cons, List.any_nil, Bool.or_false,
      Bool.not_or]
    ac_rfl
  have all : storeAll hosts updated order settings = (do
      let settings ← store settings .endpoint updated.endpoint
        (bindUrl hosts "https".toList "endpoint".toList)
      let settings ← store settings .upstream updated.upstream
        (bindUrl hosts "http".toList "upstream".toList)
      let settings ← store settings .webviewHost updated.webviewHost .ok
      let settings ← store settings .webviewPort updated.webviewPort .ok
      let settings ← store settings .hub updated.hub .ok
      let settings ← store settings .subscriptionId updated.subscription .ok
      store settings .resourceGroup updated.resourceGroup .ok) := by
    simp [storeAll, order, BindArguments.argument, normalize]
  rw [createBindAction, none, all]
  cases order.any (fun field => (updated.argument field).given) <;> rfl

/-- An action that succeeds sets every property to what it tells. -/
theorem createBindAction_value (stored : createBindAction hosts settings updated = .ok next)
    (field : Field) :
    next.value field =
      ((Invocation.bind updated).tells hosts field).getD (settings.value field) := by
  rw [createBindAction_eq] at stored
  split at stored
  · rename_i given
    have distinct : order.Nodup := by decide
    have listed : field ∈ order := by cases field <;> decide
    have allowed := (storeAll_ok_iff hosts updated order settings).mp ⟨next, stored⟩
    have accepted : updated.accepted hosts = true := by
      rw [BindArguments.accepted, given, allowed, Bool.and_self]
    rw [storeAll_value distinct stored, if_pos listed, Invocation.tells, if_pos accepted]
  · cases stored

/-- An action that fails is one that tells nothing. -/
theorem createBindAction_error {message : Text}
    (failed : createBindAction hosts settings updated = .error message) (field : Field) :
    (Invocation.bind updated).tells hosts field = none := by
  rw [createBindAction_eq] at failed
  have refused : ¬updated.accepted hosts = true := by
    intro accepted
    obtain ⟨given, allowed⟩ := Bool.and_eq_true_iff.mp accepted
    obtain ⟨next, stored⟩ := (storeAll_ok_iff hosts updated order settings).mpr allowed
    rw [if_pos given, stored] at failed
    cases failed
  rw [Invocation.tells, if_neg refused]

end Binding

/-! ## Runs -/

/-- A settings file that a process can read. -/
def Readable (file : Option Text) : Prop := ∃ settings, Settings.load file = some settings

/-- The property that a process would read. -/
def fileValue (field : Field) (file : Option Text) : Option Text :=
  (Settings.load file).bind (fun settings => settings.value field)

section Runs

variable (hosts : HostParser) (file : Option Text) (invocation : Invocation)

/-- An accepted binding writes the file. -/
theorem invoke_ok {updated : BindArguments} {settings next : Settings}
    (read : Settings.load file = some settings)
    (stored : createBindAction hosts settings updated = .ok next) :
    invoke hosts file (.bind updated) = some next.file := by
  simp only [invoke, read, stored]

/-- A refused binding leaves the file. -/
theorem invoke_error {updated : BindArguments} {settings : Settings} {message : Text}
    (read : Settings.load file = some settings)
    (failed : createBindAction hosts settings updated = .error message) :
    invoke hosts file (.bind updated) = file := by
  simp only [invoke, read, failed]

/-- A process leaves a readable file. -/
theorem readable_invoke (readable : Readable file) : Readable (invoke hosts file invocation) := by
  obtain ⟨settings, read⟩ := readable
  cases invocation with
  | status => exact ⟨settings, read⟩
  | run command => exact ⟨settings, read⟩
  | bind updated =>
    cases stored : createBindAction hosts settings updated with
    | error message =>
      rw [invoke_error hosts file read stored]
      exact ⟨settings, read⟩
    | ok next =>
      obtain ⟨loaded, again, -⟩ := next.load_file
      rw [invoke_ok hosts file read stored]
      exact ⟨loaded, again⟩

/-- A process sets every property of the file to what it tells. -/
theorem fileValue_invoke (readable : Readable file) (field : Field) :
    fileValue field (invoke hosts file invocation) =
      (invocation.tells hosts field).getD (fileValue field file) := by
  obtain ⟨settings, read⟩ := readable
  cases invocation with
  | status => rfl
  | run command => rfl
  | bind updated =>
    cases stored : createBindAction hosts settings updated with
    | error message =>
      rw [invoke_error hosts file read stored, createBindAction_error stored, Option.getD_none]
    | ok next =>
      obtain ⟨loaded, again, values⟩ := next.load_file
      rw [invoke_ok hosts file read stored, fileValue, again, Option.bind_some, values,
        createBindAction_value stored, fileValue, read, Option.bind_some]

end Runs

/-- After any invocations, starting without a settings file, the file can be read, and every
property has the value that the last accepted binding gave it that named it. -/
theorem settings_latest (hosts : HostParser) (invocations : List Invocation) :
    ∃ settings, Settings.load (invocations.foldl (invoke hosts) none) = some settings ∧
      ∀ field, settings.value field =
        (Replay.latest (Invocation.tells hosts field) invocations).join := by
  have start : Readable none := ⟨JsRecord.empty, rfl⟩
  obtain ⟨settings, read⟩ : Readable (invocations.foldl (invoke hosts) none) :=
    List.foldlRecOn invocations (invoke hosts) start
      (fun file readable invocation _ => readable_invoke hosts file invocation readable)
  refine ⟨settings, read, ?_⟩
  intro field
  have value := Replay.foldl_latest (invoke hosts) (Invocation.tells hosts field) (fileValue field)
    (fun file invocation => readable_invoke hosts file invocation)
    (fun file invocation readable => fileValue_invoke hosts file invocation readable field)
    invocations start
  have here : fileValue field (invocations.foldl (invoke hosts) none) = settings.value field := by
    simp [fileValue, read]
  rw [← here, value]
  cases Replay.latest (Invocation.tells hosts field) invocations <;> rfl

end WebPubSub.Cli
