import Mathlib.Logic.Function.Basic
import WebPubSub.Library.JsRecord
import WebPubSub.Library.Machine
import WebPubSub.Packets

/-!
# The live trace view

The service tells the browser of every log event by its id and its arguments; the texts belong
to the template of the id, which the browser asks for when it meets an id without one. Log
events and templates come in any order, since a template is on its way while further events of
its id arrive.

The updates of the list are queued and applied in order, so that each message is one step here.
The status of the connection is left out, as is the level of a template, which nothing reads.
-/

namespace WebPubSub.LiveTrace

/-- `LiveTraceLogProperty`: the template of an event id. -/
structure LiveTraceLogProperty where
  eventId : Int
  eventName : Text
  template : Text
deriving DecidableEq

/-- `LiveTraceLogData`. -/
structure LiveTraceLogData where
  time : Text
  eventId : Int
  logContext : JsRecord Text
  values : List Text
  exceptionMessage : Option Text
deriving DecidableEq

/-- `LogDataViewModel`. -/
structure LogDataViewModel where
  columns : JsRecord Text
  data : LiveTraceLogData
  eventId : Int
deriving DecidableEq

/-! ## Templates -/

/-- `\w` of a regular expression. -/
def isWord (char : Char) : Bool := char.isAlphanum || char = '_'

/-- The replacement of every placeholder, a name in braces, by the next value, and the values
that are left. A placeholder for which no value is left stays. The name that was opened last is
read along; what turns out not to close it is copied. -/
def replacePlaceholders (values : List Text) (opened : Option Text) : Text → Text × List Text
  | [] =>
    match opened with
    | none => ([], values)
    | some name => ('{' :: name, values)
  | char :: rest =>
    match opened with
    | none =>
      if char = '{' then replacePlaceholders values (some []) rest
      else
        let (text, left) := replacePlaceholders values none rest
        (char :: text, left)
    | some name =>
      if isWord char then replacePlaceholders values (some (name ++ [char])) rest
      else if char = '{' then
        let (text, left) := replacePlaceholders values (some []) rest
        ('{' :: name ++ text, left)
      else if char = '}' ∧ name ≠ [] then
        match values with
        | value :: values =>
          let (text, left) := replacePlaceholders values none rest
          (value ++ text, left)
        | [] =>
          let (text, left) := replacePlaceholders [] none rest
          ('{' :: name ++ '}' :: text, left)
      else
        let (text, left) := replacePlaceholders values none rest
        ('{' :: name ++ char :: text, left)

/-- `template.replace(/{(\w+)}/g, () => values.shift() ?? match)`: the message and the values
that are left. -/
def render (template : Text) (values : List Text) : Text × List Text :=
  replacePlaceholders values none template

example : render "{a}-{b} {{c}} {}{d}".toList ["1".toList, "2".toList, "3".toList] =
    ("1-2 {3} {}{d}".toList, []) := by decide

/-! ## Items -/

/-- `updateViewModel`: the values are taken off the item. -/
def updateViewModel (model : LogDataViewModel) (template : LiveTraceLogProperty) :
    LogDataViewModel :=
  let (message, left) := render template.template model.data.values
  { model with
    columns := (model.columns.set "eventName".toList template.eventName).set "message".toList message
    data := { model.data with values := left } }

/-- `getViewModel`. -/
def getViewModel (data : LiveTraceLogData) (template : Option LiveTraceLogProperty) :
    LogDataViewModel :=
  let columns := (data.logContext.set "time".toList data.time).set "eventId".toList
    (toString data.eventId).toList
  let model : LogDataViewModel :=
    { columns :=
        match data.exceptionMessage with
        | none | some [] => columns
        | some exceptionMessage => columns.set "exception".toList exceptionMessage
      data := data
      eventId := data.eventId }
  match template with
  | none => model
  | some template => updateViewModel model template

/-- The first item that passes a test is updated, as `find` gives it. -/
def updateFirst {Item : Type} (test : Item → Bool) (update : Item → Item) :
    List Item → List Item
  | [] => []
  | item :: items =>
    if test item then update item :: items else item :: updateFirst test update items

/-! ## Columns -/

/-- The names that an object has from its prototype. -/
def inherited : List Text :=
  ["__proto__", "__defineGetter__", "__defineSetter__", "__lookupGetter__", "__lookupSetter__",
    "constructor", "hasOwnProperty", "isPrototypeOf", "propertyIsEnumerable", "toLocaleString",
    "toString", "valueOf"].map String.toList

/-- The columns that are always there. -/
def initialHeaders : JsRecord Text where
  entries := [("time".toList, "Time".toList), ("eventId".toList, "EventId".toList),
    ("eventName".toList, "EventName".toList), ("message".toList, "Event".toList)]
  distinct := by decide

/-- `updateColumnHeaders`: a name without a column gets one. -/
def updateColumnHeaders (headers : JsRecord Text) (data : LiveTraceLogData) : JsRecord Text :=
  data.logContext.names.foldl (fun headers key =>
    match headers.get key with
    | none => if key ∈ inherited then headers else headers.set key key
    | some [] => headers.set key key
    | some (_ :: _) => headers) headers

/-! ## Messages -/

/-- The templates, the items with the newest first, and the columns. -/
structure State where
  logProps : Int → Option LiveTraceLogProperty
  logItems : List LogDataViewModel
  headers : JsRecord Text

def State.initial : State := ⟨fun _ => none, [], initialHeaders⟩

/-- What the service tells. -/
inductive Event where
  | logEvent (logEvent : LiveTraceLogData)
  | logProperty (props : LiveTraceLogProperty)

/-- The handler of `logEvent`, and the event ids whose template it asks for. -/
def State.onLogEvent (state : State) (logEvent : LiveTraceLogData) : State × List Int :=
  let template := state.logProps logEvent.eventId
  ({ state with
      headers := updateColumnHeaders state.headers logEvent
      logItems := getViewModel logEvent template :: state.logItems },
    if template = none then [logEvent.eventId] else [])

/-- The handler of `LogProperty`: only the first template of an event id counts. -/
def State.onLogProperty (state : State) (props : LiveTraceLogProperty) : State :=
  match state.logProps props.eventId with
  | some _ => state
  | none => { state with
      logProps := Function.update state.logProps props.eventId (some props)
      logItems := updateFirst (fun item => item.eventId = props.eventId)
        (fun item => updateViewModel item props) state.logItems }

/-- The view; its outputs are the event ids whose template it asks for. -/
def trace : Machine State Event Int where
  step state
    | .logEvent logEvent => some (state.onLogEvent logEvent)
    | .logProperty props => some (state.onLogProperty props, [])

end WebPubSub.LiveTrace
