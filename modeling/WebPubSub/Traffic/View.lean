import WebPubSub.Library.Machine
import WebPubSub.Packets

/-!
# The traffic view of the tunnel

The server of the tunnel keeps the requests it proxied in a table and tells the browser of
every change; the browser starts with a snapshot of the table. Each step of the server waits
for the database between its two halves, the change or the read of the table and the message
that follows it, and other steps may fall between them. The browser awaits the snapshot, so it
assigns it in a step of its own, and a message that comes in the same payload is handled first.

The columns of the table are JSON texts; a row here is what they are read back to. The flag
`unread` of an item is no part of a row and is left out, and so are the other parts of the
model, which the traffic does not touch.
-/

namespace WebPubSub.Traffic

/-- `HttpRequestDetail`. -/
structure HttpRequestDetail where
  tracingId : Option Nat
  methodName : Text
  url : Text
  requestRaw : Text
  requestAt : Int
  deriving DecidableEq

/-- `HttpResponseDetail`, without the error that nothing writes. -/
structure HttpResponseDetail where
  code : Option Int
  responseRaw : Option Text
  respondAt : Option Int
  deriving DecidableEq

/-- `HttpDataModel`: a row of the table. -/
structure HttpDataModel where
  id : Nat
  request : HttpRequestDetail
  response : Option HttpResponseDetail

/-- `HttpHistoryItem`. -/
structure HttpHistoryItem where
  id : Nat
  tracingId : Option Nat
  requestAtOffset : Int
  responseAtOffset : Option Int
  code : Option Int
  methodName : Text
  url : Text
  requestRaw : Text
  responseRaw : Option Text
  deriving DecidableEq

/-- The table `HttpItems`, newest row first. Its ids are given once. -/
structure DataRepo where
  rows : List HttpDataModel
  nextId : Nat
  ordered : rows.Pairwise (fun newer older => older.id < newer.id)
  bounded : ∀ row ∈ rows, row.id < nextId

namespace DataRepo

/-- `insertDataAsync`: the id of the row is the next one. -/
def insertData (repo : DataRepo) (request : HttpRequestDetail) : DataRepo where
  rows := ⟨repo.nextId, request, none⟩ :: repo.rows
  nextId := repo.nextId + 1
  ordered := List.pairwise_cons.mpr ⟨repo.bounded, repo.ordered⟩
  bounded := by
    intro row member
    rcases List.mem_cons.mp member with rfl | older
    · exact Nat.lt_succ_self _
    · exact Nat.lt_succ_of_lt (repo.bounded row older)

/-- The row with its response, if it is the one that is updated. -/
def updated (id : Nat) (response : HttpResponseDetail) (row : HttpDataModel) : HttpDataModel :=
  if row.id = id then { row with response := some response } else row

theorem updated_id (id : Nat) (response : HttpResponseDetail) (row : HttpDataModel) :
    (updated id response row).id = row.id := by
  unfold updated
  split
  · rfl
  · rfl

/-- `updateDataAsync`. -/
def updateData (repo : DataRepo) (id : Nat) (response : HttpResponseDetail) : DataRepo where
  rows := repo.rows.map (updated id response)
  nextId := repo.nextId
  ordered := by
    simp only [List.pairwise_map, updated_id]
    exact repo.ordered
  bounded := by
    simp only [List.forall_mem_map, updated_id]
    exact repo.bounded

/-- `clearDataAsync`. -/
def clearData (repo : DataRepo) : DataRepo where
  rows := []
  nextId := repo.nextId
  ordered := List.Pairwise.nil
  bounded := by
    intro row member
    cases member

end DataRepo

/-- The item of a row in `getHttpHistory`. -/
def HttpDataModel.item (row : HttpDataModel) : HttpHistoryItem where
  id := row.id
  tracingId := row.request.tracingId
  requestAtOffset := row.request.requestAt
  responseAtOffset := row.response.bind HttpResponseDetail.respondAt
  code := row.response.bind HttpResponseDetail.code
  methodName := row.request.methodName
  url := row.request.url
  requestRaw := row.request.requestRaw
  responseRaw := row.response.bind HttpResponseDetail.responseRaw

/-- The number of rows in a snapshot. -/
def historyLimit : Nat := 50

/-- `getHttpHistory`. -/
def getHttpHistory (repo : DataRepo) : List HttpHistoryItem :=
  (repo.rows.take historyLimit).map HttpDataModel.item

/-- The item of a request, once its row has an id. -/
def newItem (id : Nat) (request : HttpRequestDetail) : HttpHistoryItem :=
  HttpDataModel.item ⟨id, request, none⟩

/-- The item after `item.code = …` and the rest of the response. -/
def HttpHistoryItem.respond (item : HttpHistoryItem) (response : HttpResponseDetail) :
    HttpHistoryItem :=
  { item with
    code := response.code
    responseRaw := response.responseRaw
    responseAtOffset := response.respondAt }

/-- What the hub emits after a change of the table. -/
inductive Emitted where
  | addTraffic (item : HttpHistoryItem)
  | updateTraffic (item : HttpHistoryItem)
  | clearTraffic
  deriving DecidableEq

/-- The handlers of the browser for the changes. -/
def handle (trafficHistory : List HttpHistoryItem) : Emitted → List HttpHistoryItem
  | .addTraffic item => item :: trafficHistory
  | .updateTraffic item => trafficHistory.map (fun i => if i.id = item.id then item else i)
  | .clearTraffic => []

/-- What is on its way to the browser. -/
inductive Message where
  | emitted (emitted : Emitted)
  /-- The answer to `getCurrentModel`. -/
  | currentModel (trafficHistory : List HttpHistoryItem)

/-- The model of the browser. -/
structure Client where
  ready : Bool
  trafficHistory : List HttpHistoryItem

/-- How far the answer to `getCurrentModel` is. -/
inductive Snapshot where
  | waiting
  | taken (trafficHistory : List HttpHistoryItem)
  | replied
  deriving DecidableEq

/-- A change of the table whose message is not yet emitted. -/
structure Change where
  emitted : Emitted
  /-- The table was read for the snapshot before the change; no field of the source. -/
  fresh : Bool

/-- The server with its table, the channel and the browser. -/
structure State where
  repo : DataRepo
  /-- The changes of the table that wait for their message, in the order they were made. -/
  unsent : List Change
  /-- The items of the requests that are handled: `AddTraffic` has returned. -/
  handled : List HttpHistoryItem
  snapshot : Snapshot
  channel : List Message
  client : Client
  /-- The answer that `_start` awaited and has yet to assign. -/
  serverModel : Option (List HttpHistoryItem)
  /-- The rows older than the snapshot which it has no room for; no field of the source. -/
  hidden : List Nat
  /-- The changes after the snapshot that are emitted before it is sent; no field of the
  source. -/
  early : List Emitted
  /-- The changes handled since the answer arrived, if it has; no field of the source. -/
  overwritten : List Emitted

/-- A table, and a browser that has just connected. -/
def State.initial (repo : DataRepo) : State where
  repo := repo
  unsent := []
  handled := []
  snapshot := .waiting
  channel := []
  client := ⟨false, []⟩
  serverModel := none
  hidden := []
  early := []
  overwritten := []

/-- The halves of the steps of the server, and the channel. -/
inductive Event where
  | addTraffic (request : HttpRequestDetail)
  | updateTraffic (id : Nat) (response : HttpResponseDetail)
  | clearTrafficHistory
  /-- The message of a change. -/
  | emit (index : Nat)
  /-- The read of `getCurrentModel`, and its answer. -/
  | getCurrentModel
  | reply
  /-- The browser takes the next message. -/
  | receive
  /-- `_start` goes on with the answer. -/
  | assign

/-- A change of the table waits for its message. -/
def State.change (state : State) (repo : DataRepo) (emitted : Emitted) : State :=
  { state with
    repo := repo
    unsent := state.unsent ++ [⟨emitted, state.snapshot ≠ .waiting⟩] }

/-- `io.emit` for a change; `AddTraffic` returns its item. -/
def State.emit (state : State) (index : Nat) (change : Change) : State :=
  { state with
    unsent := state.unsent.eraseIdx index
    channel := state.channel ++ [.emitted change.emitted]
    handled := match change.emitted with
      | .addTraffic item => item :: state.handled
      | _ => state.handled
    early := match state.snapshot with
      | .taken _ => if change.fresh then state.early ++ [change.emitted] else state.early
      | _ => state.early }

/-- The browser takes a message. An answer settles the promise that `_start` awaits. -/
def State.receive (state : State) (rest : List Message) : Message → State
  | .emitted emitted => { state with
      channel := rest
      client := ⟨state.client.ready, handle state.client.trafficHistory emitted⟩
      overwritten := state.overwritten ++ [emitted] }
  | .currentModel trafficHistory => { state with
      channel := rest
      serverModel := some trafficHistory
      overwritten := [] }

/-- The assignment of the answer. -/
def State.assign (state : State) (trafficHistory : List HttpHistoryItem) : State :=
  { state with
    client := ⟨true, trafficHistory⟩
    serverModel := none }

/-- The server and one browser. A request is updated once its `AddTraffic` has returned, and
the browser asks for one snapshot. -/
def traffic : Machine State Event Unit where
  step state
    | .addTraffic request =>
      some (state.change (state.repo.insertData request)
        (.addTraffic (newItem state.repo.nextId request)), [])
    | .updateTraffic id response =>
      (state.handled.find? (fun item => item.id = id)).map (fun item =>
        (state.change (state.repo.updateData id response)
          (.updateTraffic (item.respond response)), []))
    | .clearTrafficHistory => some (state.change state.repo.clearData .clearTraffic, [])
    | .emit index => (state.unsent[index]?).map (fun change => (state.emit index change, []))
    | .getCurrentModel =>
      match state.snapshot with
      | .waiting => some ({ state with
          snapshot := .taken (getHttpHistory state.repo)
          hidden := (state.repo.rows.drop historyLimit).map HttpDataModel.id }, [])
      | _ => none
    | .reply =>
      match state.snapshot with
      | .taken trafficHistory => some ({ state with
          snapshot := .replied
          channel := state.channel ++ [.currentModel trafficHistory] }, [])
      | _ => none
    | .receive =>
      match state.channel with
      | [] => none
      | message :: rest => some (state.receive rest message, [])
    | .assign => state.serverModel.map (fun trafficHistory => (state.assign trafficHistory, []))

end WebPubSub.Traffic
