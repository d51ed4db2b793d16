import WebPubSub.Adapter.Recipients
import WebPubSub.Library.UrlSegments
import WebPubSub.Tunnel.MessageProtocol

/-!
# The requests of the service caller

`InprocessServerProxy` turns each call of `WebPubSubServiceCaller` into an HTTP request and
hands it to `invokeAsync` of its tunnel, which writes it into a message. The hub, the group and
the connection stand in the path as they are, the filter in the query, and what a call sends in
the body.

The other end is outside the repository. `readCall` says what such a message means to whoever
reads its URL as the URL standard has it, its body as UTF-8, and an object in it as JSON. Every
message is read as the call it was made of, for all texts of filters, messages and groups; a
hub, a group and a connection that are named in the path are names that a path gives back.
-/

namespace WebPubSub.Service

open Adapter (ServiceCall)
open Tunnel (TunnelMessage TunnelHttpRequestMessage Headers)

/-! ## Requests -/

/-- `HttpRequestLike`. -/
structure HttpRequestLike where
  method : Text
  url : Text
  content : Option (List UInt8)
  contentType : Option Text
deriving DecidableEq

/-- A request with the key that `invokeAsync` is given. -/
structure Keyed where
  request : HttpRequestLike
  consistentKey : Option Text
deriving DecidableEq

def apiVersion : Text := "2023-07-01".toList

def httpMethodPost : Text := "POST".toList

def httpMethodDelete : Text := "DELETE".toList

def consistentKeyForSendToAll : Text := "keyForSendToAll".toList

/-- The query of `options?.filter`: an empty filter is left out. -/
def filterQuery (filter : Text) : List (Text × Text) :=
  if filter = [] then [] else [("filter".toList, filter)]

section Caller

variable (hosts : Url.HostParser)

/-- `_getUrl`. -/
def getUrl (path : Text) (query : List (Text × Text)) : Option Text :=
  (Url.parse hosts "https://host".toList).map (fun url =>
    let url := url.setPathname path
    let url := UrlSearchParams.append url "api-version".toList apiVersion
    let url := query.foldl (fun url entry => UrlSearchParams.append url entry.1 entry.2) url
    url.href)

/-- A request that posts a text. -/
def postText (path : Text) (query : List (Text × Text)) (message : Text) : Option HttpRequestLike :=
  (getUrl hosts path query).map (fun url =>
    { method := httpMethodPost
      url
      content := some (Utf8.encode message)
      contentType := some "text/plain".toList })

/-- The body of a request that changes groups. -/
def groupsBody (groups : List Text) (filter : Text) : Json :=
  Json.record [("groups".toList, some (Tunnel.textsValue groups)),
    ("filter".toList, some (.string filter))]

/-- A request that posts an object. -/
def postGroups (path : Text) (groups : List Text) (filter : Text) : Option HttpRequestLike :=
  (getUrl hosts path []).map (fun url =>
    { method := httpMethodPost
      url
      content := some (Utf8.encode (groupsBody groups filter).stringify)
      contentType := some "application/json".toList })

variable (hub : Text)

def sendToConnection (connectionId message : Text) : Option Keyed :=
  (postText hosts ("/api/hubs/".toList ++ hub ++ "/connections/".toList ++ connectionId ++
    "/:send".toList) [] message).map (fun request => ⟨request, none⟩)

def sendToAll (message filter : Text) : Option Keyed :=
  (postText hosts ("/api/hubs/".toList ++ hub ++ "/:send".toList) (filterQuery filter)
    message).map (fun request => ⟨request, some consistentKeyForSendToAll⟩)

def removeConnectionsFromGroups (groups : List Text) (filter : Text) : Option Keyed :=
  (postGroups hosts ("/api/hubs/".toList ++ hub ++ "/:removeFromGroups".toList) groups filter).map
    (fun request => ⟨request, none⟩)

def addConnectionsToGroups (groups : List Text) (filter : Text) : Option Keyed :=
  (postGroups hosts ("/api/hubs/".toList ++ hub ++ "/:addToGroups".toList) groups filter).map
    (fun request => ⟨request, none⟩)

/-- `_removeConnectionFromGroup`, which posts nothing. -/
def removeConnectionFromGroup (connectionId groupName : Text) : Option Keyed :=
  (getUrl hosts ("/api/hubs/".toList ++ hub ++ "/groups/".toList ++ groupName ++
    "/connections/".toList ++ connectionId) []).map (fun url =>
      ⟨⟨httpMethodDelete, url, none, none⟩, some groupName⟩)

/-- `_sendToGroup`. -/
def sendToGroup (groupName message filter : Text) : Option Keyed :=
  (postText hosts ("/api/hubs/".toList ++ hub ++ "/groups/".toList ++ groupName ++
    "/:send".toList) (filterQuery filter) message).map (fun request => ⟨request, some groupName⟩)

def invoke (message filter : Text) : Option Keyed :=
  (postText hosts ("/api/hubs/".toList ++ hub ++ "/:invoke".toList) (filterQuery filter)
    message).map (fun request => ⟨request, some consistentKeyForSendToAll⟩)

end Caller

/-- The calls of `WebPubSubServiceCaller`: those that address a set of connections, and those
that name one. -/
inductive Call where
  | addressed (call : ServiceCall)
  | sendToConnection (connectionId message : Text)
  | removeConnection (groupName connectionId : Text)
deriving DecidableEq

/-- The request of a call. The content type that a caller asks for is not looked at. -/
def Call.request (hosts : Url.HostParser) (hub : Text) : Call → Option Keyed
  | .addressed (.groupSendToAll group message filter _) => sendToGroup hosts hub group message filter
  | .addressed (.sendToAll message filter _) => sendToAll hosts hub message filter
  | .addressed (.invoke message filter _) => invoke hosts hub message filter
  | .addressed (.addConnectionsToGroups groups filter) =>
      addConnectionsToGroups hosts hub groups filter
  | .addressed (.removeConnectionsFromGroups groups filter) =>
      removeConnectionsFromGroups hosts hub groups filter
  | .sendToConnection connectionId message =>
      Service.sendToConnection hosts hub connectionId message
  | .removeConnection groupName connectionId =>
      removeConnectionFromGroup hosts hub connectionId groupName

/-- The headers that `invokeAsync` makes of a content type. -/
def headersOf (contentType : Option Text) : Headers :=
  match contentType with
  | some (char :: rest) => ⟨[("Content-Type".toList, [char :: rest])], by simp⟩
  | _ => ⟨[], by simp⟩

/-- The message that `invokeAsync` sends. -/
def invokeMessage (ackId : Json.Numeral) (request : HttpRequestLike) : TunnelHttpRequestMessage where
  ackId := ackId
  localRouting := true
  channelName := []
  httpMethod := request.method
  url := request.url
  headers := some (headersOf request.contentType)
  content := request.content

/-! ## What a request says -/

/-- The groups and the filter of an object. -/
def readGroups (text : Text) : Option (List Text × Text) := do
  let body ← Json.parse text
  let groups ← (body.property "groups".toList).bind Tunnel.readTexts
  let filter ← (body.property "filter".toList).bind Tunnel.readText
  return (groups, filter)

/-- The call of a method, a divided path, a filter, a content type and a body, with its hub. -/
def route (method : Text) (path : List Text) (filter contentType text : Text) :
    Option (Text × Call) :=
  match String.ofList method, path.map String.ofList with
  | "POST", ["api", "hubs", hub, ":send"] =>
      some (hub.toList, .addressed (.sendToAll text filter contentType))
  | "POST", ["api", "hubs", hub, ":invoke"] =>
      some (hub.toList, .addressed (.invoke text filter contentType))
  | "POST", ["api", "hubs", hub, ":addToGroups"] =>
      (readGroups text).map (fun body =>
        (hub.toList, .addressed (.addConnectionsToGroups body.1 body.2)))
  | "POST", ["api", "hubs", hub, ":removeFromGroups"] =>
      (readGroups text).map (fun body =>
        (hub.toList, .addressed (.removeConnectionsFromGroups body.1 body.2)))
  | "POST", ["api", "hubs", hub, "groups", group, ":send"] =>
      some (hub.toList, .addressed (.groupSendToAll group.toList text filter contentType))
  | "POST", ["api", "hubs", hub, "connections", connectionId, ":send"] =>
      some (hub.toList, .sendToConnection connectionId.toList text)
  | "DELETE", ["api", "hubs", hub, "groups", group, "connections", connectionId] =>
      some (hub.toList, .removeConnection group.toList connectionId.toList)
  | _, _ => none

/-- The first value of a header. -/
def headerValue (headers : Option Headers) (name : Text) : Option Text :=
  headers.bind (fun headers => (headers.entries.lookup name).bind List.head?)

/-- The call that a message means. -/
def readCall (hosts : Url.HostParser) (message : TunnelHttpRequestMessage) :
    Option (Text × Call) := do
  let url ← Url.parse hosts message.url
  let path ← url.segments
  let parameters := UrlSearchParams.parse (url.query.getD [])
  if UrlSearchParams.get parameters "api-version".toList = some apiVersion then
    route message.httpMethod path ((UrlSearchParams.get parameters "filter".toList).getD [])
      ((headerValue message.headers "Content-Type".toList).getD [])
      (Utf8.Decoder.run none (message.content.getD []))
  else none

/-- The names that a call puts into its path. -/
def Call.names : Call → List Text
  | .addressed (.groupSendToAll group _ _ _) => [group]
  | .addressed _ => []
  | .sendToConnection connectionId _ => [connectionId]
  | .removeConnection groupName connectionId => [groupName, connectionId]

/-- A call with the content type that is sent for it. -/
def Call.sent : Call → Call
  | .addressed (.groupSendToAll group message filter _) =>
      .addressed (.groupSendToAll group message filter "text/plain".toList)
  | .addressed (.sendToAll message filter _) =>
      .addressed (.sendToAll message filter "text/plain".toList)
  | .addressed (.invoke message filter _) => .addressed (.invoke message filter "text/plain".toList)
  | call => call

/-! ## Reading a request -/

section Reading

variable {hosts : Url.HostParser}

/-- The host of every request, which is not that of the service. -/
def Placeholder (hosts : Url.HostParser) : Prop := hosts true "host".toList = some "host".toList

/-- The URL of a path of names and of a query. -/
def requestUrl (path : List Text) (query : List (Text × Text)) : Url :=
  ⟨"https".toList, some "host".toList, none, .inl (path.map Url.encodeSegment),
    some (UrlSearchParams.serialize (("api-version".toList, apiVersion) :: query))⟩

theorem placeholderName : Url.HostName "host".toList :=
  ⟨⟨'h', "ost".toList, rfl, by decide⟩, List.all_eq_true.mp rfl⟩

theorem append_fold (url : Url) (pairs query : List (Text × Text))
    (given : url.query = some (UrlSearchParams.serialize pairs)) :
    query.foldl (fun url entry => UrlSearchParams.append url entry.1 entry.2) url =
      { url with query := some (UrlSearchParams.serialize (pairs ++ query)) } := by
  induction query generalizing url pairs with
  | nil =>
    rw [List.foldl_nil, List.append_nil, ← given]
  | cons entry query inductionHypothesis =>
    rw [List.foldl_cons, UrlSearchParams.append_of_query given,
      inductionHypothesis _ (pairs ++ [entry]) rfl, List.append_assoc, List.singleton_append]

theorem getUrl_names (placeholder : Placeholder hosts) {path : List Text} (nonempty : path ≠ [])
    (named : ∀ name ∈ path, Url.Name name) (query : List (Text × Text)) :
    getUrl hosts (Url.joined path) query = some (requestUrl path query).href := by
  have base : Url.parse hosts "https://host".toList =
      some ⟨"https".toList, some "host".toList, none, .inl [[]], none⟩ := by
    have read : Url.parse hosts ("https".toList ++ ':' :: '/' :: '/' :: "host".toList) =
        (hosts true "host".toList).map (fun parsed =>
          ⟨"https".toList, some parsed, none, .inl [[]], none⟩) :=
      Url.parse_host (by decide) (List.all_eq_true.mp rfl) (by decide) placeholderName
    rw [placeholder] at read
    exact read
  rw [getUrl, base, Option.map_some, Url.setPathname_names rfl (by decide) nonempty named]
  dsimp only
  rw [append_fold _ [("api-version".toList, apiVersion)] query rfl]
  rfl

/-- A message with such a URL is read by its path, its query and its body. -/
theorem readCall_message (placeholder : Placeholder hosts) (ackId : Json.Numeral)
    {path : List Text} (nonempty : path ≠ []) (named : ∀ name ∈ path, Url.Name name)
    (filter method : Text) (content : Option (List UInt8)) (contentType : Option Text) :
    readCall hosts (invokeMessage ackId
      ⟨method, (requestUrl path (filterQuery filter)).href, content, contentType⟩) =
      route method path filter ((headerValue (some (headersOf contentType))
        "Content-Type".toList).getD []) (Utf8.Decoder.run none (content.getD [])) := by
  have rooted : path.map Url.encodeSegment ≠ [] := by simpa using nonempty
  have plain : ∀ segment ∈ path.map Url.encodeSegment, Url.Plain true segment := by
    intro segment listed
    obtain ⟨name, member, rfl⟩ := List.mem_map.mp listed
    exact (named name member).plain
  have asked : UrlSearchParams.serialize
      (("api-version".toList, apiVersion) :: filterQuery filter) ≠ [] := by
    intro absurd
    have read := UrlSearchParams.parse_serialize
      (("api-version".toList, apiVersion) :: filterQuery filter)
    rw [absurd] at read
    cases read
  have url : Url.parse hosts (requestUrl path (filterQuery filter)).href =
      some (requestUrl path (filterQuery filter)) :=
    Url.parse_href (by decide) (List.all_eq_true.mp rfl) (by decide) (by decide)
      placeholderName placeholder rooted plain asked (fun _ listed => UrlSearchParams.queryChar_serialize _ listed)
  have segments : (requestUrl path (filterQuery filter)).segments = some path := by
    have decoded : path.map (Url.decodeText ∘ Url.encodeSegment) = path := by
      have same : ∀ name ∈ path, (Url.decodeText ∘ Url.encodeSegment) name = id name :=
        fun name listed => (named name listed).decode
      rw [List.map_congr_left same, List.map_id]
    simp only [Url.segments, requestUrl, List.map_map, decoded]
  have selected : ((filterQuery filter).lookup "filter".toList).getD [] = filter := by
    unfold filterQuery
    split
    · rename_i empty
      rw [empty]
      rfl
    · rfl
  have found : (UrlSearchParams.get (("api-version".toList, apiVersion) :: filterQuery filter)
      "filter".toList).getD [] = filter := selected
  have version : UrlSearchParams.get (("api-version".toList, apiVersion) :: filterQuery filter)
      "api-version".toList = some apiVersion := rfl
  have parameters : UrlSearchParams.parse ((requestUrl path (filterQuery filter)).query.getD []) =
      ("api-version".toList, apiVersion) :: filterQuery filter :=
    UrlSearchParams.parse_serialize _
  simp only [readCall, invokeMessage, url, segments, parameters, version, found,
    Option.bind_eq_bind, Option.bind_some, if_true]

theorem read_postText (placeholder : Placeholder hosts) {path : Text} {names : List Text}
    (joined : path = Url.joined names) (nonempty : names ≠ [])
    (named : ∀ name ∈ names, Url.Name name) (filter message : Text) (key : Option Text)
    (ackId : Json.Numeral) :
    ((postText hosts path (filterQuery filter) message).map (fun request => Keyed.mk request key)).bind
        (fun keyed => readCall hosts (invokeMessage ackId keyed.request)) =
      route httpMethodPost names filter "text/plain".toList message := by
  rw [postText, joined, getUrl_names placeholder nonempty named, Option.map_some, Option.map_some,
    Option.bind_some, readCall_message placeholder ackId nonempty named, Option.getD_some,
    Utf8.run_encode]
  rfl

theorem readGroups_body (groups : List Text) (filter : Text) :
    readGroups (groupsBody groups filter).stringify = some (groups, filter) := by
  have parsed : Json.parse (groupsBody groups filter).stringify = some (groupsBody groups filter) := by
    apply Json.parse_stringify
    apply Json.numeric_record
    intro slot listed value given
    rcases List.mem_cons.mp listed with rfl | later
    · obtain rfl := Option.some.inj given
      exact Tunnel.textsValue_numeric groups
    · rw [List.mem_singleton.mp later] at given
      obtain rfl := Option.some.inj given
      rfl
  have listed : (groupsBody groups filter).property "groups".toList =
      some (Tunnel.textsValue groups) := rfl
  have selected : (groupsBody groups filter).property "filter".toList = some (.string filter) := rfl
  simp only [readGroups, parsed, listed, selected, Option.bind_eq_bind, Option.bind_some,
    Tunnel.readTexts_textsValue, Tunnel.readText]
  rfl

theorem read_postGroups (placeholder : Placeholder hosts) {path : Text} {names : List Text}
    (joined : path = Url.joined names) (nonempty : names ≠ [])
    (named : ∀ name ∈ names, Url.Name name) (groups : List Text) (filter : Text)
    (key : Option Text) (ackId : Json.Numeral) :
    ((postGroups hosts path groups filter).map (fun request => Keyed.mk request key)).bind
        (fun keyed => readCall hosts (invokeMessage ackId keyed.request)) =
      route httpMethodPost names [] "application/json".toList
        (groupsBody groups filter).stringify := by
  have read := readCall_message placeholder ackId nonempty named [] httpMethodPost
    (some (Utf8.encode (groupsBody groups filter).stringify)) (some "application/json".toList)
  rw [Option.getD_some, Utf8.run_encode] at read
  rw [postGroups, joined, getUrl_names placeholder nonempty named]
  exact read

/-- The path of an operation on the whole hub. -/
theorem hubPath {hub : Text} (hubName : Url.Name hub) {operation : Text}
    (operationName : Url.Name operation) :
    "/api/hubs/".toList ++ hub ++ '/' :: operation =
        Url.joined ["api".toList, "hubs".toList, hub, operation] ∧
      ∀ name ∈ ["api".toList, "hubs".toList, hub, operation], Url.Name name := by
  constructor
  · simp [Url.joined]
  · exact List.forall_mem_cons.mpr ⟨by decide, List.forall_mem_cons.mpr ⟨by decide,
      List.forall_mem_cons.mpr ⟨hubName, List.forall_mem_singleton.mpr operationName⟩⟩⟩

/-- The path of an operation on a part of the hub. -/
theorem partPath {hub : Text} (hubName : Url.Name hub) {kind part operation : Text}
    (kindName : Url.Name kind) (partName : Url.Name part) (operationName : Url.Name operation) :
    "/api/hubs/".toList ++ hub ++ ('/' :: kind ++ ['/']) ++ part ++ '/' :: operation =
        Url.joined ["api".toList, "hubs".toList, hub, kind, part, operation] ∧
      ∀ name ∈ ["api".toList, "hubs".toList, hub, kind, part, operation], Url.Name name := by
  constructor
  · simp [Url.joined]
  · exact List.forall_mem_cons.mpr ⟨by decide, List.forall_mem_cons.mpr ⟨by decide,
      List.forall_mem_cons.mpr ⟨hubName, List.forall_mem_cons.mpr ⟨kindName,
        List.forall_mem_cons.mpr ⟨partName, List.forall_mem_singleton.mpr operationName⟩⟩⟩⟩⟩

/-- The message of a call is read as that call to the hub, with the content type it is sent
with. -/
theorem readCall_request (placeholder : Placeholder hosts) {hub : Text} (hubName : Url.Name hub)
    (call : Call) (named : ∀ name ∈ call.names, Url.Name name) (ackId : Json.Numeral) :
    (call.request hosts hub).bind (fun keyed => readCall hosts (invokeMessage ackId keyed.request)) =
      some (hub, call.sent) := by
  have send : Url.Name ":send".toList := by decide
  have groupsName : Url.Name "groups".toList := by decide
  have connections : Url.Name "connections".toList := by decide
  cases call with
  | addressed call =>
    cases call with
    | groupSendToAll group message filter contentType =>
      obtain ⟨path, names⟩ := partPath hubName groupsName (named group (.head _)) send
      have read := read_postText placeholder path (List.cons_ne_nil _ _) names filter message
        (some group) ackId
      exact read.trans (by simp [route, httpMethodPost, Call.sent])
    | sendToAll message filter contentType =>
      obtain ⟨path, names⟩ := hubPath hubName send
      have read := read_postText placeholder path (List.cons_ne_nil _ _) names filter message
        (some consistentKeyForSendToAll) ackId
      exact read.trans (by simp [route, httpMethodPost, Call.sent])
    | invoke message filter contentType =>
      obtain ⟨path, names⟩ := hubPath hubName (by decide : Url.Name ":invoke".toList)
      have read := read_postText placeholder path (List.cons_ne_nil _ _) names filter message
        (some consistentKeyForSendToAll) ackId
      exact read.trans (by simp [route, httpMethodPost, Call.sent])
    | addConnectionsToGroups groups filter =>
      obtain ⟨path, names⟩ := hubPath hubName (by decide : Url.Name ":addToGroups".toList)
      have read := read_postGroups placeholder path (List.cons_ne_nil _ _) names groups filter none
        ackId
      exact read.trans (by simp [route, httpMethodPost, Call.sent, readGroups_body])
    | removeConnectionsFromGroups groups filter =>
      obtain ⟨path, names⟩ := hubPath hubName (by decide : Url.Name ":removeFromGroups".toList)
      have read := read_postGroups placeholder path (List.cons_ne_nil _ _) names groups filter none
        ackId
      exact read.trans (by simp [route, httpMethodPost, Call.sent, readGroups_body])
  | sendToConnection connectionId message =>
    obtain ⟨path, names⟩ := partPath hubName connections (named connectionId (.head _)) send
    have read := read_postText placeholder path (List.cons_ne_nil _ _) names [] message none ackId
    exact read.trans (by simp [route, httpMethodPost, Call.sent])
  | removeConnection groupName connectionId =>
    have group : Url.Name groupName := named groupName (.head _)
    have connection : Url.Name connectionId := named connectionId (.tail _ (.head _))
    have names : ∀ name ∈ ["api".toList, "hubs".toList, hub, "groups".toList, groupName,
        "connections".toList, connectionId], Url.Name name := by
      have before := (partPath hubName groupsName group connections).2
      simp only [List.forall_mem_cons] at before ⊢
      obtain ⟨api, hubs, hub, groups, group, connections, none⟩ := before
      exact ⟨api, hubs, hub, groups, group, connections, connection, none⟩
    have path : "/api/hubs/".toList ++ hub ++ "/groups/".toList ++ groupName ++
        "/connections/".toList ++ connectionId = Url.joined ["api".toList, "hubs".toList, hub,
          "groups".toList, groupName, "connections".toList, connectionId] := by
      simp [Url.joined]
    have read := readCall_message placeholder ackId (List.cons_ne_nil _ _) names [] httpMethodDelete
      none none
    rw [Call.request, removeConnectionFromGroup, path,
      getUrl_names placeholder (List.cons_ne_nil _ _) names]
    exact read.trans (by simp [route, httpMethodDelete, Call.sent])

end Reading

/-- A message to a group, with a filter and a text that hold separators of queries. -/
theorem readCall_request_group :
    ((Call.addressed (.groupSendToAll "0~Lw~".toList "42[1]&x=1".toList
        "not ('0~Lw~Yg' in groups) + 100%".toList "application/json".toList)).request
          (fun _ host => some host) "chat".toList).bind (fun keyed =>
        readCall (fun _ host => some host) (invokeMessage ⟨['1'], rfl⟩ keyed.request)) =
      some ("chat".toList, .addressed (.groupSendToAll "0~Lw~".toList "42[1]&x=1".toList
        "not ('0~Lw~Yg' in groups) + 100%".toList "text/plain".toList)) :=
  @readCall_request (fun _ host => some host) rfl _ (by decide) _ (by decide) _

end WebPubSub.Service
