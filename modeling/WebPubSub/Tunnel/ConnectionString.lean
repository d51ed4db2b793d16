import WebPubSub.Library.JsRecord
import WebPubSub.Library.JsText
import WebPubSub.Library.UrlHost
import WebPubSub.Packets

/-!
# Connection strings

`parseConnectionString` of `utils.ts`. The segments of the string are read into a table, the
last of a key counting; the endpoint, the access key and the port are then taken from it. The
port is cleared again after the endpoint was written, which nothing sees.

A credential is its key. The parser of hosts is that of the library of URLs, whose hosts have no
slash.

`returns_iff` says when the endpoint has the given host and one scheme: a scheme is taken for
given when the endpoint begins with four letters, as they stand.
-/

namespace WebPubSub.Tunnel

/-- `ParsedConnectionString`. -/
structure ParsedConnectionString where
  credential : Text
  endpoint : Text
deriving DecidableEq

/-- One segment: what has no equals sign is skipped. -/
def readSegment (parsed : JsRecord Text) (segment : Text) : JsRecord Text :=
  match JsText.cut ['='] segment with
  | none => parsed
  | some (key, value) => parsed.assign (JsText.toLowerCase key) value

/-- The table of all segments. -/
def readSegments (conn : Text) : JsRecord Text :=
  (conn.splitOn ';').foldl readSegment JsRecord.empty

/-- `parseConnectionString`; it throws by an error. A missing port is set as the text of
`undefined`. -/
def parseConnectionString (hosts : Url.HostParser) (conn : Text) :
    Except Text ParsedConnectionString :=
  let parsed := readSegments conn
  match parsed.get "endpoint".toList with
  | none | some [] => .error "connection string missing endpoint".toList
  | some (first :: rest) =>
    let endpointPart :=
      if "http".toList <+: first :: rest then first :: rest else "https://".toList ++ first :: rest
    match parsed.get "accesskey".toList with
    | none | some [] => .error "connection string missing access key".toList
    | some (letter :: letters) =>
      match Url.parse hosts endpointPart with
      | none => .error "Invalid URL".toList
      | some url =>
        let url := url.setPort ((parsed.get "port".toList).getD "undefined".toList)
        .ok ⟨letter :: letters, url.href⟩

/-! ## Segments -/

/-- A segment gives a value to a name, whatever the case of its key. -/
def Assigns (segment name value : Text) : Prop :=
  ∃ key, segment = key ++ '=' :: value ∧ '=' ∉ key ∧ JsText.toLowerCase key = name

/-- The last segment of a name gives it a value. -/
def Given (conn name value : Text) : Prop :=
  ∃ before segment after, conn.splitOn ';' = before ++ segment :: after ∧
    Assigns segment name value ∧ ∀ later ∈ after, ∀ other, ¬Assigns later name other

section Segments

variable {parsed : JsRecord Text} {segment name value : Text}

theorem readSegment_assigns (assigns : Assigns segment name value) :
    readSegment parsed segment = parsed.assign name value := by
  obtain ⟨key, rfl, free, rfl⟩ := assigns
  rw [readSegment, JsText.cut_char free]

theorem readSegment_other (other : ∀ value, ¬Assigns segment name value) :
    (readSegment parsed segment).get name = parsed.get name := by
  unfold readSegment
  split
  · rfl
  · rename_i key value split
    obtain ⟨written, free⟩ := JsText.cut_char_iff.mp split
    have apart : name ≠ JsText.toLowerCase key := by
      rintro rfl
      exact other value ⟨key, written, free, rfl⟩
    rw [JsRecord.get_assign, if_neg (fun both => apart both.1)]

theorem foldl_other {segments : List Text}
    (others : ∀ segment ∈ segments, ∀ value, ¬Assigns segment name value) :
    (segments.foldl readSegment parsed).get name = parsed.get name := by
  induction segments generalizing parsed with
  | nil => rfl
  | cons segment segments inductionHypothesis =>
    obtain ⟨here, later⟩ := List.forall_mem_cons.mp others
    rw [List.foldl_cons, inductionHypothesis later, readSegment_other here]

/-- A segment gives the value of a name if the keys behind it are others. -/
theorem given_of_split {conn : Text} (before after : List Text) (key : Text)
    (split : conn.splitOn ';' = before ++ (key ++ '=' :: value) :: after) (free : '=' ∉ key)
    (named : JsText.toLowerCase key = name)
    (others : ∀ later ∈ after, ∀ parts ∈ JsText.cut ['='] later,
      JsText.toLowerCase parts.1 ≠ name) : Given conn name value := by
  refine ⟨before, key ++ '=' :: value, after, split, ⟨key, rfl, free, named⟩, ?_⟩
  rintro later listed other ⟨foreign, rfl, unequal, same⟩
  exact others _ listed (foreign, other) (JsText.cut_char unequal other) same

/-- The table holds the value that is given, for a name that a table can hold. -/
theorem get_given {conn : Text} (given : Given conn name value)
    (proper : name ≠ JsRecord.prototypeName) :
    (readSegments conn).get name = some value := by
  obtain ⟨before, segment, after, split, assigns, later⟩ := given
  rw [readSegments, split, List.foldl_append, List.foldl_cons, foldl_other later,
    readSegment_assigns assigns, JsRecord.get_assign, if_pos ⟨rfl, proper⟩]

end Segments

/-! ## Endpoints -/

/-- An endpoint as it is given: a host, with or without a scheme. -/
def written : Option Text → Text → Text
  | none, host => host
  | some scheme, host => scheme ++ "://".toList ++ host

/-- The scheme that the endpoint should have. -/
def expectedScheme (scheme : Option Text) : Text := (scheme.map Url.lower).getD "https".toList

/-- The access key comes back as it is, and the endpoint is a URL of just the scheme and the
host, whatever its port. -/
def Returns (hosts : Url.HostParser) (conn key scheme host : Text) : Prop :=
  ∃ port, parseConnectionString hosts conn =
    .ok ⟨key, Url.href ⟨scheme, some host, port, .inl [[]], none⟩⟩

section Endpoints

variable {hosts : Url.HostParser} {conn key host name : Text} {scheme : Text}

/-- `http` or `https`, in any case. -/
def IsServer (scheme : Text) : Prop :=
  Url.lower scheme = "http".toList ∨ Url.lower scheme = "https".toList

theorem IsServer.letters (server : IsServer scheme) : ∀ char ∈ scheme, char.isAlpha = true := by
  intro char listed
  have small : char.toLower ∈ Url.lower scheme := List.mem_map_of_mem listed
  have all : ∀ text ∈ ["http".toList, "https".toList], text.all Char.isAlpha = true := by decide
  rw [← Url.isAlpha_toLower]
  obtain http | https := server
  · rw [http] at small
    exact List.all_eq_true.mp (all _ (.head _)) _ small
  · rw [https] at small
    exact List.all_eq_true.mp (all _ (.tail _ (.head _))) _ small

theorem IsServer.ne_nil (server : IsServer scheme) : scheme ≠ [] := by
  rintro rfl
  obtain http | https := server
  · cases http
  · cases https

theorem IsServer.special (server : IsServer scheme) :
    Url.isSpecial (Url.lower scheme) = true ∧ Url.isFile (Url.lower scheme) = false := by
  obtain http | https := server
  · rw [http]
    decide
  · rw [https]
    decide

theorem IsServer.unslashed (server : IsServer scheme) : '/' ∉ Url.lower scheme := by
  obtain http | https := server
  · rw [http]
    decide
  · rw [https]
    decide

theorem isServer_https : IsServer "https".toList := Or.inr (by decide)

/-- With an endpoint and a key the result is that of the URL, with the port that is given. -/
theorem parse_given {endpoint : Text} (endpointGiven : Given conn "endpoint".toList endpoint)
    (keyGiven : Given conn "accesskey".toList key) (present : endpoint ≠ []) (nonempty : key ≠ []) :
    parseConnectionString hosts conn =
      match Url.parse hosts
        (if "http".toList <+: endpoint then endpoint else "https://".toList ++ endpoint) with
      | none => .error "Invalid URL".toList
      | some url => .ok ⟨key, (url.setPort
          (((readSegments conn).get "port".toList).getD "undefined".toList)).href⟩ := by
  have first := get_given endpointGiven (by decide)
  have second := get_given keyGiven (by decide)
  obtain ⟨char, rest, rfl⟩ := List.exists_cons_of_ne_nil present
  obtain ⟨letter, letters, rfl⟩ := List.exists_cons_of_ne_nil nonempty
  simp only [parseConnectionString, first, second]

/-- An endpoint that is read as a scheme and a host: the result has just these. -/
theorem returns_of_parsed {endpoint : Text} (endpointGiven : Given conn "endpoint".toList endpoint)
    (keyGiven : Given conn "accesskey".toList key) (present : endpoint ≠ []) (nonempty : key ≠ [])
    (parsed : Url.parse hosts
      (if "http".toList <+: endpoint then endpoint else "https://".toList ++ endpoint) =
        some ⟨scheme, some name, none, .inl [[]], none⟩) :
    Returns hosts conn key scheme name := by
  obtain ⟨port, ported⟩ := Url.setPort_eq ⟨scheme, some name, none, .inl [[]], none⟩
    (((readSegments conn).get "port".toList).getD "undefined".toList)
  refine ⟨port, ?_⟩
  rw [parse_given endpointGiven keyGiven present nonempty, parsed]
  simp only [ported]

/-- Nothing is returned for a text that is no URL. -/
theorem not_returns_of_none {endpoint : Text}
    (endpointGiven : Given conn "endpoint".toList endpoint)
    (keyGiven : Given conn "accesskey".toList key) (present : endpoint ≠ []) (nonempty : key ≠ [])
    (refused : Url.parse hosts
      (if "http".toList <+: endpoint then endpoint else "https://".toList ++ endpoint) = none) :
    ¬Returns hosts conn key scheme name := by
  rintro ⟨port, returned⟩
  rw [parse_given endpointGiven keyGiven present nonempty, refused] at returned
  cases returned

/-- A host that came to stand in the path: the result has a slash too many. -/
theorem not_returns_of_nested {endpoint wrong taken segment : Text}
    (endpointGiven : Given conn "endpoint".toList endpoint)
    (keyGiven : Given conn "accesskey".toList key) (present : endpoint ≠ []) (nonempty : key ≠ [])
    (parsed : Url.parse hosts
      (if "http".toList <+: endpoint then endpoint else "https://".toList ++ endpoint) =
        some ⟨wrong, some taken, none, .inl [[], segment], none⟩)
    (schemeFree : '/' ∉ scheme) (hostFree : '/' ∉ name) :
    ¬Returns hosts conn key scheme name := by
  rintro ⟨port, returned⟩
  obtain ⟨other, ported⟩ := Url.setPort_eq ⟨wrong, some taken, none, .inl [[], segment], none⟩
    (((readSegments conn).get "port".toList).getD "undefined".toList)
  rw [parse_given endpointGiven keyGiven present nonempty, parsed] at returned
  simp only [ported, Except.ok.injEq, ParsedConnectionString.mk.injEq, true_and] at returned
  have free : ∀ host ∈ some name, '/' ∉ host := by
    rintro host held
    obtain rfl := Option.some.inj held
    exact hostFree
  exact Url.href_ne ⟨scheme, some name, port, .inl [[]], none⟩ _ schemeFree free rfl rfl rfl rfl
    returned.symm

/-- A scheme in front of the endpoint. -/
theorem https_append (text : Text) :
    "https://".toList ++ text = "https".toList ++ ':' :: '/' :: '/' :: text :=
  List.append_assoc "https".toList "://".toList text

theorem lower_https : Url.lower "https".toList = "https".toList := by decide

/-- A host alone gets the scheme in front. -/
theorem returns_of_bare (endpointGiven : Given conn "endpoint".toList host)
    (keyGiven : Given conn "accesskey".toList key) (nonempty : key ≠ []) (named : Url.HostName host)
    (accepted : hosts true host = some name) (begins : ¬"http".toList <+: host) :
    Returns hosts conn key "https".toList name := by
  apply returns_of_parsed endpointGiven keyGiven named.ne_nil nonempty
  rw [if_neg begins, https_append, Url.parse_host isServer_https.ne_nil isServer_https.letters
    isServer_https.special named, accepted, lower_https]
  rfl

theorem written_some (given : Text) :
    written (some given) host = given ++ ':' :: '/' :: '/' :: host :=
  List.append_assoc given "://".toList host

/-- A URL whose scheme is seen is taken as it is. -/
theorem returns_of_written {given : Text}
    (endpointGiven : Given conn "endpoint".toList (written (some given) host))
    (keyGiven : Given conn "accesskey".toList key) (nonempty : key ≠ []) (server : IsServer given)
    (named : Url.HostName host) (accepted : hosts true host = some name)
    (begins : "http".toList <+: written (some given) host) :
    Returns hosts conn key (Url.lower given) name := by
  have present : written (some given) host ≠ [] :=
    List.append_ne_nil_of_right_ne_nil _ named.ne_nil
  apply returns_of_parsed endpointGiven keyGiven present nonempty
  rw [if_pos begins, written_some, Url.parse_host server.ne_nil server.letters server.special named,
    accepted]
  rfl

/-- A URL whose scheme is not seen gets a second one in front: its own is then taken for the
host. -/
theorem not_returns_of_written {given : Text}
    (unslashed : ∀ text taken, hosts true text = some taken → '/' ∉ taken)
    (endpointGiven : Given conn "endpoint".toList (written (some given) host))
    (keyGiven : Given conn "accesskey".toList key) (nonempty : key ≠ []) (server : IsServer given)
    (named : Url.HostName host) (accepted : hosts true host = some name)
    (begins : ¬"http".toList <+: written (some given) host) :
    ¬Returns hosts conn key (Url.lower given) name := by
  have present : written (some given) host ≠ [] :=
    List.append_ne_nil_of_right_ne_nil _ named.ne_nil
  have nested : Url.parse hosts
      (if "http".toList <+: written (some given) host then written (some given) host
        else "https://".toList ++ written (some given) host) =
      (hosts true given).map (fun parsed => ⟨"https".toList, some parsed, none,
        .inl [[], host.flatMap (Url.encodeChar Url.inPathSet)], none⟩) := by
    rw [if_neg begins, https_append, written_some, Url.parse_nested isServer_https.ne_nil
      isServer_https.letters isServer_https.special server.ne_nil server.letters named, lower_https]
  cases taken : hosts true given with
  | none =>
    rw [taken] at nested
    exact not_returns_of_none endpointGiven keyGiven present nonempty nested
  | some wrong =>
    rw [taken] at nested
    exact not_returns_of_nested endpointGiven keyGiven present nonempty nested server.unslashed
      (unslashed _ _ accepted)

end Endpoints

/-- The result is the key and a URL of just the scheme and the host, if and only if the endpoint
begins with `http` exactly when it has a scheme of its own. -/
theorem returns_iff (hosts : Url.HostParser)
    (unslashed : ∀ special text host, hosts special text = some host → '/' ∉ host)
    {conn key host name : Text} {scheme : Option Text}
    (endpointGiven : Given conn "endpoint".toList (written scheme host))
    (keyGiven : Given conn "accesskey".toList key) (nonempty : key ≠ [])
    (server : ∀ given ∈ scheme, IsServer given) (named : Url.HostName host)
    (accepted : hosts true host = some name) :
    Returns hosts conn key (expectedScheme scheme) name ↔
      ("http".toList <+: written scheme host ↔ scheme.isSome = true) := by
  cases scheme with
  | none =>
    by_cases begins : "http".toList <+: written none host
    · refine iff_of_false ?_ (fun same => absurd (same.mp begins) (by decide))
      apply not_returns_of_none endpointGiven keyGiven named.ne_nil nonempty
      rw [if_pos begins]
      exact Url.parse_bare named
    · exact iff_of_true (returns_of_bare endpointGiven keyGiven nonempty named accepted begins)
        (iff_of_false begins (by decide))
  | some given =>
    have isServer : IsServer given := server given rfl
    by_cases begins : "http".toList <+: written (some given) host
    · exact iff_of_true
        (returns_of_written endpointGiven keyGiven nonempty isServer named accepted begins)
        (iff_of_true begins rfl)
    · exact iff_of_false (not_returns_of_written (unslashed true) endpointGiven keyGiven nonempty
        isServer named accepted begins) (fun same => begins (same.mpr rfl))

/-! ## Two connection strings -/

/-- A parser of hosts for names of letters and dots. -/
def lowerHosts : Url.HostParser := fun _ text => if '/' ∈ text then none else some (Url.lower text)

theorem lowerHosts_unslashed (special : Bool) (text host : Text)
    (parsed : lowerHosts special text = some host) : '/' ∉ host := by
  obtain ⟨free, same⟩ := Option.ite_none_left_eq_some.mp parsed
  obtain rfl := Option.some.inj same
  intro listed
  obtain ⟨char, inside, slash⟩ := List.mem_map.mp listed
  rw [Url.toLower_eq_iff rfl] at slash
  exact free (slash ▸ inside)

/-- The key ends in the sign that divides a segment, and the scheme is in mixed case. -/
def paddedConn : Text := "ENDPOINT=httpS://h.x;AccessKey=k==".toList

theorem paddedConn_endpoint :
    Given paddedConn "endpoint".toList (written (some "httpS".toList) "h.x".toList) :=
  given_of_split [] ["AccessKey=k==".toList] "ENDPOINT".toList (by decide) (by decide)
    (by decide) (by decide)

theorem paddedConn_key : Given paddedConn "accesskey".toList "k==".toList :=
  given_of_split ["ENDPOINT=httpS://h.x".toList] [] "AccessKey".toList (by decide) (by decide)
    (by decide) (by decide)

theorem hostName_sample : Url.HostName "h.x".toList :=
  ⟨⟨'h', ".x".toList, rfl, by decide⟩, List.all_eq_true.mp rfl⟩

theorem returns_iff_padded :
    Returns lowerHosts paddedConn "k==".toList "https".toList "h.x".toList ↔
      ("http".toList <+: "httpS://h.x".toList ↔ (some "httpS".toList).isSome = true) :=
  returns_iff lowerHosts lowerHosts_unslashed paddedConn_endpoint paddedConn_key (by decide)
    (by
      intro given held
      obtain rfl := Option.some.inj held
      exact Or.inr (by decide))
    hostName_sample (by decide)

/-- A scheme in capitals, which is taken for the host. -/
def capitalConn : Text := "Endpoint=HTTP://h;AccessKey=k".toList

/-- A host that begins with the letters of a scheme, which is taken for a URL. -/
def lettersConn : Text := "Endpoint=httpbin.x;AccessKey=k".toList

theorem capitalConn_endpoint :
    Given capitalConn "endpoint".toList (written (some "HTTP".toList) "h".toList) :=
  given_of_split [] ["AccessKey=k".toList] "Endpoint".toList (by decide) (by decide) (by decide)
    (by decide)

theorem lettersConn_endpoint :
    Given lettersConn "endpoint".toList (written none "httpbin.x".toList) :=
  given_of_split [] ["AccessKey=k".toList] "Endpoint".toList (by decide) (by decide) (by decide)
    (by decide)

/-- Neither is returned as a URL of its host with one scheme. -/
theorem schemes_mistaken :
    parseConnectionString lowerHosts capitalConn = .ok ⟨"k".toList, "https://http//h".toList⟩ ∧
      Given capitalConn "endpoint".toList (written (some "HTTP".toList) "h".toList) ∧
      ¬Returns lowerHosts capitalConn "k".toList (expectedScheme (some "HTTP".toList)) "h".toList ∧
      parseConnectionString lowerHosts lettersConn = .error "Invalid URL".toList ∧
      Given lettersConn "endpoint".toList (written none "httpbin.x".toList) ∧
      ¬Returns lowerHosts lettersConn "k".toList (expectedScheme none) "httpbin.x".toList := by
  have capital : parseConnectionString lowerHosts capitalConn =
      .ok ⟨"k".toList, "https://http//h".toList⟩ := rfl
  have letters : parseConnectionString lowerHosts lettersConn = .error "Invalid URL".toList := rfl
  refine ⟨capital, capitalConn_endpoint, ?_, letters, lettersConn_endpoint, ?_⟩
  · rintro ⟨port, returned⟩
    rw [capital] at returned
    have texts := congrArg ParsedConnectionString.endpoint (Except.ok.inj returned)
    have fifth : some 's' = some ':' := congrArg (fun text => text[4]?) texts
    exact absurd fifth (by decide)
  · rintro ⟨port, returned⟩
    rw [letters] at returned
    cases returned

end WebPubSub.Tunnel
