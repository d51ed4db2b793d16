import WebPubSub.Cli.Bindings
import WebPubSub.Library.JsNumber
import WebPubSub.Tunnel.ConnectionString

/-!
# Running with bound options

`createRunCommand` of `commander.ts`, up to the tunnel that it starts and the webview. An
option on the command line goes before the settings; a connection string goes before an
endpoint on the command line, that before the environment, and that before a bound endpoint.
What it prints as an error and what it throws, which ends the process, are both errors here.

A bound upstream is the text of a URL. `run_bound` says when a later run takes it: it is
parsed to the URL that was bound, unless the parser of hosts left a quotation mark in the
host, which the regular expression of `parseUrl` refuses.
-/

namespace WebPubSub.Cli

open Url (HostParser Server SettledHosts)

/-- A text that JavaScript takes for true. -/
def nonempty (text : Option Text) : Option Text := text.filter (· ≠ [])

/-- `parseInt` of a text: white space, a sign, and digits up to the first other character. -/
def parseInt (text : Text) : Option Int :=
  let trimmed := text.dropWhile JsNumber.blank
  let negative := trimmed.head? = some '-'
  let unsigned := if negative ∨ trimmed.head? = some '+' then trimmed.tail else trimmed
  let hexadecimal := ['0', 'x'] <+: unsigned ∨ ['0', 'X'] <+: unsigned
  let base := if hexadecimal then 16 else 10
  let digits := ((if hexadecimal then unsigned.drop 2 else unsigned).takeWhile
    (fun char => (JsNumber.digitValue base char).isSome)).filterMap (JsNumber.digitValue base)
  let size : Nat := digits.foldl (fun total digit => base * total + digit) 0
  if digits = [] then none else some (if negative then -size else size)

/-- `tryParseInt`. -/
def tryParseInt (port : Option Text) : Option Int := (nonempty port).bind parseInt

/-- The variables of the environment. -/
structure Environment where
  connectionString : Option Text
  serverPort : Option Text

/-- What the tunnel is created from. -/
inductive Source where
  | connectionString (text : Text)
  | endpoint (text : Text)
deriving DecidableEq

/-- A tunnel with its options. The webview may be off, and its port may be refused. -/
structure Started where
  hub : Text
  subscription : Option Text
  resourceGroup : Option Text
  upstream : Server
  currentUpstream : Text
  source : Source
  /-- The URL of the endpoint, without a user name, a password and a fragment. -/
  endpoint : Url
  webview : Except Text (Option (Text × Int))

def defaultUpstream : Text := "http://localhost:3000".toList

/-- The upstream, and its text. -/
def resolveUpstream (hosts : HostParser) (currentUpstream : Option Text) :
    Except Text (Server × Text) :=
  match nonempty currentUpstream with
  | some current =>
    match parseUrl hosts current "http".toList with
    | some parsed => .ok (parsed, parsed.text)
    | none => .error ("Error: invalid upstream: ".toList ++ current ++
        ". Use -u|--upstream to specify the upstream URL.".toList)
  | none =>
    match Server.read hosts defaultUpstream with
    | some upstream => .ok (upstream, defaultUpstream)
    | none => .error "Invalid URL".toList

/-- The connection string or the endpoint. -/
def resolveSource (hosts : HostParser) (environment : Environment) (settings : Settings)
    (command : RunArguments) : Except Text Source :=
  match nonempty command.connection with
  | some connection => .ok (.connectionString connection)
  | none =>
    match nonempty command.endpoint with
    | some endpoint =>
      if (parseWebUrl hosts endpoint).isNone then
        .error ("Error: invalid endpoint: ".toList ++ endpoint)
      else .ok (.endpoint endpoint)
    | none =>
      match nonempty environment.connectionString with
      | some connection => .ok (.connectionString connection)
      | none =>
        match nonempty (settings.value .endpoint) with
        | some endpoint => .ok (.endpoint endpoint)
        | none =>
          .error ("Error: SET WebPubSubConnectionString env or specify --endpoint ".toList ++
            "<endpoint> or specify --connection <connectionString>".toList)

/-- The host and the port of the webview. The port of a URL is its digits. -/
def resolveWebview (environment : Environment) (settings : Settings) (command : RunArguments)
    (upstream : Server) : Except Text (Option (Text × Int)) :=
  let upstreamPort : Int := (upstream.port.getD 80 : Nat)
  let host := (command.webviewHost.or (settings.value .webviewHost)).getD "127.0.0.1".toList
  let port := (command.webviewPort.or (settings.value .webviewPort)).or environment.serverPort
  if command.noWebview then .ok none
  else
    match nonempty port with
    | none => .ok (some (host, upstreamPort + 1000))
    | some text =>
      match tryParseInt (some text) with
      | none => .error "Error: invalid webview port: undefined".toList
      | some 0 => .error "Error: invalid webview port: 0".toList
      | some port => .ok (some (host, port))

/-- The URL of the endpoint of the tunnel, which has a slash at its end. `fromConnectionString`
throws for a malformed connection string, and `new URL` for an endpoint that is no URL. -/
def tunnelEndpoint (hosts : HostParser) (source : Source) : Except Text Url := do
  let endpoint ← match source with
    | .connectionString text =>
      (Tunnel.parseConnectionString hosts text).map Tunnel.ParsedConnectionString.endpoint
    | .endpoint text => .ok text
  let slashed := if endpoint.getLast? = some '/' then endpoint else endpoint ++ ['/']
  match Url.parse hosts slashed with
  | some url => .ok url
  | none => .error "Invalid URL".toList

/-- `server.listen` throws for a number that is no port. -/
def listens : Except Text (Option (Text × Int)) → Bool
  | .ok (some (_, port)) => 0 ≤ port && port < 65536
  | .ok none | .error _ => true

/-- `createRunCommand`. -/
def createRunCommand (hosts : HostParser) (environment : Environment) (settings : Settings)
    (command : RunArguments) : Except Text Started :=
  match nonempty (command.hub.or (settings.value .hub)) with
  | none => .error
      "Error: hub is neither specified nor binded. Use --hub to specify the hub.".toList
  | some hub => do
    let (upstream, currentUpstream) ←
      resolveUpstream hosts (command.upstream.or (settings.value .upstream))
    let source ← resolveSource hosts environment settings command
    let endpoint ← tunnelEndpoint hosts source
    let webview := resolveWebview environment settings command upstream
    if listens webview then .ok {
      hub := hub
      subscription := command.subscription.or (settings.value .subscriptionId)
      resourceGroup := command.resourceGroup.or (settings.value .resourceGroup)
      upstream := upstream
      currentUpstream := currentUpstream
      source := source
      endpoint := endpoint
      webview := webview }
    else .error "options.port should be >= 0 and < 65536.".toList

/-! ## URLs that are read again -/

/-- The schemes that `parseUrl` takes. -/
def IsWeb (scheme : Text) : Prop := scheme = "http".toList ∨ scheme = "https".toList

section Again

variable {hosts : HostParser} {server : Server}

/-- A scheme stays in front when the input is cleaned. -/
theorem clean_scheme {scheme : Text} (filled : scheme ≠ [])
    (letters : ∀ char ∈ scheme, char.isAlpha = true) (rest : Text) :
    ∃ cleaned, Url.clean (scheme ++ ':' :: rest) = scheme ++ ':' :: cleaned := by
  have dark : ∀ char ∈ scheme, Url.isBlank char = false := fun char listed =>
    ((Url.isHostChar_iff char).mp (Url.isHostChar_of_isAlpha (letters char listed))).1
  have untrimmed : (scheme ++ ':' :: rest).dropWhile Url.isBlank = scheme ++ ':' :: rest := by
    obtain ⟨first, others, rfl⟩ := List.exists_cons_of_ne_nil filled
    rw [List.cons_append, List.dropWhile_cons_of_neg (by simp [dark first List.mem_cons_self])]
  have trimmed : ((scheme ++ ':' :: rest).reverse.dropWhile Url.isBlank).reverse =
      scheme ++ ':' :: (rest.reverse.dropWhile Url.isBlank).reverse := by
    have colon : (':' :: scheme.reverse).dropWhile Url.isBlank = ':' :: scheme.reverse :=
      List.dropWhile_cons_of_neg (by decide)
    rw [List.reverse_append, List.reverse_cons, List.append_assoc, List.singleton_append,
      List.dropWhile_append, colon]
    split
    · rename_i empty
      rw [List.isEmpty_iff.mp empty]
      simp
    · simp
  have kept :
      (scheme ++ [':']).filter (fun char => !Url.isTabOrNewline char) = scheme ++ [':'] := by
    apply List.filter_eq_self.mpr
    intro char listed
    have visible : Url.isBlank char = false := by
      rcases List.mem_append.mp listed with letter | mark
      · exact dark char letter
      · rw [List.mem_singleton.mp mark]
        rfl
    simp only [Url.isBlank, decide_eq_false_iff_not] at visible
    simp only [Url.isTabOrNewline, Bool.not_eq_true', Bool.or_eq_false_iff,
      decide_eq_false_iff_not]
    omega
  refine ⟨((rest.reverse.dropWhile Url.isBlank).reverse).filter
    (fun char => !Url.isTabOrNewline char), ?_⟩
  have shape (tail : Text) : scheme ++ ':' :: tail = (scheme ++ [':']) ++ tail := by simp
  rw [Url.clean, untrimmed, trimmed, shape, List.filter_append, kept, List.append_assoc,
    List.singleton_append]

/-- What the regular expression takes starts with a scheme of the web, in either case. -/
theorem isWebUrl_scheme {url : Text} (web : isWebUrl url = true) :
    ∃ scheme rest, url = scheme ++ ':' :: rest ∧ scheme ≠ [] ∧
      (∀ char ∈ scheme, char.isAlpha = true) ∧ IsWeb (Url.lower scheme) := by
  have split (word : Text) (filled : word ≠ []) (letters : word.all Char.isAlpha = true)
      (start : Url.lower (url.take (word ++ "://".toList).length) = word ++ "://".toList) :
      ∃ scheme rest, url = scheme ++ ':' :: rest ∧ scheme ≠ [] ∧
        (∀ char ∈ scheme, char.isAlpha = true) ∧ Url.lower scheme = word := by
    obtain ⟨scheme, marks, shape, lowered, mark⟩ := List.map_eq_append_iff.mp start
    obtain ⟨colon, slashes, rfl, same, -⟩ := List.map_eq_cons_iff.mp mark
    have isColon : colon = ':' := (Url.toLower_eq_iff rfl).mp same
    refine ⟨scheme, slashes ++ url.drop (word ++ "://".toList).length, ?_, ?_, ?_, lowered⟩
    · rw [← isColon, ← List.cons_append, ← List.append_assoc, ← shape, List.take_append_drop]
    · rintro rfl
      exact filled lowered.symm
    · intro char listed
      have inside : char.toLower ∈ word := by
        rw [← lowered]
        exact List.mem_map_of_mem listed
      rw [← Url.isAlpha_toLower]
      exact List.all_eq_true.mp letters _ inside
  simp only [isWebUrl, List.any_cons, List.any_nil, Bool.or_false, Bool.or_eq_true,
    Bool.and_eq_true, decide_eq_true_eq] at web
  rcases web with ⟨⟨start, -⟩, -⟩ | ⟨⟨start, -⟩, -⟩
  · obtain ⟨scheme, rest, shape, filled, letters, lowered⟩ :=
      split "http".toList (by decide) rfl start
    exact ⟨scheme, rest, shape, filled, letters, Or.inl lowered⟩
  · obtain ⟨scheme, rest, shape, filled, letters, lowered⟩ :=
      split "https".toList (by decide) rfl start
    exact ⟨scheme, rest, shape, filled, letters, Or.inr lowered⟩

theorem isWeb_of_read {url : Text} (web : isWebUrl url = true)
    (given : Server.read hosts url = some server) : IsWeb server.scheme := by
  obtain ⟨scheme, rest, rfl, filled, letters, isWeb⟩ := isWebUrl_scheme web
  obtain ⟨cleaned, shape⟩ := clean_scheme filled letters rest
  obtain ⟨split, divided, read⟩ := Option.bind_eq_some_iff.mp given
  rw [shape, Url.splitScheme_append filled letters] at divided
  cases divided
  split at read
  · obtain ⟨authority, -, rfl⟩ := Option.map_eq_some_iff.mp read
    exact isWeb
  · cases read

theorem isWebUrl_append {scheme rest : Text} (web : IsWeb scheme) (filled : rest ≠ []) :
    isWebUrl (scheme ++ "://".toList ++ rest) =
      rest.all (fun char => char ≠ ' ' && char ≠ '"') := by
  obtain ⟨first, others, rfl⟩ := List.exists_cons_of_ne_nil filled
  rcases web with rfl | rfl <;> simp [isWebUrl, Url.lower]

/-- The text of a URL is taken again, unless its host has a quotation mark. -/
theorem isWebUrl_text (settled : SettledHosts hosts) (normal : server.Normal hosts)
    (web : IsWeb server.scheme) : isWebUrl server.text = true ↔ '"' ∉ server.host := by
  have nonempty : server.host ≠ [] := normal.host_ne_nil settled
  have shape : server.text = server.scheme ++ "://".toList ++
      ((server.userinfo ++ (server.host ++ server.portText)) ++ (Url.joined server.path ++
        (Server.marked '?' server.query ++ Server.marked '#' server.fragment))) := by
    simp [Server.text]
  have inText {char : Char} (listed : char ∈
      (server.userinfo ++ (server.host ++ server.portText)) ++ (Url.joined server.path ++
        (Server.marked '?' server.query ++ Server.marked '#' server.fragment))) :
      char ∈ server.text := by
    rw [shape]
    exact List.mem_append_right _ listed
  rw [shape, isWebUrl_append web (by simp [nonempty]), List.all_eq_true]
  constructor
  · intro plain host
    have refused := plain '"' (by simp [host])
    simp at refused
  · intro absent char listed
    obtain ⟨dark, quote⟩ := normal.text_visible settled (inText listed)
    have space : char ≠ ' ' := by
      rintro rfl
      cases dark
    have apart : char ≠ '"' := by
      rintro rfl
      exact absent (quote rfl)
    simp [space, apart]

/-- What `parseUrl` gives was read from a text of the web. -/
theorem parseUrl_some {url optionalScheme : Text}
    (parsed : parseUrl hosts url optionalScheme = some server) :
    ∃ input, isWebUrl input = true ∧ Server.read hosts input = some server := by
  unfold parseUrl parseWebUrl at parsed
  split_ifs at parsed with web infix_ whole
  · exact ⟨url, web, parsed⟩
  · exact ⟨_, whole, parsed⟩

/-- Parsing the text of a URL that was parsed gives the URL, or nothing when its host has a
quotation mark. -/
theorem parseUrl_text (settled : SettledHosts hosts) {url optionalScheme : Text}
    (parsed : parseUrl hosts url optionalScheme = some server) (again : Text) :
    parseUrl hosts server.text again = if '"' ∈ server.host then none else some server := by
  obtain ⟨input, web, read⟩ := parseUrl_some parsed
  have normal : server.Normal hosts := Server.normal_read read
  have marked : "://".toList <:+: server.text := by
    refine ⟨server.scheme, (server.userinfo ++ (server.host ++ server.portText)) ++
      (Url.joined server.path ++
        (Server.marked '?' server.query ++ Server.marked '#' server.fragment)), ?_⟩
    simp [Server.text]
  have taken := isWebUrl_text settled normal (isWeb_of_read web read)
  unfold parseUrl
  by_cases quoted : '"' ∈ server.host
  · rw [if_neg (fun accepted => taken.mp accepted quoted), if_pos marked, if_pos quoted]
  · rw [if_pos (taken.mpr quoted), normal.read_text settled, if_neg quoted]

end Again

/-! ## Runs with a bound upstream -/

section Bound

variable {hosts : HostParser} {invocations : List Invocation} {bound : Text}

theorem bindUrl_toOption (optionalScheme name text : Text) :
    (bindUrl hosts optionalScheme name text).toOption =
      (parseUrl hosts text optionalScheme).map Server.text := by
  unfold bindUrl
  cases parseUrl hosts text optionalScheme <;> rfl

/-- The last accepted `bind` that names the upstream gave it this URL. -/
def LastBound (hosts : HostParser) (invocations : List Invocation) (server : Server) : Prop :=
  ∃ before updated text after, invocations = before ++ .bind updated :: after ∧
    updated.accepted hosts = true ∧ updated.upstream = .value text ∧
    parseUrl hosts text "http".toList = some server ∧
    ∀ later ∈ after, later.tells hosts .upstream = none

/-- An accepted `bind` tells the text of the URL it is given. -/
theorem tells_upstream {updated : BindArguments} {text : Text} {server : Server}
    (accepted : updated.accepted hosts = true) (given : updated.upstream = .value text)
    (parsed : parseUrl hosts text "http".toList = some server) :
    (Invocation.bind updated).tells hosts .upstream = some (some server.text) := by
  rw [Invocation.tells, if_pos accepted, BindArguments.tells, BindArguments.argument, given]
  cases text with
  | nil =>
    have refused : parseUrl hosts [] "http".toList = none := rfl
    rw [refused] at parsed
    cases parsed
  | cons char text =>
    dsimp only
    rw [normalize, bindUrl_toOption, parsed, Option.map_some]

/-- The file has the text of the URL that was bound last. -/
theorem load_upstream {server : Server} (last : LastBound hosts invocations server) :
    ∃ settings, Settings.load (invocations.foldl (invoke hosts) none) = some settings ∧
      settings.value .upstream = some server.text := by
  obtain ⟨settings, read, values⟩ := settings_latest hosts invocations
  obtain ⟨before, updated, text, after, rfl, accepted, given, parsed, silent⟩ := last
  refine ⟨settings, read, ?_⟩
  rw [values, Replay.latest_of_silent (tells_upstream accepted given parsed) silent]
  rfl

/-- The text of a URL that was bound is resolved to the URL, or refused when its host has a
quotation mark. -/
theorem resolveUpstream_text (settled : SettledHosts hosts) {server : Server}
    (last : LastBound hosts invocations server) : resolveUpstream hosts (some server.text) =
      if '"' ∈ server.host then .error ("Error: invalid upstream: ".toList ++ server.text ++
        ". Use -u|--upstream to specify the upstream URL.".toList)
      else .ok (server, server.text) := by
  obtain ⟨before, updated, text, after, -, -, -, parsed, -⟩ := last
  have filled : nonempty (some server.text) = some server.text := by
    simp [nonempty, Server.text]
  unfold resolveUpstream
  rw [filled]
  dsimp only
  rw [parseUrl_text settled parsed]
  by_cases quoted : '"' ∈ server.host
  · rw [if_pos quoted, if_pos quoted]
  · rw [if_neg quoted, if_neg quoted]

/-- After any invocations, a run without an upstream of its own takes the upstream that was bound
last: it proxies to the URL that was parsed when it was bound. It starts exactly if the host of
this URL has no quotation mark, there is a hub, there is a source that gives the tunnel an
endpoint, and the webview gets a port. -/
theorem run_bound (settled : SettledHosts hosts) {server : Server}
    (last : LastBound hosts invocations server) :
    ∃ settings, Settings.load (invocations.foldl (invoke hosts) none) = some settings ∧
      settings.value .upstream = some server.text ∧
      ∀ environment command, command.upstream = none →
        ((∃ started, createRunCommand hosts environment settings command = .ok started) ↔
          '"' ∉ server.host ∧ (nonempty (command.hub.or (settings.value .hub))).isSome = true ∧
            (∃ source endpoint, resolveSource hosts environment settings command = .ok source ∧
              tunnelEndpoint hosts source = .ok endpoint) ∧
            listens (resolveWebview environment settings command server) = true) ∧
        ∀ started, createRunCommand hosts environment settings command = .ok started →
          started.upstream = server ∧ started.currentUpstream = server.text := by
  obtain ⟨settings, read, value⟩ := load_upstream last
  refine ⟨settings, read, value, ?_⟩
  intro environment command unset
  have resolved : resolveUpstream hosts (command.upstream.or (settings.value .upstream)) =
      if '"' ∈ server.host then .error ("Error: invalid upstream: ".toList ++ server.text ++
        ". Use -u|--upstream to specify the upstream URL.".toList)
      else .ok (server, server.text) := by
    rw [unset, Option.none_or, value]
    exact resolveUpstream_text settled last
  unfold createRunCommand
  cases nonempty (command.hub.or (settings.value .hub)) with
  | none => simp
  | some hub =>
    dsimp only
    rw [resolved]
    by_cases quoted : '"' ∈ server.host
    · simp [quoted, bind, Except.bind]
    · cases given : resolveSource hosts environment settings command with
      | error message => simp [quoted, bind, Except.bind]
      | ok source =>
        cases reached : tunnelEndpoint hosts source with
        | error message => simp [quoted, bind, Except.bind, reached]
        | ok endpoint =>
          cases opens : listens (resolveWebview environment settings command server) with
          | false => simp [quoted, bind, Except.bind, reached, opens]
          | true =>
            simp only [quoted, if_false, bind, Except.bind, reached, opens, if_true]
            refine ⟨by simp [reached], ?_⟩
            intro started run
            cases run
            exact ⟨rfl, rfl⟩

end Bound

/-! ## A sample -/

/-- Hosts of visible characters without a mark of a URL, in lower case. -/
def plainHosts : HostParser := fun _ text =>
  if text ≠ [] ∧ text.all Url.isHostChar = true then some (Url.lower text) else none

theorem isHostChar_toLower {char : Char} (inside : Url.isHostChar char = true) :
    Url.isHostChar char.toLower = true := by
  cases letter : char.isAlpha with
  | true => exact Url.isHostChar_of_isAlpha (by rw [Url.isAlpha_toLower, letter])
  | false =>
    have kept : char.toLower = char := (Url.toLower_eq_iff letter).mpr rfl
    rw [kept]
    exact inside

theorem lower_lower (text : Text) : Url.lower (Url.lower text) = Url.lower text := by
  have char (char : Char) : char.toLower.toLower = char.toLower := by
    rcases Url.toLower_cases char.toLower with same | ⟨least, most, -⟩
    · exact same
    · rcases Url.toLower_cases char with same | ⟨low, high, shifted⟩
      · rw [same, same]
      · omega
  simp [Url.lower, char]

theorem settledHosts_plain : SettledHosts plainHosts := by
  have known {text host : Text} (given : plainHosts true text = some host) :
      host ≠ [] ∧ (∀ char ∈ host, Url.isHostChar char = true) ∧ Url.lower host = host := by
    unfold plainHosts at given
    split at given
    · rename_i plain
      cases given
      refine ⟨?_, ?_, ?_⟩
      · simpa [Url.lower] using plain.1
      · intro char listed
        obtain ⟨source, inside, rfl⟩ := List.mem_map.mp listed
        exact isHostChar_toLower (List.all_eq_true.mp plain.2 source inside)
      · exact lower_lower text
    · cases given
  refine ⟨?_, ?_, ?_, ?_⟩
  · intro text host given
    obtain ⟨filled, plain, lowered⟩ := known given
    rw [plainHosts, if_pos ⟨filled, List.all_eq_true.mpr plain⟩, lowered]
  · exact fun text host given => (known given).1
  · intro text host given char listed
    have inside := (known given).2.1 char listed
    obtain ⟨dark, outside⟩ := (Url.isHostChar_iff char).mp inside
    refine ⟨dark, fun mark => outside ?_⟩
    have reserved : ['/', '\\', '?', '#', '@'].all (· ∈ Url.reserved) = true := rfl
    exact of_decide_eq_true (List.all_eq_true.mp reserved char mark)
  · exact fun text host given rest => Url.splitPort_append (known given).2.1 rest

/-- `bind -u`, with a scheme left out. -/
def upstreamOnly (text : Text) : Invocation :=
  .bind ⟨.absent, .absent, .value text, .absent, .absent, .absent, .absent⟩

/-- The URL of the upstream that the sample binds last. -/
def sampleUpstream : Server where
  scheme := "http".toList
  username := []
  password := []
  host := "localhost".toList
  port := some 8080
  path := ["v1".toList]
  query := some "q".toList
  fragment := none

/-- A run with a connection string and without a webview. -/
def sampleRun : RunArguments where
  endpoint := none
  hub := some "chat".toList
  upstream := none
  subscription := none
  resourceGroup := none
  webviewPort := none
  webviewHost := none
  noWebview := true
  connection := some "Endpoint=https://name;AccessKey=key".toList

/-- A `bind` before the last and a refused one behind it do not count. -/
theorem run_bound_sample : ∃ settings started,
    Settings.load ([upstreamOnly "first:1".toList,
        upstreamOnly "LocalHost:8080/api/../v1?q".toList, upstreamOnly "ftp://x".toList,
        .status].foldl (invoke plainHosts) none) = some settings ∧
      createRunCommand plainHosts ⟨none, none⟩ settings sampleRun = .ok started ∧
      started.upstream = sampleUpstream ∧
      started.currentUpstream = "http://localhost:8080/v1?q".toList := by
  have last : LastBound plainHosts [upstreamOnly "first:1".toList,
      upstreamOnly "LocalHost:8080/api/../v1?q".toList, upstreamOnly "ftp://x".toList, .status]
      sampleUpstream :=
    ⟨[upstreamOnly "first:1".toList], _, _, [upstreamOnly "ftp://x".toList, .status], rfl,
      by decide +kernel, rfl, by decide +kernel, by decide +kernel⟩
  obtain ⟨settings, read, -, runs⟩ := run_bound settledHosts_plain last
  obtain ⟨starts, proxies⟩ := runs ⟨none, none⟩ sampleRun rfl
  have reached : tunnelEndpoint plainHosts
      (.connectionString "Endpoint=https://name;AccessKey=key".toList) =
        .ok ⟨"https".toList, some "name".toList, none, .inl [[]], none⟩ := by decide +kernel
  obtain ⟨started, run⟩ :=
    starts.mpr ⟨by decide, rfl, ⟨_, _, rfl, reached⟩, rfl⟩
  obtain ⟨upstream, current⟩ := proxies started run
  exact ⟨settings, started, read, run, upstream, current⟩

end WebPubSub.Cli
