import WebPubSub.Tunnel.Addresses

/-!
# The reverse proxy

A connection that is created with a reverse proxy is to connect its clients to nothing else,
with the query of the service and tokens for the service. `runAsync` hands the proxy on; the
orders of the service do not, so a client that a Reconnect or a Rebalance creates connects to
the service itself. What the query and the audience are does not depend on the proxy.

A proxy without a port keeps its port only under a scheme whose default is that of the scheme
it is mapped to.
-/

namespace WebPubSub.Tunnel

/-! ## One URL -/

/-- The scheme that a scheme is mapped to. -/
def mappedScheme (scheme : Text) : Text :=
  if scheme = "http".toList then "ws".toList else "wss".toList

/-- The URL has the host and the port of the proxy, and the scheme that its scheme is mapped to. -/
structure Leads (proxy url : Url) : Prop where
  host : url.host = proxy.host
  port : url.effectivePort = proxy.effectivePort
  scheme : url.scheme = mappedScheme proxy.scheme

/-- A proxy whose scheme can be mapped without a change of its port. -/
structure Mappable (proxy : Url) : Prop where
  special : Url.isSpecial proxy.scheme = true
  remote : ¬(Url.isFile proxy.scheme = true ∧ proxy.host = some [])
  port : proxy.scheme ∈ ["http".toList, "https".toList, "wss".toList] ∨ proxy.port ≠ none

section Urls

variable {proxy url other : Url}

/-- Where a URL leads is a matter of its scheme, its host and its port. -/
theorem leads_congr (scheme : url.scheme = other.scheme) (host : url.host = other.host)
    (port : url.port = other.port) : Leads proxy url ↔ Leads proxy other := by
  have effective : url.effectivePort = other.effectivePort := by
    rw [Url.effectivePort, Url.effectivePort, scheme, port]
  constructor
  · intro leads
    exact ⟨host ▸ leads.host, effective ▸ leads.port, scheme ▸ leads.scheme⟩
  · intro leads
    exact ⟨host.trans leads.host, effective.trans leads.port, scheme.trans leads.scheme⟩

theorem leads_setSearch (text : Text) : Leads proxy (url.setSearch text) ↔ Leads proxy url :=
  leads_congr rfl rfl rfl

theorem leads_setPathname (text : Text) : Leads proxy (url.setPathname text) ↔ Leads proxy url :=
  leads_congr (by simp) (by simp) (by simp)

/-- The port stays when there is one, and otherwise the two schemes must have one default. -/
theorem or_defaultPort (before : Text) {scheme : Text} (port : Option Nat)
    (chosen : Url.defaultPort scheme ≠ none) :
    (if port = Url.defaultPort scheme then none else port).or (Url.defaultPort scheme) =
        port.or (Url.defaultPort before) ↔
      port ≠ none ∨ Url.defaultPort scheme = Url.defaultPort before := by
  cases port with
  | none => simp [chosen.symm]
  | some port =>
    by_cases same : some port = Url.defaultPort scheme
    · simp [same.symm]
    · simp [same]

theorem mappedScheme_special (scheme : Text) :
    Url.isSpecial (mappedScheme scheme) = true ∧ Url.isFile (mappedScheme scheme) = false ∧
      Url.defaultPort (mappedScheme scheme) ≠ none := by
  unfold mappedScheme
  split <;> decide

/-- Among the special schemes, three are mapped to one of the same default port. -/
theorem defaultPort_mappedScheme {scheme : Text} (special : Url.isSpecial scheme = true) :
    Url.defaultPort (mappedScheme scheme) = Url.defaultPort scheme ↔
      scheme ∈ ["http".toList, "https".toList, "wss".toList] := by
  have all : ∀ scheme ∈ Url.specialSchemes.map Prod.fst,
      (Url.defaultPort (mappedScheme scheme) = Url.defaultPort scheme ↔
        scheme ∈ ["http".toList, "https".toList, "wss".toList]) := by decide
  exact all scheme (List.contains_iff_mem.mp special)

/-- The proxy is reached under the scheme that is set exactly when it can be mapped. -/
theorem leads_tunnelEndpoint : Leads proxy (tunnelEndpoint proxy) ↔ Mappable proxy := by
  have mapping := mappedScheme_special proxy.scheme
  have endpoint : tunnelEndpoint proxy = (proxy.setProtocol (mappedScheme proxy.scheme)).setPathname
      (appendPath (proxy.setProtocol (mappedScheme proxy.scheme)).pathname
        "server/tunnel".toList) := rfl
  rw [endpoint, leads_setPathname]
  by_cases kept : Url.isSpecial proxy.scheme = false ∨
      (Url.isFile proxy.scheme = true ∧ proxy.host = some [])
  · have unchanged : proxy.setProtocol (mappedScheme proxy.scheme) = proxy := if_pos kept
    rw [unchanged]
    constructor
    · intro leads
      have mapped : proxy.scheme = mappedScheme proxy.scheme := leads.scheme
      rw [← mapped] at mapping
      rcases kept with plain | ⟨file, -⟩
      · cases plain.symm.trans mapping.1
      · cases file.symm.trans mapping.2.1
    · intro mappable
      cases kept with
      | inl plain => cases plain.symm.trans mappable.special
      | inr file => exact absurd file mappable.remote
  · obtain ⟨special, remote⟩ := not_or.mp kept
    have special : Url.isSpecial proxy.scheme = true := by simpa using special
    have changed : proxy.setProtocol (mappedScheme proxy.scheme) = { proxy with
        scheme := mappedScheme proxy.scheme
        port := if proxy.port = Url.defaultPort (mappedScheme proxy.scheme) then none
          else proxy.port } := if_neg kept
    have ports := or_defaultPort proxy.scheme proxy.port mapping.2.2
    rw [changed]
    constructor
    · intro leads
      refine ⟨special, remote, ?_⟩
      exact (ports.mp leads.port).symm.imp_left (defaultPort_mappedScheme special).mp
    · intro mappable
      refine ⟨rfl, ports.mpr ?_, rfl⟩
      exact (mappable.port.imp_left (defaultPort_mappedScheme special).mpr).symm

end Urls

/-! ## The query and the audience -/

/-- The query that a service, a hub and a target give, before it is encoded. -/
def plainQuery (service : Url) (hub : Text) (target : Option Text) : Text :=
  (match service.search with
    | [] => []
    | _ :: query => query ++ ['&']) ++
  ("hub=".toList ++ Url.encodeURIComponent hub) ++
  match given target with
    | some target => "&target=".toList ++ Url.encodeURIComponent target
    | none => []

section Query

variable (service : Url) (hub : Text) (target : Option Text)

theorem search_tail (url : Url) : url.search.tail = url.query.getD [] := by
  unfold Url.search
  split <;> simp_all

theorem search_ne_nil {url : Url} {query : Text} (set : url.query = some query)
    (nonempty : query ≠ []) : url.search ≠ [] := by
  obtain ⟨first, rest, rfl⟩ := List.exists_cons_of_ne_nil nonempty
  simp [Url.search, set]

theorem tunnelEndpoint_query : (tunnelEndpoint service).query = service.query := by
  simp [tunnelEndpoint]

theorem tunnelEndpoint_host : (tunnelEndpoint service).host = service.host := by
  simp [tunnelEndpoint]

/-- A query that names the hub is not empty. -/
theorem encodeQuery_hub (special : Bool) (before after : Text) :
    Url.encodeQuery special (before ++ ("hub=".toList ++ after)) ≠ [] := by
  have kept : Url.encodeQuery special "hub=".toList = "hub=".toList := by
    cases special <;> decide
  rw [Url.encodeQuery_append, Url.encodeQuery_append, kept]
  simp

/-- A parameter that is added to a query is encoded with it. -/
theorem setSearch_append {url : Url} {query : Text} (after : Text)
    (set : url.query = some (Url.encodeQuery (Url.isSpecial url.scheme) query))
    (nonempty : Url.encodeQuery (Url.isSpecial url.scheme) query ≠ []) :
    (url.setSearch (url.search ++ after)).query =
      some (Url.encodeQuery (Url.isSpecial url.scheme) (query ++ after)) := by
  have tail : (url.search ++ after).tail =
      Url.encodeQuery (Url.isSpecial url.scheme) query ++ after := by
    rw [List.tail_append_of_ne_nil (search_ne_nil set nonempty), search_tail, set]
    rfl
  simp only [Url.setSearch]
  rw [tail, Url.encodeQuery_append, Url.encodeQuery_encodeQuery, Bool.or_self,
    ← Url.encodeQuery_append]

/-- The query that is set, encoded for the scheme of the URL. -/
theorem addQuery_query : (addQuery (tunnelEndpoint service) hub target).query =
    some (Url.encodeQuery (Url.isSpecial (tunnelEndpoint service).scheme)
      (plainQuery service hub target)) := by
  have search : (tunnelEndpoint service).search = service.search := by
    rw [Url.search, tunnelEndpoint_query, ← Url.search]
  unfold addQuery plainQuery
  dsimp only
  rw [search]
  generalize base : (match service.search with
    | [] => []
    | _ :: query => query ++ ['&']) = before
  generalize named : (if service.search = [] then
      (tunnelEndpoint service).setSearch ('?' :: ("hub=".toList ++ Url.encodeURIComponent hub))
    else (tunnelEndpoint service).setSearch
      (service.search ++ '&' :: ("hub=".toList ++ Url.encodeURIComponent hub))) = url
  have scheme : url.scheme = (tunnelEndpoint service).scheme := by
    rw [← named]
    split <;> rfl
  have query : url.query = some (Url.encodeQuery (Url.isSpecial (tunnelEndpoint service).scheme)
      (before ++ ("hub=".toList ++ Url.encodeURIComponent hub))) := by
    rw [← named, ← base]
    cases service.search with
    | nil => rfl
    | cons mark rest =>
      rw [if_neg (List.cons_ne_nil _ _)]
      simp [Url.setSearch]
  rw [← scheme] at query ⊢
  cases given target with
  | none => rwa [List.append_nil]
  | some target => exact setSearch_append _ query (encodeQuery_hub _ _ _)

theorem addQuery_keeps (url : Url) : (addQuery url hub target).scheme = url.scheme ∧
    (addQuery url hub target).host = url.host ∧ (addQuery url hub target).port = url.port := by
  unfold addQuery
  split <;> split <;> exact ⟨rfl, rfl, rfl⟩

end Query

/-! ## Clients -/

/-- The query a client connects with and the audience of its token are those of its service
endpoint and its target. -/
structure Derived (settings : Settings) (service : Url) (client : TunnelClient) : Prop where
  host : client.url.endpoint.host = service.host
  query : client.url.connected.query =
    some (Url.encodeQuery
      (Url.isSpecial client.url.connected.scheme || Url.isSpecial client.url.endpoint.scheme)
      (plainQuery service settings.hub client.target.target))
  audience : ∀ key subject audience,
    getToken client.url.endpoint client.userId settings.credential = .signed key subject audience →
      audience = (addQuery (tunnelEndpoint service) settings.hub client.target.target).href

/-- The client connects to the proxy, for its own service. -/
structure Proxied (hosts : Url.HostParser) (settings : Settings) (proxy : Url)
    (client : TunnelClient) : Prop where
  leads : Leads proxy client.url.connected
  derived : ∃ service, Url.parse hosts (serviceEndpoint settings client.target) = some service ∧
    Derived settings service client

section Clients

variable {hosts : Url.HostParser} {settings : Settings} {proxy : Url}
  {target : ConnectionTarget} {url : ClientUrl}

/-- The two URLs, and where they come from. -/
theorem getUrl_cases (found : getUrl hosts settings target = some url) :
    ∃ service, Url.parse hosts (serviceEndpoint settings target) = some service ∧
      url.endpoint = addQuery (tunnelEndpoint service) settings.hub target.target ∧
      (given target.reverseProxyEndpoint = none ∧ url.reverseProxyEndpoint = none ∨
        ∃ reverseProxy, (given target.reverseProxyEndpoint).bind (Url.parse hosts) =
            some reverseProxy ∧
          url.reverseProxyEndpoint =
            some ((tunnelEndpoint reverseProxy).setSearch url.endpoint.search)) := by
  obtain ⟨service, parsed, built⟩ := Option.bind_eq_some_iff.mp found
  cases through : given target.reverseProxyEndpoint with
  | none =>
    simp only [through, Option.some.injEq] at built
    subst built
    exact ⟨service, parsed, rfl, Or.inl ⟨rfl, rfl⟩⟩
  | some endpoint =>
    simp only [through] at built
    obtain ⟨reverseProxy, read, rfl⟩ := Option.map_eq_some_iff.mp built
    exact ⟨service, parsed, rfl, Or.inr ⟨reverseProxy, read, rfl⟩⟩

/-- The query and the audience are derived from the service on every path. -/
theorem derived_of_getUrl (found : getUrl hosts settings target = some url) :
    ∃ service, Url.parse hosts (serviceEndpoint settings target) = some service ∧
      Derived settings service ⟨url, settings.id, target⟩ := by
  obtain ⟨service, parsed, endpoint, path⟩ := getUrl_cases found
  obtain ⟨scheme, host, -⟩ := addQuery_keeps settings.hub target.target (tunnelEndpoint service)
  have query := addQuery_query service settings.hub target.target
  refine ⟨service, parsed, ⟨?_, ?_, ?_⟩⟩
  · rw [endpoint, host, tunnelEndpoint_host]
  · rcases path with ⟨-, direct⟩ | ⟨reverseProxy, -, through⟩
    · have connected : url.connected = url.endpoint := by rw [ClientUrl.connected, direct]; rfl
      dsimp only
      rw [connected, Bool.or_self, endpoint, scheme]
      exact query
    · have connected : url.connected =
          (tunnelEndpoint reverseProxy).setSearch url.endpoint.search := by
        rw [ClientUrl.connected, through]; rfl
      dsimp only
      rw [connected, Url.setSearch_scheme, endpoint, scheme, Url.setSearch]
      dsimp only
      rw [search_tail, query, Option.getD_some, Url.encodeQuery_encodeQuery]
  · intro key subject audience token
    cases kind : settings.credential with
    | key secret =>
      simp only [kind, getToken, Token.signed.injEq] at token
      rw [← token.2.2, endpoint]
    | token =>
      simp only [kind, getToken, reduceCtorEq] at token

/-- Of a client that is created, only where it connects to is in question. -/
theorem proxied_iff_leads (found : getUrl hosts settings target = some url) :
    Proxied hosts settings proxy ⟨url, settings.id, target⟩ ↔ Leads proxy url.connected :=
  ⟨Proxied.leads, fun leads => ⟨leads, derived_of_getUrl found⟩⟩

/-- A client of `runAsync` reaches the proxy exactly when the proxy can be mapped. -/
theorem leads_own (through : (given settings.reverseProxyEndpoint).bind (Url.parse hosts) = some proxy)
    (found : getUrl hosts settings (Addressed.ownTarget settings) = some url) :
    Leads proxy url.connected ↔ Mappable proxy := by
  obtain ⟨-, -, -, ⟨absent, -⟩ | ⟨reverseProxy, read, set⟩⟩ := getUrl_cases found
  · have none_given : given settings.reverseProxyEndpoint = none := absent
    rw [none_given] at through
    cases through
  · obtain rfl : proxy = reverseProxy := Option.some.inj (through.symm.trans read)
    have connected : url.connected = (tunnelEndpoint proxy).setSearch url.endpoint.search := by
      rw [ClientUrl.connected, set]
      rfl
    rw [connected, leads_setSearch, leads_tunnelEndpoint]

/-- The service endpoint of an order is itself at the address of the proxy. -/
def AtProxy (hosts : Url.HostParser) (settings : Settings) (proxy : Url) (order : Order) : Prop :=
  ∀ service, Url.parse hosts (serviceEndpoint settings order.target) = some service →
    Leads proxy (tunnelEndpoint service)

/-- A client of an order reaches the proxy exactly when its service endpoint is there. -/
theorem leads_order (order : Order) :
    (∀ url, getUrl hosts settings order.target = some url → Leads proxy url.connected) ↔
      AtProxy hosts settings proxy order := by
  have at_service (service : Url) :
      Leads proxy (addQuery (tunnelEndpoint service) settings.hub order.target.target) ↔
        Leads proxy (tunnelEndpoint service) := by
    obtain ⟨scheme, host, port⟩ :=
      addQuery_keeps settings.hub order.target.target (tunnelEndpoint service)
    exact leads_congr scheme host port
  constructor
  · intro all service parsed
    have found : getUrl hosts settings order.target =
        some ⟨addQuery (tunnelEndpoint service) settings.hub order.target.target, none⟩ := by
      rw [getUrl, parsed]
      rfl
    exact (at_service service).mp (all _ found)
  · intro near url found
    obtain ⟨service, parsed, endpoint, ⟨-, direct⟩ | ⟨reverseProxy, read, -⟩⟩ := getUrl_cases found
    · have connected : url.connected = url.endpoint := by
        rw [ClientUrl.connected, direct]
        rfl
      rw [connected, endpoint]
      exact (at_service service).mpr (near service parsed)
    · cases read

/-! ## Runs -/

/-- A step that creates a client keeps to the proxy: for `runAsync` the proxy can be mapped, and
for an order the service endpoint is itself at the address of the proxy. -/
def KeepsProxy (hosts : Url.HostParser) (settings : Settings) (proxy : Url) (state : Addressed) :
    AddressedEvent → Prop
  | .run => (getUrl hosts settings (Addressed.ownTarget settings)).isSome → Mappable proxy
  | .reconnected => state.connection.stopped = false →
      ∀ order ∈ state.reconnects.head?, AtProxy hosts settings proxy order
  | .rebalance _ order => state.connection.stopped = false → AtProxy hosts settings proxy order
  | _ => True

/-- Every client that was created connects to the proxy. -/
def AllProxied (hosts : Url.HostParser) (settings : Settings) (proxy : Url)
    (state : Addressed) : Prop :=
  ∀ client ∈ state.clients, Proxied hosts settings proxy client

/-- What starting a client adds to the clients. -/
theorem startConnection_proxied (state : Addressed) (target : ConnectionTarget)
    (retriesForever : Bool) :
    AllProxied hosts settings proxy
        (Addressed.startConnection hosts settings state target retriesForever) ↔
      AllProxied hosts settings proxy state ∧ (state.connection.stopped = false →
        ∀ url, getUrl hosts settings target = some url → Leads proxy url.connected) := by
  unfold Addressed.startConnection
  cases stopped : state.connection.stopped with
  | true => simp
  | false =>
    cases found : getUrl hosts settings target with
    | none => simp
    | some url => simp [AllProxied, proxied_iff_leads found, or_imp, forall_and]

/-- Each step keeps all clients at the proxy exactly under the condition. -/
theorem step_proxied
    (through : (given settings.reverseProxyEndpoint).bind (Url.parse hosts) = some proxy)
    {state next : Addressed} {event : AddressedEvent} {added : List Output}
    (stepped : (Addressed.machine hosts settings).step state event = some (next, added)) :
    AllProxied hosts settings proxy next ↔
      AllProxied hosts settings proxy state ∧ KeepsProxy hosts settings proxy state event := by
  simp only [Addressed.machine, Addressed.step] at stepped
  cases event with
  | run =>
    obtain ⟨rfl, -⟩ := Prod.mk.inj (Option.some.inj stepped)
    rw [startConnection_proxied]
    refine and_congr_right (fun _ => ?_)
    constructor
    · intro all parsed
      obtain ⟨url, found⟩ := Option.isSome_iff_exists.mp parsed
      exact (leads_own through found).mp (all rfl url found)
    · intro mappable _ url found
      exact (leads_own through found).mpr (mappable (Option.isSome_iff_exists.mpr ⟨url, found⟩))
  | reconnect client order =>
    simp [Option.bind_eq_some_iff] at stepped
    obtain ⟨-, rfl, -⟩ := stepped
    exact (and_iff_left trivial).symm
  | reconnected =>
    cases due : state.reconnects with
    | nil =>
      rw [due] at stepped
      cases stepped
    | cons order rest =>
      rw [due] at stepped
      obtain ⟨rfl, -⟩ := Prod.mk.inj (Option.some.inj stepped)
      rw [startConnection_proxied]
      refine and_congr_right (fun _ => ?_)
      simp [KeepsProxy, due, leads_order]
  | rebalance client order =>
    simp [Option.bind_eq_some_iff] at stepped
    obtain ⟨-, rfl, -⟩ := stepped
    rw [startConnection_proxied]
    refine and_congr_right (fun _ => ?_)
    simp [KeepsProxy, leads_order]
  | other event =>
    dsimp only at stepped
    split at stepped
    · cases stepped
    · obtain ⟨result, -, same⟩ := Option.map_eq_some_iff.mp stepped
      cases same
      exact (and_iff_left trivial).symm

variable (hosts settings)

/-- In every run of a connection with a reverse proxy, all clients connect to the proxy exactly
when every step that creates one keeps to it. -/
theorem proxy_kept_iff
    (through : (given settings.reverseProxyEndpoint).bind (Url.parse hosts) = some proxy)
    {events : List AddressedEvent} {final : Addressed} {outputs : List Output}
    (ran : (Addressed.machine hosts settings).run Addressed.initial events =
      some (final, outputs)) :
    AllProxied hosts settings proxy final ↔
      (Addressed.machine hosts settings).Meets (KeepsProxy hosts settings proxy)
        Addressed.initial events := by
  have start : AllProxied hosts settings proxy Addressed.initial := List.forall_mem_nil _
  rw [Machine.meets_iff_of_step _
    (fun state event next added stepped => step_proxied through stepped) ran]
  exact and_iff_right start

end Clients

/-- A connection at one address with a proxy at another. -/
def proxiedSettings : Settings :=
  ⟨"id".toList, "https://service".toList, .key "key".toList, "hub".toList,
    some "https://proxy".toList⟩

/-- A parser of hosts that are plain names. -/
def verbatimHosts : Url.HostParser := fun _ text => some text

/-- The URL of the proxy. -/
def proxyUrl : Url := ⟨"https".toList, some "proxy".toList, none, .inl [[]], none⟩

/-- The state after `runAsync`. -/
def ranState : Addressed :=
  Addressed.startConnection verbatimHosts proxiedSettings
    { Addressed.initial with connection := { State.initial with stopped := false } }
    (Addressed.ownTarget proxiedSettings) false

theorem proxy_kept_run :
    AllProxied verbatimHosts proxiedSettings proxyUrl ranState ↔
      (Addressed.machine verbatimHosts proxiedSettings).Meets
        (KeepsProxy verbatimHosts proxiedSettings proxyUrl) Addressed.initial [.run] :=
  proxy_kept_iff verbatimHosts proxiedSettings (by decide +kernel) rfl

/-- A client that an order to rebalance creates connects past the proxy. -/
theorem rebalance_bypasses :
    ∃ final outputs, (Addressed.machine verbatimHosts proxiedSettings).run Addressed.initial
        [.run, .rebalance 0 ⟨"target".toList, "https://other".toList⟩] = some (final, outputs) ∧
      (given proxiedSettings.reverseProxyEndpoint).bind (Url.parse verbatimHosts) = some proxyUrl ∧
      ¬AllProxied verbatimHosts proxiedSettings proxyUrl final := by
  have reached : ((Addressed.machine verbatimHosts proxiedSettings).run Addressed.initial
      [.run, .rebalance 0 ⟨"target".toList, "https://other".toList⟩]).map (fun result =>
        result.1.clients.map (fun client => client.url.connected.host)) =
      some [some "proxy".toList, some "other".toList] := by decide +kernel
  obtain ⟨result, ran, connected⟩ := Option.map_eq_some_iff.mp reached
  refine ⟨result.1, result.2, ran, by decide +kernel, fun all => ?_⟩
  have listed : some "other".toList ∈
      result.1.clients.map (fun client => client.url.connected.host) := by simp [connected]
  obtain ⟨client, created, past⟩ := List.mem_map.mp listed
  have kept := (all client created).leads.host
  rw [past] at kept
  exact absurd kept (by decide)

end WebPubSub.Tunnel
