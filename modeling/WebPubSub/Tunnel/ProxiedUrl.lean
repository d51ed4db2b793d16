import WebPubSub.Packets
import WebPubSub.Library.Url

/-!
# Where a proxied request is sent

The URL that `sendHttpRequest` of `HttpServerProxy.ts` builds: only the path of the request
URL is taken, and it is resolved against the target as any other text would be. Hence the
query is lost, and a path that can be read as something else than a path leads elsewhere.

The target is a parsed URL of a server. The parser of hosts is left open.
-/

namespace WebPubSub.Tunnel

/-- `new URL(new URL(request.Url).pathname, target)`; it throws by giving `none`. -/
def proxiedUrl (hosts : Url.HostParser) (target : Url.Base) (requestUrl : Text) : Option Url :=
  (Url.parse hosts requestUrl).bind (fun url => Url.resolve hosts target url.pathname)

/-- The server that is called and the path that it is called with. -/
structure Destination where
  scheme : Text
  host : Text
  port : Option Nat
  path : Text
deriving DecidableEq

def http : Text := "http".toList

/-- `http.request` of a URL, which throws for any other scheme than that of the module. -/
def httpRequest (url : Url) : Option Destination :=
  if url.scheme = http then
    url.host.map (fun host => ⟨url.scheme, host, url.port, url.pathname ++ url.search⟩)
  else none

/-- Where `sendHttpRequest` sends a request, if it sends it. -/
def sentTo (hosts : Url.HostParser) (target : Url.Base) (requestUrl : Text) : Option Destination :=
  (proxiedUrl hosts target requestUrl).bind httpRequest

/-- The destination is the target, with the path and the query of the request URL. -/
structure Kept (target : Url.Base) (original : Url) (destination : Destination) : Prop where
  scheme : destination.scheme = target.scheme
  host : destination.host = target.host
  port : destination.port = target.port
  path : destination.path = original.pathname ++ original.search

/-- A path that is read as the same path again: one slash in front and no backslash. -/
structure Straight (pathname : Text) : Prop where
  rooted : pathname.head? = some '/'
  single : pathname.tail.head? ≠ some '/'
  plain : '\\' ∉ pathname

instance (pathname : Text) : Decidable (Straight pathname) :=
  decidable_of_iff (pathname.head? = some '/' ∧ pathname.tail.head? ≠ some '/' ∧ '\\' ∉ pathname)
    ⟨fun ⟨rooted, single, plain⟩ => ⟨rooted, single, plain⟩,
      fun ⟨rooted, single, plain⟩ => ⟨rooted, single, plain⟩⟩

section Resolved

variable {hosts : Url.HostParser} {target : Url.Base} {original resolved : Url}

theorem search_of_none {url : Url} (absent : url.query = none) : url.search = [] := by
  rw [Url.search, absent]

/-- A search is empty or starts with its question mark. -/
theorem search_cases (url : Url) : url.search = [] ∨ ∃ query, url.search = '?' :: query := by
  unfold Url.search
  split
  · exact Or.inl rfl
  · exact Or.inl rfl
  · exact Or.inr ⟨_, rfl⟩

/-- A straight path that was parsed is resolved to itself at the target. -/
theorem resolve_of_straight {requestUrl : Text} (parsed : Url.parse hosts requestUrl = some original)
    (straight : Straight original.pathname) :
    Url.resolve hosts target original.pathname =
      some ⟨target.scheme, some target.host, target.port, original.path, none⟩ := by
  obtain ⟨rooted, single, noBackslash⟩ := straight
  rcases Url.parse_path parsed with ⟨segments, path, plain⟩ | ⟨text, path, unrooted⟩
  · have shape : original.pathname = Url.joined segments := by rw [Url.pathname, path]; rfl
    rw [shape] at rooted single noBackslash ⊢
    cases segments with
    | nil => cases rooted
    | cons first others =>
      rw [path]
      apply Url.resolve_straight
      · intro segment listed
        obtain ⟨chars, singleDot, doubleDot⟩ := plain segment listed
        refine ⟨?_, singleDot, doubleDot⟩
        intro char inside
        have apart : char ≠ '\\' := by
          rintro rfl
          exact noBackslash (List.mem_flatMap.mpr ⟨segment, listed, List.mem_cons_of_mem _ inside⟩)
        exact Url.isPathChar_of_plain (chars char inside) apart
      · exact single
  · have shape : original.pathname = text := by rw [Url.pathname, path]
    exact absurd (shape ▸ rooted) unrooted

/-- A path that is not straight is resolved to another one. -/
theorem straight_of_resolve {requestUrl : Text} (parsed : Url.parse hosts requestUrl = some original)
    (given : Url.resolve hosts target original.pathname = some resolved)
    (scheme : resolved.scheme = target.scheme)
    (same : resolved.pathname ++ resolved.search = original.pathname ++ original.search) :
    original.search = [] ∧ Straight original.pathname := by
  have slash : resolved.pathname.head? = some '/' := Url.resolve_slash given scheme
  have rooted : original.pathname.head? = some '/' := by
    have front : (original.pathname ++ original.search).head? = some '/' := by
      rw [← same]
      cases path : resolved.pathname with
      | nil => rw [path] at slash; cases slash
      | cons first text => rw [path] at slash; exact slash
    cases path : original.pathname with
    | nil =>
      rw [path, List.nil_append] at front
      rcases search_cases original with none | ⟨query, some⟩
      · rw [none] at front
        cases front
      · rw [some] at front
        cases front
    | cons first text =>
      rw [path] at front
      exact front
  rcases Url.parse_path parsed with ⟨segments, path, plain⟩ | ⟨text, path, unrooted⟩
  · have shape : original.pathname = Url.joined segments := by rw [Url.pathname, path]; rfl
    have kept : ∀ char ∈ original.pathname, char = '/' ∨ Url.isPathChar false char = true := by
      intro char listed
      exact Url.mem_joined plain (shape ▸ listed)
    obtain ⟨text, opened⟩ : ∃ text, original.pathname = '/' :: text := by
      cases own : original.pathname with
      | nil => rw [own] at rooted; cases rooted
      | cons first text => rw [own] at rooted; exact ⟨text, by rw [Option.some.inj rooted]⟩
    rw [opened] at kept given
    rw [Url.resolve_path (fun char listed => kept char (List.mem_cons_of_mem _ listed))] at given
    obtain ⟨noQuery, others, path, reread⟩ := Url.relativeUrl_rooted given
    rw [search_of_none noQuery, List.append_nil] at same
    have straightChars : ∀ char ∈ original.pathname ++ original.search,
        char = '/' ∨ Url.isPathChar true char = true := by
      intro char listed
      rw [← same, Url.pathname, path] at listed
      exact Url.mem_joined reread listed
    have noSearch : original.search = [] := by
      rcases search_cases original with none | ⟨query, some⟩
      · exact none
      · have member : '?' ∈ original.pathname ++ original.search := by
          rw [some]
          exact List.mem_append_right _ List.mem_cons_self
        cases straightChars '?' member with
        | inl slash => cases slash
        | inr visible => cases visible
    have noBackslash : '\\' ∉ original.pathname := by
      intro backslash
      cases straightChars '\\' (List.mem_append_left _ backslash) with
      | inl slash => cases slash
      | inr visible => cases visible
    refine ⟨noSearch, rooted, ?_, noBackslash⟩
    rw [opened]
    intro doubled
    obtain ⟨more, rfl⟩ : ∃ more, text = '/' :: more := by
      cases text with
      | nil => cases doubled
      | cons second more => exact ⟨more, by rw [Option.some.inj doubled]⟩
    have shorter : resolved.pathname.length < more.length + 2 := by
      apply Url.length_doubled _ given
      intro char listed
      rw [opened] at straightChars
      exact straightChars char (List.mem_append_left _
        (List.mem_cons_of_mem _ (List.mem_cons_of_mem _ listed)))
    rw [same, noSearch, opened, List.append_nil] at shorter
    simp at shorter
  · have shape : original.pathname = text := by rw [Url.pathname, path]
    exact absurd (shape ▸ rooted) unrooted

/-- A request is sent to the target with its path and query exactly when the target is an
`http` server, the query is empty, and the path is straight. -/
theorem proxied_request_kept (hosts : Url.HostParser) (target : Url.Base) {requestUrl : Text}
    {original : Url} (absolute : Url.parse hosts requestUrl = some original) :
    (∃ destination ∈ sentTo hosts target requestUrl, Kept target original destination) ↔
      target.scheme = http ∧ original.search = [] ∧ Straight original.pathname := by
  constructor
  · rintro ⟨destination, sent, kept⟩
    obtain ⟨resolved, built, called⟩ := Option.bind_eq_some_iff.mp sent
    have given : Url.resolve hosts target original.pathname = some resolved := by
      simpa [proxiedUrl, absolute] using built
    obtain ⟨plainHttp, called⟩ := Option.ite_none_right_eq_some.mp called
    obtain ⟨host, -, rfl⟩ := Option.map_eq_some_iff.mp called
    have scheme : resolved.scheme = target.scheme := kept.scheme
    rw [← scheme]
    exact ⟨plainHttp, straight_of_resolve absolute given scheme kept.path⟩
  · rintro ⟨plainHttp, noSearch, straight⟩
    have built : proxiedUrl hosts target requestUrl =
        some ⟨target.scheme, some target.host, target.port, original.path, none⟩ := by
      rw [proxiedUrl, absolute, Option.bind_some, resolve_of_straight absolute straight]
    have path : Url.pathname ⟨target.scheme, some target.host, target.port, original.path, none⟩ =
      original.pathname := rfl
    refine ⟨⟨target.scheme, target.host, target.port, original.pathname ++ []⟩, ?_, rfl, rfl, rfl, ?_⟩
    · rw [Option.mem_def, sentTo, built, Option.bind_some, httpRequest, if_pos plainHttp]
      rfl
    · rw [noSearch]

/-- A parser of hosts that have no other characters than letters, digits, dots and hyphens. -/
def plainHosts : Url.HostParser := fun _ host =>
  if host.all (fun char => char.isAlphanum || ['.', '-'].contains char) then some (Url.lower host)
  else none

/-- A server on the local machine. -/
def localServer : Url.Base :=
  ⟨http, "localhost".toList, some 3000, [[]], none, rfl, rfl, by decide⟩

theorem proxied_request_kept_hook :
    ∃ destination ∈ sentTo plainHosts localServer "tunnel:///eventhandler".toList,
      Kept localServer ⟨"tunnel".toList, some [], none, .inl ["eventhandler".toList], none⟩
        destination := by
  have absolute : Url.parse plainHosts "tunnel:///eventhandler".toList =
      some ⟨"tunnel".toList, some [], none, .inl ["eventhandler".toList], none⟩ := by decide +kernel
  apply (proxied_request_kept plainHosts localServer absolute).mpr
  decide +kernel

/-- A path with two slashes in front is sent to the host that it names, and a query is lost. -/
theorem proxied_request_leaves :
    (∃ original, Url.parse plainHosts "http://service//attacker.example/hook".toList =
        some original ∧
      sentTo plainHosts localServer "http://service//attacker.example/hook".toList =
        some ⟨http, "attacker.example".toList, none, "/hook".toList⟩ ∧
      ¬∃ destination ∈ sentTo plainHosts localServer "http://service//attacker.example/hook".toList,
        Kept localServer original destination) ∧
    ∃ original, Url.parse plainHosts "http://service/hook?code=secret".toList = some original ∧
      sentTo plainHosts localServer "http://service/hook?code=secret".toList =
        some ⟨http, "localhost".toList, some 3000, "/hook".toList⟩ ∧
      ¬∃ destination ∈ sentTo plainHosts localServer "http://service/hook?code=secret".toList,
        Kept localServer original destination := by
  constructor
  · have sent : sentTo plainHosts localServer "http://service//attacker.example/hook".toList =
        some ⟨http, "attacker.example".toList, none, "/hook".toList⟩ := by decide +kernel
    refine ⟨⟨http, some "service".toList, none,
      .inl [[], "attacker.example".toList, "hook".toList], none⟩, by decide +kernel, sent, ?_⟩
    rintro ⟨destination, found, kept⟩
    obtain rfl := Option.some.inj (sent.symm.trans found)
    exact absurd kept.host (by decide)
  · have sent : sentTo plainHosts localServer "http://service/hook?code=secret".toList =
        some ⟨http, "localhost".toList, some 3000, "/hook".toList⟩ := by decide +kernel
    refine ⟨⟨http, some "service".toList, none, .inl ["hook".toList],
      some "code=secret".toList⟩, by decide +kernel, sent, ?_⟩
    rintro ⟨destination, found, kept⟩
    obtain rfl := Option.some.inj (sent.symm.trans found)
    exact absurd kept.path (by decide)

end Resolved

end WebPubSub.Tunnel
