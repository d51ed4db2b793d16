import WebPubSub.Library.UrlSetters

/-!
# URLs of a host

What the constructor of `URL` makes of a scheme of letters, two slashes and a host name, and of
such a text behind a further scheme: the inner scheme is then the host, and the host name stands
in the path.

A host name here begins with no dot and holds no character that ends a host or that a URL
drops; whether a name with other characters is a host is up to the parser of hosts.
-/

namespace Url

/-- The characters that end a host, and those that are not read as they stand. -/
def reserved : List Char := ['/', '\\', '?', '#', '@', ':', '[', ']', '%']

/-- A character that is inside a host wherever it stands. -/
def isHostChar (char : Char) : Bool := !isBlank char && char ∉ reserved

structure HostName (host : List Char) : Prop where
  started : ∃ first rest, host = first :: rest ∧ first ≠ '.'
  plain : ∀ char ∈ host, isHostChar char = true

theorem isHostChar_iff (char : Char) :
    isHostChar char = true ↔ isBlank char = false ∧ char ∉ reserved := by
  simp [isHostChar]

theorem ne_of_isHostChar {char other : Char} (inside : isHostChar char = true)
    (listed : other ∈ reserved) : char ≠ other := by
  rintro rfl
  exact ((isHostChar_iff char).mp inside).2 listed

/-! ## Letters -/

theorem isAlpha_iff (char : Char) : char.isAlpha = true ↔
    (65 ≤ char.toNat ∧ char.toNat ≤ 90) ∨ (97 ≤ char.toNat ∧ char.toNat ≤ 122) := by
  have ranges : char.isAlpha = (decide (65 ≤ char.val ∧ char.val ≤ 90) ||
      (decide (97 ≤ char.val) && decide (char.val ≤ 122))) := rfl
  rw [ranges]
  simp only [Bool.or_eq_true, Bool.and_eq_true, decide_eq_true_eq, UInt32.le_iff_toNat_le]
  rfl

/-- A character stays in lower case unless it is a capital letter. -/
theorem toLower_cases (char : Char) : char.toLower = char ∨
    (65 ≤ char.toNat ∧ char.toNat ≤ 90 ∧ char.toLower.toNat = char.toNat + 32) := by
  unfold Char.toLower
  split
  · rename_i capital
    obtain ⟨above, below⟩ := capital
    rw [ge_iff_le, UInt32.le_iff_toNat_le] at above
    rw [UInt32.le_iff_toNat_le] at below
    have least : 65 ≤ char.toNat := above
    have most : char.toNat ≤ 90 := below
    refine Or.inr ⟨least, most, ?_⟩
    have value : char.toNat = char.val.toNat := rfl
    have sum : (char.val + ('a'.val - 'A'.val)).toNat = (char.val.toNat + 32) % 4294967296 :=
      UInt32.toNat_add _ _
    exact sum.trans (by omega)
  · exact Or.inl rfl

theorem isAlpha_toLower (char : Char) : char.toLower.isAlpha = char.isAlpha := by
  obtain same | ⟨above, below, shifted⟩ := toLower_cases char
  · rw [same]
  · rw [(isAlpha_iff char).mpr (Or.inl ⟨above, below⟩)]
    exact (isAlpha_iff _).mpr (Or.inr (by omega))

/-- What is no letter has no other case. -/
theorem toLower_eq_iff {char other : Char} (mark : other.isAlpha = false) :
    char.toLower = other ↔ char = other := by
  have kept (char : Char) (mark : char.isAlpha = false) : char.toLower = char := by
    obtain same | ⟨above, below, -⟩ := toLower_cases char
    · exact same
    · rw [(isAlpha_iff char).mpr (Or.inl ⟨above, below⟩)] at mark
      cases mark
  constructor
  · intro same
    rw [← same]
    exact (kept char (by rw [← isAlpha_toLower, same, mark])).symm
  · rintro rfl
    exact kept char mark

theorem isHostChar_of_isAlpha {char : Char} (letter : char.isAlpha = true) :
    isHostChar char = true := by
  apply (isHostChar_iff char).mpr
  constructor
  · have values := (isAlpha_iff char).mp letter
    simp only [isBlank, decide_eq_false_iff_not, Nat.not_le]
    omega
  · intro listed
    have foreign : reserved.all (fun other => !other.isAlpha) = true := rfl
    have apart := List.all_eq_true.mp foreign char listed
    rw [letter] at apart
    cases apart

/-! ## Schemes -/

theorem schemeState_append {scheme : List Char} (letters : ∀ char ∈ scheme, char.isAlpha = true)
    (buffer rest : List Char) :
    schemeState buffer (scheme ++ ':' :: rest) = some (buffer ++ lower scheme, rest) := by
  induction scheme generalizing buffer with
  | nil => simp [schemeState, lower]
  | cons char scheme inductionHypothesis =>
    obtain ⟨here, others⟩ := List.forall_mem_cons.mp letters
    have apart : char ≠ ':' := by
      rintro rfl
      cases here
    have word : char.isAlphanum = true := by simp [Char.isAlphanum, here]
    rw [List.cons_append, schemeState, if_neg apart, if_pos (by simp [word]),
      inductionHypothesis others]
    simp [lower]

/-- A scheme of letters is read up to its colon, in lower case. -/
theorem splitScheme_append {scheme : List Char} (nonempty : scheme ≠ [])
    (letters : ∀ char ∈ scheme, char.isAlpha = true) (rest : List Char) :
    splitScheme (scheme ++ ':' :: rest) = some (lower scheme, rest) := by
  obtain ⟨first, others, rfl⟩ := List.exists_cons_of_ne_nil nonempty
  obtain ⟨here, later⟩ := List.forall_mem_cons.mp letters
  rw [List.cons_append, splitScheme, if_pos here, schemeState_append later]
  rfl

/-- Without a colon there is no scheme. -/
theorem splitScheme_none {text : List Char} (absent : ':' ∉ text) : splitScheme text = none := by
  have state (buffer rest : List Char) (absent : ':' ∉ rest) : schemeState buffer rest = none := by
    induction rest generalizing buffer with
    | nil => rfl
    | cons char rest inductionHypothesis =>
      obtain ⟨apart, others⟩ := List.ne_and_not_mem_of_not_mem_cons absent
      rw [schemeState, if_neg apart.symm, inductionHypothesis _ others, ite_self]
  cases text with
  | nil => rfl
  | cons first rest =>
    rw [splitScheme, state _ _ (List.ne_and_not_mem_of_not_mem_cons absent).2, ite_self]

/-! ## Authorities -/

section Hosts

variable {hosts : HostParser} {scheme host : List Char}

/-- A character that is reserved is in no host name. -/
theorem not_mem_of_plain (plain : ∀ char ∈ host, isHostChar char = true) {other : Char}
    (listed : other ∈ reserved) : other ∉ host :=
  fun inside => ne_of_isHostChar (plain other inside) listed rfl

theorem HostName.ne_nil (name : HostName host) : host ≠ [] := by
  obtain ⟨first, rest, rfl, -⟩ := name.started
  exact List.cons_ne_nil _ _

theorem afterCredentials_none (absent : '@' ∉ host) : afterCredentials host = some host := by
  have all : host.reverse.takeWhile (fun char => char ≠ '@') = host.reverse := by
    apply List.takeWhile_eq_self_iff.mpr
    intro char listed
    have apart : char ≠ '@' := by
      rintro rfl
      exact absent (List.mem_reverse.mp listed)
    simpa using apart
  simp only [afterCredentials, all, List.reverse_reverse, absent, false_and, if_false]

/-- A host is read whole, whatever stands behind it. -/
theorem splitPort_append (plain : ∀ char ∈ host, isHostChar char = true) (rest : List Char) :
    splitPort false (host ++ rest) =
      (host ++ (splitPort false rest).1, (splitPort false rest).2) := by
  induction host with
  | nil => rfl
  | cons char host inductionHypothesis =>
    obtain ⟨here, others⟩ := List.forall_mem_cons.mp plain
    have colon : char ≠ ':' := ne_of_isHostChar here (by decide)
    have opened : char ≠ '[' := ne_of_isHostChar here (by decide)
    have closed : char ≠ ']' := ne_of_isHostChar here (by decide)
    rw [List.cons_append, splitPort, if_neg (fun both => colon both.1)]
    simp only [opened, closed, if_false, inductionHypothesis others, List.cons_append]

/-- The colon ends the host. -/
theorem splitPort_colon (plain : ∀ char ∈ host, isHostChar char = true) (port : List Char) :
    splitPort false (host ++ ':' :: port) = (host, some port) := by
  have ends : splitPort false (':' :: port) = ([], some port) := rfl
  rw [splitPort_append plain, ends, List.append_nil]

theorem splitPort_none (plain : ∀ char ∈ host, isHostChar char = true) :
    splitPort false host = (host, none) := by
  have ends : splitPort false [] = ([], none) := rfl
  have whole := splitPort_append plain []
  rwa [ends, List.append_nil] at whole

theorem parseAuthority_host (name : HostName host) :
    parseAuthority hosts scheme host =
      (hosts (isSpecial scheme) host).map (fun host => (host, none)) := by
  have absent : '@' ∉ host := not_mem_of_plain name.plain (by decide)
  simp only [parseAuthority, afterCredentials_none absent, Option.bind_some,
    splitPort_none name.plain, name.ne_nil, decide_false, Bool.and_false, Bool.false_eq_true,
    if_false]

/-- The port behind a colon may be missing. -/
theorem parseAuthority_colon (name : HostName host) :
    parseAuthority hosts scheme (host ++ [':']) =
      (hosts (isSpecial scheme) host).map (fun host => (host, none)) := by
  have absent : '@' ∉ host ++ [':'] := by
    have none : '@' ∉ host := not_mem_of_plain name.plain (by decide)
    simpa using none
  have empty : parsePort scheme [] = some none := rfl
  simp only [parseAuthority, afterCredentials_none absent, Option.bind_some,
    splitPort_colon name.plain, name.ne_nil, if_false, empty, Option.map_some]
  cases hosts (isSpecial scheme) host <;> rfl

/-- The constructor of a URL with a scheme of a server, an authority and a path. -/
theorem parse_authority {authority tail : List Char} (nonempty : scheme ≠ [])
    (letters : ∀ char ∈ scheme, char.isAlpha = true)
    (server : isSpecial (lower scheme) = true ∧ isFile (lower scheme) = false)
    (given : authority ≠ []) (inside : ∀ char ∈ authority, isSlash true char = false)
    (rooted : tail = [] ∨ ∃ rest, tail = '/' :: rest)
    (visible : ∀ char ∈ authority ++ tail, isBlank char = false ∧ char ≠ '?' ∧ char ≠ '#') :
    parse hosts (scheme ++ ':' :: '/' :: '/' :: (authority ++ tail)) =
      (parseAuthority hosts (lower scheme) authority).map (fun parsed =>
        ⟨lower scheme, some parsed.1, parsed.2, .inl (pathStart true false tail), none⟩) := by
  have seen : ∀ char ∈ '/' :: '/' :: (authority ++ tail),
      isBlank char = false ∧ char ≠ '?' ∧ char ≠ '#' := by
    have slash : isBlank '/' = false ∧ '/' ≠ '?' ∧ '/' ≠ '#' := by decide
    exact List.forall_mem_cons.mpr ⟨slash, List.forall_mem_cons.mpr ⟨slash, visible⟩⟩
  have cleaned : clean (scheme ++ ':' :: '/' :: '/' :: (authority ++ tail)) =
      scheme ++ ':' :: '/' :: '/' :: (authority ++ tail) := by
    apply clean_of_visible
    intro char listed
    obtain before | after := List.mem_append.mp listed
    · exact ((isHostChar_iff char).mp (isHostChar_of_isAlpha (letters char before))).1
    · obtain rfl | later := List.mem_cons.mp after
      · rfl
      · exact (seen char later).1
  have slashes : ('/' :: '/' :: (authority ++ tail)).dropWhile (isSlash true) =
      authority ++ tail := by
    obtain ⟨first, others, rfl⟩ := List.exists_cons_of_ne_nil given
    have stays : ¬isSlash true first = true := by simp [inside first (.head _)]
    rw [List.dropWhile_cons_of_pos rfl, List.dropWhile_cons_of_pos rfl, List.cons_append,
      List.dropWhile_cons_of_neg stays]
  have within : ∀ char ∈ authority, (!isSlash true char) = true := by
    intro char listed
    simp [inside char listed]
  have ends : tail.takeWhile (fun char => !isSlash true char) = [] ∧
      tail.dropWhile (fun char => !isSlash true char) = tail := by
    obtain rfl | ⟨rest, rfl⟩ := rooted
    · exact ⟨rfl, rfl⟩
    · exact ⟨List.takeWhile_cons_of_neg (by decide), List.dropWhile_cons_of_neg (by decide)⟩
  rw [parse, cleaned, splitScheme_append nonempty letters, Option.bind_some,
    bodyOf_of_plain (fun char listed => (seen char listed).2),
    queryOf_of_plain (fun char listed => (seen char listed).2), absoluteUrl, server.1, server.2]
  simp only [Bool.false_eq_true, if_false, if_true, specialAuthorityUrl, slashes, authorityUrl,
    server.1]
  rw [List.takeWhile_append_of_pos within, List.dropWhile_append_of_pos within, ends.1, ends.2,
    List.append_nil]

/-! ## Paths -/

/-- Only a dot has the byte of a dot first. -/
theorem dot_of_utf8 {char : Char} {rest : List UInt8}
    (encoded : String.utf8EncodeChar char = 0x2E :: rest) : char = '.' := by
  have read : Utf8.Decoder.run none (String.utf8EncodeChar char ++ []) = [char] :=
    Utf8.run_char char []
  have dot : Utf8.Decoder.run none (UInt8.ofNat 0x2E :: (rest ++ [])) =
      '.' :: Utf8.Decoder.run none (rest ++ []) := Utf8.run_one (by decide) _
  rw [encoded] at read
  exact (List.cons.inj (read.symm.trans dot)).1

/-- Only the byte of a dot has these two digits. -/
theorem dot_of_digits {byte : UInt8} (high : (hexDigit (byte.toNat / 16)).toLower = '2')
    (low : (hexDigit (byte.toNat % 16)).toLower = 'e') : byte = 0x2E := by
  have digits : ∀ high low : Fin 16, (hexDigit high).toLower = '2' →
      (hexDigit low).toLower = 'e' → high.val = 2 ∧ low.val = 14 := by decide
  have small := byte.toNat_lt
  obtain ⟨first, second⟩ :=
    digits ⟨byte.toNat / 16, by omega⟩ ⟨byte.toNat % 16, by omega⟩ high low
  apply UInt8.toNat_inj.mp
  have value : (0x2E : UInt8).toNat = 46 := rfl
  dsimp only at first second
  omega

/-- What begins with another character begins with no dot, percent-encoded or not. -/
theorem dotless {first : Char} (apart : first ≠ '.') (plain : first ≠ '%') (rest : List Char) :
    ¬['.'] <+: lower (encodeChar inPathSet first ++ rest) ∧
      ¬['%', '2', 'e'] <+: lower (encodeChar inPathSet first ++ rest) := by
  cases encoded : inPathSet first with
  | false =>
    have same : encodeChar inPathSet first = [first] := by simp [encodeChar, encoded]
    rw [same]
    constructor
    · intro dotted
      have head := (List.cons_prefix_cons.mp dotted).1
      exact apart ((toLower_eq_iff rfl).mp head.symm)
    · intro dotted
      have head := (List.cons_prefix_cons.mp dotted).1
      exact plain ((toLower_eq_iff rfl).mp head.symm)
  | true =>
    obtain ⟨byte, bytes, shape, -, -⟩ := Utf8.utf8EncodeChar_shape first
    have same : encodeChar inPathSet first =
        '%' :: hexDigit (byte.toNat / 16) :: hexDigit (byte.toNat % 16) ::
          bytes.flatMap percentEncodeByte := by
      simp [encodeChar, encoded, shape, percentEncodeByte]
    rw [same]
    constructor
    · intro dotted
      have head := (List.cons_prefix_cons.mp dotted).1
      exact absurd head (by decide)
    · intro dotted
      obtain ⟨-, dotted⟩ := List.cons_prefix_cons.mp dotted
      obtain ⟨high, dotted⟩ := List.cons_prefix_cons.mp dotted
      obtain ⟨low, -⟩ := List.cons_prefix_cons.mp dotted
      have dot : byte = 0x2E := dot_of_digits high.symm low.symm
      exact apart (dot_of_utf8 (dot ▸ shape))

/-- Such a segment is no dot segment. -/
theorem undotted {first : Char} (apart : first ≠ '.') (plain : first ≠ '%') (rest : List Char) :
    isSingleDot (encodeChar inPathSet first ++ rest) = false ∧
      isDoubleDot (encodeChar inPathSet first ++ rest) = false := by
  obtain ⟨dot, percent⟩ := dotless apart plain rest
  have other {listed : List Char} (form : ['.'] <+: listed ∨ ['%', '2', 'e'] <+: listed) :
      lower (encodeChar inPathSet first ++ rest) ≠ listed := by
    rintro rfl
    exact form.elim dot percent
  constructor
  · simp only [isSingleDot, List.contains_eq_mem, decide_eq_false_iff_not, List.mem_cons,
      List.not_mem_nil, or_false, not_or]
    exact ⟨other (Or.inl (by decide)), other (Or.inr (by decide))⟩
  · simp only [isDoubleDot, List.contains_eq_mem, decide_eq_false_iff_not, List.mem_cons,
      List.not_mem_nil, or_false, not_or]
    exact ⟨other (Or.inl (by decide)), other (Or.inl (by decide)), other (Or.inr (by decide)),
      other (Or.inr (by decide))⟩

/-- What holds no slash is one segment. -/
theorem pathState_inside {special file : Bool} {chunk : List Char}
    (inside : ∀ char ∈ chunk, isSlash special char = false) (path : List (List Char))
    (buffer : List Char) :
    pathState special file path buffer chunk =
      closeSegment file path (buffer ++ chunk.flatMap (encodeChar inPathSet)) true := by
  induction chunk generalizing buffer with
  | nil => simp [pathState]
  | cons char chunk inductionHypothesis =>
    obtain ⟨here, others⟩ := List.forall_mem_cons.mp inside
    rw [pathState, if_neg (by simp [here]), inductionHypothesis others, List.flatMap_cons,
      List.append_assoc]

/-- A host name holds nothing that ends an authority or a path. -/
theorem HostName.inside (name : HostName host) {char : Char} (listed : char ∈ host) :
    isSlash true char = false ∧ isBlank char = false ∧ char ≠ '?' ∧ char ≠ '#' := by
  have here := name.plain char listed
  have slash : char ≠ '/' := ne_of_isHostChar here (by decide)
  have back : char ≠ '\\' := ne_of_isHostChar here (by decide)
  have query : char ≠ '?' := ne_of_isHostChar here (by decide)
  have fragment : char ≠ '#' := ne_of_isHostChar here (by decide)
  exact ⟨by simp [isSlash, slash, back], ((isHostChar_iff char).mp here).1, query, fragment⟩

/-- A host name that stands in the path behind two slashes. -/
theorem pathStart_host (name : HostName host) :
    pathStart true false ('/' :: '/' :: host) =
      [[], host.flatMap (encodeChar inPathSet)] := by
  have inside : ∀ char ∈ host, isSlash true char = false :=
    fun char listed => (name.inside listed).1
  have opened : pathStart true false ('/' :: '/' :: host) = pathState true false [[]] [] host := rfl
  rw [opened, pathState_inside inside, List.nil_append]
  obtain ⟨first, rest, rfl, apart⟩ := name.started
  have plain : first ≠ '%' := ne_of_isHostChar (name.plain first (.head _)) (by decide)
  obtain ⟨single, double⟩ := undotted apart plain (rest.flatMap (encodeChar inPathSet))
  rw [List.flatMap_cons, closeSegment, double, single]
  rfl

/-! ## A host behind schemes -/

/-- The URL of a scheme and a host. -/
theorem parse_host (nonempty : scheme ≠ []) (letters : ∀ char ∈ scheme, char.isAlpha = true)
    (server : isSpecial (lower scheme) = true ∧ isFile (lower scheme) = false)
    (name : HostName host) :
    parse hosts (scheme ++ ':' :: '/' :: '/' :: host) = (hosts true host).map (fun parsed =>
      ⟨lower scheme, some parsed, none, .inl [[]], none⟩) := by
  have visible : ∀ char ∈ host ++ [], isBlank char = false ∧ char ≠ '?' ∧ char ≠ '#' :=
    fun char listed => (name.inside (by simpa using listed)).2
  have read : parse hosts (scheme ++ ':' :: '/' :: '/' :: (host ++ [])) =
      (parseAuthority hosts (lower scheme) host).map (fun parsed =>
        ⟨lower scheme, some parsed.1, parsed.2, .inl [[]], none⟩) :=
    parse_authority nonempty letters server name.ne_nil
      (fun char listed => (name.inside listed).1) (Or.inl rfl) visible
  rw [List.append_nil, parseAuthority_host name, Option.map_map, server.1] at read
  exact read

/-- A host name alone is no URL. -/
theorem parse_bare (name : HostName host) : parse hosts host = none := by
  have colon : ':' ∉ host := not_mem_of_plain name.plain (by decide)
  have visible : ∀ char ∈ host, isBlank char = false :=
    fun char listed => (name.inside listed).2.1
  rw [parse, clean_of_visible visible, splitScheme_none colon]
  rfl

/-- A scheme before a URL: the scheme of this one is taken for the host. -/
theorem parse_nested {inner : List Char} (nonempty : scheme ≠ [])
    (letters : ∀ char ∈ scheme, char.isAlpha = true)
    (server : isSpecial (lower scheme) = true ∧ isFile (lower scheme) = false)
    (innerNonempty : inner ≠ []) (innerLetters : ∀ char ∈ inner, char.isAlpha = true)
    (name : HostName host) :
    parse hosts (scheme ++ ':' :: '/' :: '/' :: (inner ++ ':' :: '/' :: '/' :: host)) =
      (hosts true inner).map (fun parsed =>
        ⟨lower scheme, some parsed, none, .inl [[], host.flatMap (encodeChar inPathSet)],
          none⟩) := by
  have named : HostName inner := by
    constructor
    · obtain ⟨first, rest, rfl⟩ := List.exists_cons_of_ne_nil innerNonempty
      refine ⟨first, rest, rfl, ?_⟩
      rintro rfl
      cases innerLetters '.' (.head _)
    · exact fun char listed => isHostChar_of_isAlpha (innerLetters char listed)
  have inside : ∀ char ∈ inner ++ [':'], isSlash true char = false := by
    intro char listed
    obtain before | colon := List.mem_append.mp listed
    · exact (named.inside before).1
    · obtain rfl := List.mem_singleton.mp colon
      rfl
  have visible : ∀ char ∈ (inner ++ [':']) ++ '/' :: '/' :: host,
      isBlank char = false ∧ char ≠ '?' ∧ char ≠ '#' := by
    have colon : isBlank ':' = false ∧ ':' ≠ '?' ∧ ':' ≠ '#' := by decide
    have slash : isBlank '/' = false ∧ '/' ≠ '?' ∧ '/' ≠ '#' := by decide
    intro char listed
    rcases List.mem_append.mp listed with before | after
    · rcases List.mem_append.mp before with letter | last
      · exact (named.inside letter).2
      · obtain rfl := List.mem_singleton.mp last
        exact colon
    · rcases List.mem_cons.mp after with rfl | after
      · exact slash
      · rcases List.mem_cons.mp after with rfl | after
        · exact slash
        · exact (name.inside after).2
  have given : inner ++ [':'] ≠ [] := by simp
  have read : parse hosts
      (scheme ++ ':' :: '/' :: '/' :: ((inner ++ [':']) ++ '/' :: '/' :: host)) =
      (parseAuthority hosts (lower scheme) (inner ++ [':'])).map (fun parsed =>
        ⟨lower scheme, some parsed.1, parsed.2, .inl (pathStart true false ('/' :: '/' :: host)),
          none⟩) :=
    parse_authority nonempty letters server given inside (Or.inr ⟨'/' :: host, rfl⟩) visible
  rw [parseAuthority_colon named, Option.map_map, server.1, pathStart_host name,
    List.append_assoc] at read
  exact read

/-- A path of two segments has a slash more than one of a single empty segment. -/
theorem href_ne (first second : Url) (schemeFree : '/' ∉ first.scheme)
    (hostFree : ∀ host ∈ first.host, '/' ∉ host) (root : first.path = .inl [[]])
    (unasked : first.query = none) {name segment : List Char} (named : second.host = some name)
    (nested : second.path = .inl [[], segment]) : first.href ≠ second.href := by
  have digits (port : Nat) : (Nat.toDigits 10 port).count '/' = 0 := by
    apply List.count_eq_zero.mpr
    intro listed
    have digit := Nat.isDigit_of_mem_toDigits (by decide) (by decide) listed
    cases digit
  have few : first.href.count '/' ≤ 3 := by
    have path : first.pathname = ['/'] := by simp [pathname, root]
    have search : first.search = [] := by simp [search, unasked]
    have scheme := List.count_eq_zero.mpr schemeFree
    have slashes : ['/', '/'].count '/' = 2 ∧ [':'].count '/' = 0 ∧ ['/'].count '/' = 1 := by decide
    cases hosted : first.host with
    | none =>
      simp only [href, path, search, hosted, List.count_append, List.count_nil]
      omega
    | some host =>
      have none := List.count_eq_zero.mpr (hostFree host hosted)
      cases ported : first.port with
      | none =>
        simp only [href, path, search, hosted, ported, List.count_append, List.count_nil]
        omega
      | some port =>
        have colon : (':' :: Nat.toDigits 10 port).count '/' = 0 := by
          rw [List.count_cons_of_ne (by decide), digits]
        simp only [href, path, search, hosted, ported, List.count_append, List.count_nil]
        omega
  have many : 4 ≤ second.href.count '/' := by
    have path : second.pathname = '/' :: '/' :: segment := by simp [pathname, nested]
    simp only [href, named, path, List.count_append, List.count_cons_self]
    have slashes : ['/', '/'].count '/' = 2 := rfl
    omega
  intro same
  rw [same] at few
  exact absurd (Nat.le_trans many few) (by decide)

end Hosts

end Url
