import WebPubSub.Library.UrlSearchParams

/-!
# Names in a path

A path that is joined from names is divided into just these names when it is read, if no name
holds a slash of either kind, a percent sign or a character that a URL drops, and none is a dot
segment. What else a name holds is percent-encoded and decoded again.

A query behind a URL changes nothing before it, and a URL with a host name and such a path is
read from its text as it was.
-/

namespace Url

/-- The characters that a segment does not give back. -/
def lossy : List Char := ['/', '\\', '%', '\t', '\n', '\r']

/-- A text that a path holds as one segment. -/
structure Name (text : List Char) : Prop where
  chars : ∀ char ∈ text, char ∉ lossy
  single : text ≠ ['.']
  double : text ≠ ['.', '.']

instance (text : List Char) : Decidable (Name text) :=
  decidable_of_iff
    (text.all (fun char => decide (char ∉ lossy)) = true ∧ text ≠ ['.'] ∧ text ≠ ['.', '.'])
    ⟨fun ⟨chars, single, double⟩ =>
        ⟨fun char listed => of_decide_eq_true (List.all_eq_true.mp chars char listed), single, double⟩,
      fun ⟨chars, single, double⟩ =>
        ⟨List.all_eq_true.mpr fun char listed => decide_eq_true (chars char listed), single, double⟩⟩

def encodeSegment (text : List Char) : List Char := text.flatMap (encodeChar inPathSet)

/-- The decoded segments of a divided path. -/
def segments (url : Url) : Option (List (List Char)) :=
  match url.path with
  | .inl segments => some (segments.map decodeText)
  | .inr _ => none

theorem encodeSegment_ne_nil {text : List Char} (nonempty : text ≠ []) :
    encodeSegment text ≠ [] := by
  obtain ⟨first, others, rfl⟩ := List.exists_cons_of_ne_nil nonempty
  obtain ⟨byte, bytes, utf8, -⟩ := Utf8.utf8EncodeChar_shape first
  rw [encodeSegment, List.flatMap_cons, encodeChar, utf8]
  split <;> simp [percentEncodeByte]

/-! ## Dot segments -/

theorem isSingleDot_dot (rest : List Char) : isSingleDot ('.' :: rest) = rest.isEmpty := by
  have percent : '.' ≠ '%' := by decide
  cases rest with
  | nil => rfl
  | cons second rest => simp [isSingleDot, percent, lower]

theorem isDoubleDot_dot (rest : List Char) : isDoubleDot ('.' :: rest) = isSingleDot rest := by
  have dot : lower ('.' :: rest) = '.' :: lower rest := rfl
  have percent : '.' ≠ '%' := by decide
  simp [isDoubleDot, isSingleDot, dot, percent]

section Names

variable {text : List Char} (name : Name text)

include name

theorem Name.inside {char : Char} (listed : char ∈ text) :
    isSlash true char = false ∧ isTabOrNewline char = false ∧ char ≠ '%' := by
  have outside := name.chars char listed
  have apart (other : Char) (member : other ∈ lossy) : char ≠ other := by
    rintro rfl
    exact outside member
  have code (other : Char) (member : other ∈ lossy) : char.toNat ≠ other.toNat :=
    fun same => apart other member (Char.toNat_inj.mp same)
  have tab : char.toNat ≠ 9 := code '\t' (by decide)
  have newline : char.toNat ≠ 10 := code '\n' (by decide)
  have carriageReturn : char.toNat ≠ 13 := code '\r' (by decide)
  refine ⟨?_, ?_, apart '%' (by decide)⟩
  · simp [isSlash, apart '/' (by decide), apart '\\' (by decide)]
  · simp [isTabOrNewline, tab, newline, carriageReturn]

/-- A name is no dot segment, however it is encoded: what follows a first dot is none. -/
theorem Name.undotted : isSingleDot (encodeSegment text) = false ∧
    isDoubleDot (encodeSegment text) = false := by
  have dotless (first : Char) (others : List Char) (listed : first ∈ text) (apart : first ≠ '.') :
      isSingleDot (encodeSegment (first :: others)) = false ∧
        isDoubleDot (encodeSegment (first :: others)) = false := by
    rw [encodeSegment, List.flatMap_cons]
    exact Url.undotted apart (name.inside listed).2.2 _
  have dotted (others : List Char) : encodeSegment ('.' :: others) = '.' :: encodeSegment others :=
    rfl
  have longer (others : List Char) (nonempty : others ≠ []) :
      isSingleDot ('.' :: encodeSegment others) = false := by
    rw [isSingleDot_dot]
    simpa using encodeSegment_ne_nil nonempty
  cases text with
  | nil => exact ⟨rfl, rfl⟩
  | cons first others =>
    by_cases dot : first = '.'
    · subst dot
      have further : others ≠ [] := by
        rintro rfl
        exact name.single rfl
      refine ⟨longer others further, ?_⟩
      rw [dotted, isDoubleDot_dot]
      obtain ⟨second, more, rfl⟩ := List.exists_cons_of_ne_nil further
      by_cases again : second = '.'
      · subst again
        apply longer
        rintro rfl
        exact name.double rfl
      · exact (dotless second more (.tail _ (.head _)) again).1
    · exact dotless first others (.head _) dot

theorem Name.plain : Plain true (encodeSegment text) := by
  refine ⟨?_, name.undotted.1, name.undotted.2⟩
  intro encoded listed
  obtain ⟨char, member, written⟩ := List.mem_flatMap.mp listed
  exact isPathChar_encodeChar (name.inside member).1 encoded written

theorem Name.decode : decodeText (encodeSegment text) = text := by
  apply decodeText_encoded
  intro char listed
  exact Or.inr (name.inside listed).2.2

end Names

/-! ## Paths of names -/

/-- What holds no slash is read into the buffer. -/
theorem pathState_buffer {special file : Bool} {chunk : List Char}
    (inside : ∀ char ∈ chunk, isSlash special char = false) (path : List (List Char))
    (buffer rest : List Char) :
    pathState special file path buffer (chunk ++ rest) =
      pathState special file path (buffer ++ encodeSegment chunk) rest := by
  induction chunk generalizing buffer with
  | nil => simp [encodeSegment]
  | cons char chunk inductionHypothesis =>
    obtain ⟨here, others⟩ := List.forall_mem_cons.mp inside
    rw [List.cons_append, pathState, if_neg (by simp [here]), inductionHypothesis others,
      encodeSegment, encodeSegment, List.flatMap_cons, List.append_assoc]

/-- A path of names is divided into the names. -/
theorem pathState_names {first : List Char} {others : List (List Char)}
    (names : ∀ name ∈ first :: others, Name name) (path : List (List Char)) :
    pathState true false path [] (first ++ joined others) =
      path ++ (first :: others).map encodeSegment := by
  have inside {name : List Char} (own : Name name) : ∀ char ∈ name, isSlash true char = false :=
    fun char listed => (own.inside listed).1
  induction others generalizing first path with
  | nil =>
    have own : Name first := names first (.head _)
    rw [pathState_buffer (inside own), List.nil_append]
    exact closeSegment_plain own.plain path true
  | cons second others inductionHypothesis =>
    obtain ⟨own, rest⟩ := List.forall_mem_cons.mp names
    have shape : joined (second :: others) = '/' :: (second ++ joined others) := by
      simp [joined]
    have slash : isSlash true '/' = true := rfl
    rw [pathState_buffer (inside own), List.nil_append, shape, pathState, if_pos slash,
      closeSegment_plain own.plain, inductionHypothesis rest, List.append_assoc]
    rfl

theorem setPathname_names {url : Url} {path : List (List Char)} (divided : url.path = .inl path)
    (server : isSpecial url.scheme = true ∧ isFile url.scheme = false)
    {names : List (List Char)} (nonempty : names ≠ []) (named : ∀ name ∈ names, Name name) :
    url.setPathname (joined names) = { url with path := .inl (names.map encodeSegment) } := by
  have kept : (joined names).filter (fun char => !isTabOrNewline char) = joined names := by
    rw [List.filter_eq_self]
    intro char listed
    obtain ⟨name, member, within⟩ := List.mem_flatMap.mp listed
    rcases List.mem_cons.mp within with rfl | inside
    · rfl
    · simp [((named name member).inside inside).2.1]
  obtain ⟨first, others, rfl⟩ := List.exists_cons_of_ne_nil nonempty
  have shape : joined (first :: others) = '/' :: (first ++ joined others) := by
    simp [joined]
  have slash : isSlash true '/' = true := rfl
  rw [setPathname, divided]
  dsimp only
  rw [kept, server.1, server.2, shape, pathStart, if_pos slash, pathState_names named,
    List.nil_append]

/-! ## Queries -/

section Queries

variable {hosts : HostParser} {text query : List Char}

theorem splitScheme_query (text query : List Char) :
    splitScheme (text ++ '?' :: query) =
      (splitScheme text).map (fun split => (split.1, split.2 ++ '?' :: query)) := by
  have state (buffer text : List Char) : schemeState buffer (text ++ '?' :: query) =
      (schemeState buffer text).map (fun split => (split.1, split.2 ++ '?' :: query)) := by
    induction text generalizing buffer with
    | nil => rfl
    | cons char text inductionHypothesis =>
      rw [List.cons_append, schemeState, schemeState]
      split
      · rfl
      · split
        · exact inductionHypothesis _
        · rfl
  cases text with
  | nil => rfl
  | cons first rest =>
    rw [List.cons_append, splitScheme, splitScheme]
    split
    · exact state _ _
    · rfl

/-- What follows the scheme ends the text. -/
theorem splitScheme_suffix {scheme rest : List Char} (split : splitScheme text = some (scheme, rest)) :
    rest <:+ text := by
  have state (buffer text : List Char) (split : schemeState buffer text = some (scheme, rest)) :
      rest <:+ text := by
    induction text generalizing buffer with
    | nil => cases split
    | cons char text inductionHypothesis =>
      rw [schemeState] at split
      split at split
      · obtain ⟨-, rfl⟩ := Prod.mk.inj (Option.some.inj split)
        exact List.suffix_cons char text
      · split at split
        · exact (inductionHypothesis _ split).trans (List.suffix_cons char text)
        · cases split
  cases text with
  | nil => cases split
  | cons first text =>
    rw [splitScheme] at split
    split at split
    · exact (state _ _ split).trans (List.suffix_cons first text)
    · cases split

theorem authorityUrl_query (scheme body : List Char) (query : Option (List Char)) :
    authorityUrl hosts scheme body query =
      (authorityUrl hosts scheme body none).map (fun url => { url with query := query }) := by
  rw [authorityUrl, authorityUrl, Option.map_map]
  rfl

theorem fileUrl_query (body : List Char) (query : Option (List Char)) :
    fileUrl hosts body query =
      (fileUrl hosts body none).map (fun url => { url with query := query }) := by
  unfold fileUrl
  dsimp only
  split
  · split
    · split
      · rfl
      · split
        · rfl
        · rw [Option.map_map]
          rfl
    · rfl
  · rfl

/-- The query is kept, and nothing else depends on it. -/
theorem absoluteUrl_query (scheme body : List Char) (query : Option (List Char)) :
    absoluteUrl hosts scheme body query =
      (absoluteUrl hosts scheme body none).map (fun url => { url with query := query }) := by
  unfold absoluteUrl
  split
  · exact fileUrl_query body query
  · split
    · exact authorityUrl_query _ _ query
    · split
      · exact authorityUrl_query _ _ query
      · rfl
      · rfl

/-- A query behind a URL that has none is read as its query. -/
theorem parse_query (visible : ∀ char ∈ text, isBlank char = false ∧ char ≠ '?' ∧ char ≠ '#')
    (plain : ∀ char ∈ query, inQuerySet true char = false ∧ isBlank char = false ∧ char ≠ '#') :
    parse hosts (text ++ '?' :: query) =
      (parse hosts text).map (fun url => { url with query := some query }) := by
  have dark : ∀ char ∈ text ++ '?' :: query, isBlank char = false := by
    intro char listed
    rcases List.mem_append.mp listed with before | after
    · exact (visible char before).1
    · rcases List.mem_cons.mp after with rfl | inside
      · rfl
      · exact (plain char inside).2.1
  have unencoded (special : Bool) : query.flatMap (encodeChar (inQuerySet special)) = query := by
    have kept : ∀ char ∈ query, encodeChar (inQuerySet special) char = [char] := by
      intro char listed
      have outside := inQuerySet_or special true char
      rw [Bool.true_or, (plain char listed).1] at outside
      have out : inQuerySet special char = false := by
        cases within : inQuerySet special char with
        | false => rfl
        | true => simp [within] at outside
      simp [encodeChar, out]
    rw [List.flatMap_def, List.map_congr_left kept, ← List.flatMap_def]
    exact List.flatMap_singleton' query
  rw [parse, parse, clean_of_visible dark,
    clean_of_visible (fun char listed => (visible char listed).1), splitScheme_query,
    Option.bind_map]
  cases split : splitScheme text with
  | none => rfl
  | some split_text =>
    obtain ⟨scheme, rest⟩ := split_text
    have plainRest : ∀ char ∈ rest, char ≠ '?' ∧ char ≠ '#' :=
      fun char listed => (visible char ((splitScheme_suffix split).subset listed)).2
    have body : bodyOf (rest ++ '?' :: query) = rest := by
      rw [bodyOf, List.takeWhile_append_of_pos (by simpa using plainRest),
        List.takeWhile_cons_of_neg (by simp), List.append_nil]
    have asked : queryOf (isSpecial scheme) (rest ++ '?' :: query) = some query := by
      have whole : (rest ++ '?' :: query).takeWhile (fun char => char ≠ '#') =
          rest ++ '?' :: query := by
        apply List.takeWhile_eq_self_iff.mpr
        intro char listed
        rcases List.mem_append.mp listed with before | after
        · simpa using (plainRest char before).2
        · rcases List.mem_cons.mp after with rfl | inside
          · rfl
          · simpa using (plain char inside).2.2
      have dropped : (rest ++ '?' :: query).dropWhile (fun char => char ≠ '?') =
          '?' :: query := by
        rw [List.dropWhile_append_of_pos (by simpa using fun char listed => (plainRest char listed).1),
          List.dropWhile_cons_of_neg (by simp)]
      simp only [queryOf, whole, dropped, unencoded]
    simp only [Option.bind_some, Function.comp_apply, body, asked,
      bodyOf_of_plain plainRest, queryOf_of_plain plainRest]
    exact absoluteUrl_query scheme rest (some query)

/-- A URL of a server with a host name, a plain path and a query is read from its text. -/
theorem parse_href {scheme host : List Char} {path : List (List Char)}
    (nonempty : scheme ≠ []) (letters : ∀ char ∈ scheme, char.isAlpha = true)
    (lowered : lower scheme = scheme)
    (server : isSpecial scheme = true ∧ isFile scheme = false) (name : HostName host)
    (known : hosts true host = some host) (rooted : path ≠ [])
    (kept : ∀ segment ∈ path, Plain true segment)
    (asked : query ≠ [])
    (plain : ∀ char ∈ query, inQuerySet true char = false ∧ isBlank char = false ∧ char ≠ '#') :
    parse hosts (href ⟨scheme, some host, none, .inl path, some query⟩) =
      some ⟨scheme, some host, none, .inl path, some query⟩ := by
  obtain ⟨first, others, rfl⟩ := List.exists_cons_of_ne_nil rooted
  have pathChar {char : Char} (listed : char ∈ joined (first :: others)) :
      isBlank char = false ∧ char ≠ '?' ∧ char ≠ '#' := by
    rcases mem_joined kept listed with rfl | inside
    · decide
    · obtain ⟨dark, noQuery, noFragment, -⟩ := isPathChar_visible inside
      exact ⟨dark, noQuery, noFragment⟩
  have visible : ∀ char ∈ host ++ joined (first :: others),
      isBlank char = false ∧ char ≠ '?' ∧ char ≠ '#' := by
    intro char listed
    rcases List.mem_append.mp listed with before | after
    · exact (name.inside before).2
    · exact pathChar after
  have shape : joined (first :: others) = '/' :: (first ++ joined others) := by
    simp [joined]
  have started : pathStart true false (joined (first :: others)) = first :: others := by
    rw [shape, pathStart, if_pos (by rfl), pathState_joined kept, List.nil_append]
  have read : parse hosts (scheme ++ ':' :: '/' :: '/' :: (host ++ joined (first :: others))) =
      some ⟨scheme, some host, none, .inl (first :: others), none⟩ := by
    rw [parse_authority nonempty letters (by rw [lowered]; exact server) name.ne_nil
      (fun char listed => (name.inside listed).1) (Or.inr ⟨_, shape⟩) visible,
      parseAuthority_host name, lowered, server.1, known, Option.map_some, Option.map_some, started]
  have text : href ⟨scheme, some host, none, .inl (first :: others), some query⟩ =
      (scheme ++ ':' :: '/' :: '/' :: (host ++ joined (first :: others))) ++ '?' :: query := by
    obtain ⟨mark, marks, rfl⟩ := List.exists_cons_of_ne_nil asked
    simp [href, search, pathname, joined]
  rw [text, parse_query _ plain, read, Option.map_some]
  intro char listed
  rcases List.mem_append.mp listed with letter | after
  · have apart (mark : Char) (foreign : mark.isAlpha = false) : char ≠ mark := by
      rintro rfl
      rw [letters _ letter] at foreign
      cases foreign
    exact ⟨((isHostChar_iff char).mp (isHostChar_of_isAlpha (letters char letter))).1,
      apart '?' rfl, apart '#' rfl⟩
  · have marks : ∀ mark ∈ [':', '/', '/'], isBlank mark = false ∧ mark ≠ '?' ∧ mark ≠ '#' := by
      simp [isBlank]
    have split : char ∈ [':', '/', '/'] ++ (host ++ joined (first :: others)) := after
    rcases List.mem_append.mp split with mark | inside
    · exact marks char mark
    · exact visible char inside

end Queries

end Url
