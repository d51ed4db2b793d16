import Mathlib.Data.List.Flatten
import Mathlib.Data.List.TakeWhile
import WebPubSub.Library.Utf8

/-!
# URLs

The constructor of `URL` by the rules of the URL standard: the scheme, the authority, the
path with its dot segments and its percent-encoding, and the query. The parser of hosts is a
parameter, which fails by giving `none`. A fragment, a user name and a password are read
past and not kept, since neither the path nor the query depends on them.

A base is a URL of a special scheme other than `file`, as that of a server is.
-/

structure Url where
  scheme : List Char
  host : Option (List Char)
  port : Option Nat
  /-- The segments of the path, or a path that is not divided: what follows the colon when
  neither a special scheme nor a slash divides it. -/
  path : List (List Char) ⊕ List Char
  query : Option (List Char)
deriving DecidableEq

namespace Url

/-- The special schemes with their default ports. -/
def specialSchemes : List (List Char × Option Nat) :=
  [("http".toList, some 80), ("https".toList, some 443), ("ws".toList, some 80),
    ("wss".toList, some 443), ("ftp".toList, some 21), ("file".toList, none)]

def isSpecial (scheme : List Char) : Bool := (specialSchemes.map Prod.fst).contains scheme

def defaultPort (scheme : List Char) : Option Nat := (specialSchemes.lookup scheme).join

def isFile (scheme : List Char) : Bool := scheme = "file".toList

/-! ## Characters -/

/-- A C0 control or a space. -/
def isBlank (char : Char) : Bool := char.toNat ≤ 0x20

def isTabOrNewline (char : Char) : Bool := char.toNat = 9 || char.toNat = 10 || char.toNat = 13

/-- What is left of an input before it is parsed. -/
def clean (input : List Char) : List Char :=
  (((input.dropWhile isBlank).reverse.dropWhile isBlank).reverse).filter
    (fun char => !isTabOrNewline char)

/-- What ends a segment. -/
def isSlash (special : Bool) (char : Char) : Bool := char = '/' || (special && char = '\\')

def hexDigit (value : Nat) : Char :=
  if value < 10 then Char.ofNat (48 + value) else Char.ofNat (55 + value)

def percentEncodeByte (byte : UInt8) : List Char :=
  ['%', hexDigit (byte.toNat / 16), hexDigit (byte.toNat % 16)]

/-- Percent-encodes the characters of a set. -/
def encodeChar (inSet : Char → Bool) (char : Char) : List Char :=
  if inSet char then (String.utf8EncodeChar char).flatMap percentEncodeByte else [char]

def inControlSet (char : Char) : Bool := char.toNat ≤ 0x1F || 0x7E < char.toNat

def inQuerySet (special : Bool) (char : Char) : Bool :=
  inControlSet char || " \"#<>".toList.contains char || (special && char = '\'')

def inPathSet (char : Char) : Bool :=
  inControlSet char || " \"#<>?^\x60\x7b\x7d".toList.contains char

/-! ## Scheme and query -/

def schemeState (buffer : List Char) : List Char → Option (List Char × List Char)
  | [] => none
  | char :: rest =>
      if char = ':' then some (buffer, rest)
      else if char.isAlphanum || "+-.".toList.contains char then
        schemeState (buffer ++ [char.toLower]) rest
      else none

/-- The scheme and what follows its colon. -/
def splitScheme : List Char → Option (List Char × List Char)
  | [] => none
  | first :: rest => if first.isAlpha then schemeState [first.toLower] rest else none

/-- What stands before a query or a fragment. -/
def bodyOf (text : List Char) : List Char := text.takeWhile (fun char => char ≠ '?' && char ≠ '#')

def queryOf (special : Bool) (text : List Char) : Option (List Char) :=
  match (text.takeWhile (fun char => char ≠ '#')).dropWhile (fun char => char ≠ '?') with
  | [] => none
  | _ :: query => some (query.flatMap (encodeChar (inQuerySet special)))

/-! ## Authority -/

/-- The parser of hosts, for a URL that is special or not. -/
abbrev HostParser := Bool → List Char → Option (List Char)

/-- What follows the last `@`; nothing may be missing there. -/
def afterCredentials (authority : List Char) : Option (List Char) :=
  let tail := (authority.reverse.takeWhile (fun char => char ≠ '@')).reverse
  if '@' ∈ authority ∧ tail = [] then none else some tail

/-- The host, and the port after the first colon that stands in no brackets. -/
def splitPort (inside : Bool) : List Char → List Char × Option (List Char)
  | [] => ([], none)
  | char :: rest =>
      if char = ':' ∧ inside = false then ([], some rest)
      else
        let split := splitPort (if char = '[' then true else if char = ']' then false else inside) rest
        (char :: split.1, split.2)

/-- A port; that of the scheme is left out. -/
def parsePort (scheme : List Char) (text : List Char) : Option (Option Nat) :=
  let value := text.foldl (fun value char => value * 10 + (char.toNat - 48)) 0
  if !text.all Char.isDigit then none
  else if text = [] then some none
  else if 65535 < value then none
  else if defaultPort scheme = some value then some none
  else some (some value)

def parseAuthority (hosts : HostParser) (scheme authority : List Char) :
    Option (List Char × Option Nat) :=
  (afterCredentials authority).bind (fun text =>
    match splitPort false text with
    | (host, none) =>
      if isSpecial scheme && host = [] then none
      else (hosts (isSpecial scheme) host).map (fun host => (host, none))
    | (host, some port) =>
      if host = [] then none
      else (hosts (isSpecial scheme) host).bind (fun host =>
        (parsePort scheme port).map (fun port => (host, port))))

/-! ## Path -/

def lower (text : List Char) : List Char := text.map Char.toLower

def isSingleDot (segment : List Char) : Bool :=
  [".".toList, "%2e".toList].contains (lower segment)

def isDoubleDot (segment : List Char) : Bool :=
  ["..".toList, ".%2e".toList, "%2e.".toList, "%2e%2e".toList].contains (lower segment)

/-- A letter with a colon or a bar. -/
def isDriveLetter : List Char → Bool
  | [letter, colon] => letter.isAlpha && (colon = ':' || colon = '|')
  | _ => false

def shorten (file : Bool) (path : List (List Char)) : List (List Char) :=
  match path with
  | [segment] => if file && isDriveLetter segment then [segment] else []
  | path => path.dropLast

/-- A drive letter has a colon. -/
def driveSegment (segment : List Char) : List Char :=
  if isDriveLetter segment then segment.take 1 ++ [':'] else segment

/-- The path after the end of a segment, at a slash or at the end of the path. -/
def closeSegment (file : Bool) (path : List (List Char)) (segment : List Char) (atEnd : Bool) :
    List (List Char) :=
  if isDoubleDot segment then shorten file path ++ (if atEnd then [[]] else [])
  else if isSingleDot segment then path ++ (if atEnd then [[]] else [])
  else path ++ [if file && path.isEmpty then driveSegment segment else segment]

def pathState (special file : Bool) (path : List (List Char)) (buffer : List Char) :
    List Char → List (List Char)
  | [] => closeSegment file path buffer true
  | char :: rest =>
      if isSlash special char then
        pathState special file (closeSegment file path buffer false) [] rest
      else pathState special file path (buffer ++ encodeChar inPathSet char) rest

/-- The path after an authority. -/
def pathStart (special file : Bool) : List Char → List (List Char)
  | [] => if special then pathState special file [] [] [] else []
  | char :: rest =>
      pathState special file [] [] (if isSlash special char then rest else char :: rest)

/-! ## URLs -/

/-- A URL whose authority comes next. -/
def authorityUrl (hosts : HostParser) (scheme body : List Char) (query : Option (List Char)) :
    Option Url :=
  let within := fun char => !isSlash (isSpecial scheme) char
  (parseAuthority hosts scheme (body.takeWhile within)).map (fun authority =>
    ⟨scheme, some authority.1, authority.2,
      .inl (pathStart (isSpecial scheme) false (body.dropWhile within)), query⟩)

/-- The authority of a special URL, whatever slashes stand before it. -/
def specialAuthorityUrl (hosts : HostParser) (scheme body : List Char)
    (query : Option (List Char)) : Option Url :=
  authorityUrl hosts scheme (body.dropWhile (isSlash true)) query

def fileUrl (hosts : HostParser) (body : List Char) (query : Option (List Char)) : Option Url :=
  let withHost := fun (host : List Char) (path : List (List Char)) =>
    (⟨"file".toList, some host, none, .inl path, query⟩ : Url)
  match body with
  | first :: second :: rest =>
    if isSlash true first && isSlash true second then
      let buffer := rest.takeWhile (fun char => !isSlash true char)
      let after := rest.dropWhile (fun char => !isSlash true char)
      if isDriveLetter buffer then some (withHost [] (pathState true true [] [] rest))
      else if buffer = [] then some (withHost [] (pathStart true true after))
      else (hosts true buffer).map (fun host =>
        withHost (if host = "localhost".toList then [] else host) (pathStart true true after))
    else some (withHost [] (pathStart true true body))
  | body => some (withHost [] (pathStart true true body))

/-- A base: the URL of a server. -/
structure Base where
  scheme : List Char
  host : List Char
  port : Option Nat
  path : List (List Char)
  query : Option (List Char)
  special : isSpecial scheme = true
  remote : isFile scheme = false
  rooted : path ≠ []

/-- The base that a URL is, if it is that of a server. -/
def toBase (url : Url) : Option Base :=
  match url with
  | ⟨scheme, some host, port, .inl (first :: others), query⟩ =>
    if server : isSpecial scheme = true ∧ isFile scheme = false then
      some ⟨scheme, host, port, first :: others, query, server.1, server.2, List.cons_ne_nil _ _⟩
    else none
  | _ => none

/-- A URL without a scheme of its own. -/
def relativeUrl (hosts : HostParser) (base : Base) (body : List Char)
    (query : Option (List Char)) : Option Url :=
  let inBase := fun (path : List (List Char)) (query : Option (List Char)) =>
    some (⟨base.scheme, some base.host, base.port, .inl path, query⟩ : Url)
  match body with
  | [] => inBase base.path (if query = none then base.query else query)
  | first :: rest =>
    if isSlash true first then
      match rest with
      | [] => inBase (pathState true false [] [] []) query
      | second :: more =>
        if isSlash true second then specialAuthorityUrl hosts base.scheme more query
        else inBase (pathState true false [] [] (second :: more)) query
    else inBase (pathState true false (shorten false base.path) [] (first :: rest)) query

/-- A URL with a scheme of its own, which is not that of the base. -/
def absoluteUrl (hosts : HostParser) (scheme body : List Char) (query : Option (List Char)) :
    Option Url :=
  if isFile scheme then fileUrl hosts body query
  else if isSpecial scheme then specialAuthorityUrl hosts scheme body query
  else
    match body with
    | '/' :: '/' :: rest => authorityUrl hosts scheme rest query
    | '/' :: rest => some ⟨scheme, none, none, .inl (pathState false false [] [] rest), query⟩
    | body => some ⟨scheme, none, none, .inr (body.flatMap (encodeChar inControlSet)), query⟩

/-- `new URL(input)`; it throws by giving `none`. -/
def parse (hosts : HostParser) (input : List Char) : Option Url :=
  (splitScheme (clean input)).bind (fun split =>
    absoluteUrl hosts split.1 (bodyOf split.2) (queryOf (isSpecial split.1) split.2))

/-- `new URL(input, base)`. -/
def resolve (hosts : HostParser) (base : Base) (input : List Char) : Option Url :=
  match splitScheme (clean input) with
  | none => relativeUrl hosts base (bodyOf (clean input)) (queryOf true (clean input))
  | some (scheme, rest) =>
    if scheme = base.scheme ∧ ¬['/', '/'] <+: rest then
      relativeUrl hosts base (bodyOf rest) (queryOf true rest)
    else absoluteUrl hosts scheme (bodyOf rest) (queryOf (isSpecial scheme) rest)

/-- The getter `pathname`. -/
def pathname (url : Url) : List Char :=
  match url.path with
  | .inl segments => segments.flatMap (fun segment => '/' :: segment)
  | .inr text => text

/-- The getter `search`. -/
def search (url : Url) : List Char :=
  match url.query with
  | none | some [] => []
  | some (char :: query) => '?' :: char :: query

/-- The URL as text. -/
def href (url : Url) : List Char :=
  url.scheme ++ [':'] ++
    (match url.host with
      | none => []
      | some host => ['/', '/'] ++ host ++
        (match url.port with
          | none => []
          | some port => ':' :: Nat.toDigits 10 port)) ++
    url.pathname ++ url.search

/-! ## Segments of a parsed path -/

/-- A character that a path keeps as it is. -/
def isPathChar (special : Bool) (char : Char) : Bool := !inPathSet char && !isSlash special char

/-- A segment as the parser leaves it. -/
structure Plain (special : Bool) (segment : List Char) : Prop where
  chars : ∀ char ∈ segment, isPathChar special char = true
  single : isSingleDot segment = false
  double : isDoubleDot segment = false

theorem plain_nil (special : Bool) : Plain special [] := by
  constructor
  · intro char listed
    cases listed
  · rfl
  · rfl

theorem isPathChar_hexDigit (special : Bool) {value : Nat} (small : value < 16) :
    isPathChar special (hexDigit value) = true := by
  cases special <;> decide +revert

/-- Percent-encoding leaves characters that a path keeps. -/
theorem isPathChar_encodeChar {special : Bool} {char : Char} (inside : isSlash special char = false) :
    ∀ encoded ∈ encodeChar inPathSet char, isPathChar special encoded = true := by
  intro encoded listed
  unfold encodeChar at listed
  split at listed
  · obtain ⟨byte, -, digit⟩ := List.mem_flatMap.mp listed
    have small := byte.toNat_lt
    simp only [percentEncodeByte, List.mem_cons, List.not_mem_nil, or_false] at digit
    rcases digit with rfl | rfl | rfl
    · cases special <;> rfl
    · exact isPathChar_hexDigit special (by omega)
    · exact isPathChar_hexDigit special (by omega)
  · rename_i kept
    rw [List.mem_singleton.mp listed]
    simp [isPathChar, kept, inside]

theorem plain_driveSegment {special : Bool} {segment : List Char} (plain : Plain special segment) :
    Plain special (driveSegment segment) := by
  unfold driveSegment
  split
  · rename_i drive
    match segment, drive with
    | [letter, colon], _ =>
      constructor
      · intro char listed
        rcases List.mem_cons.mp listed with rfl | last
        · exact plain.chars _ List.mem_cons_self
        · rw [List.mem_singleton.mp last]
          cases special <;> rfl
      · simp [isSingleDot, lower]
      · simp [isDoubleDot, lower]
  · exact plain

theorem mem_shorten {file : Bool} {path : List (List Char)} {segment : List Char}
    (listed : segment ∈ shorten file path) : segment ∈ path := by
  unfold shorten at listed
  split at listed
  · split at listed
    · exact listed
    · cases listed
  · exact (List.dropLast_sublist path).subset listed

/-- The end of a segment keeps a path plain. -/
theorem plain_closeSegment {special file : Bool} {path : List (List Char)} {buffer : List Char}
    (plain : ∀ segment ∈ path, Plain special segment)
    (chars : ∀ char ∈ buffer, isPathChar special char = true) (atEnd : Bool) :
    ∀ segment ∈ closeSegment file path buffer atEnd, Plain special segment := by
  have ending : ∀ segment ∈ (if atEnd then [[]] else [] : List (List Char)),
      Plain special segment := by
    intro segment listed
    cases atEnd with
    | true =>
      rw [List.mem_singleton.mp listed]
      exact plain_nil special
    | false => cases listed
  intro segment listed
  unfold closeSegment at listed
  split at listed
  · cases List.mem_append.mp listed with
    | inl before => exact plain segment (mem_shorten before)
    | inr last => exact ending segment last
  · rename_i notDouble
    split at listed
    · cases List.mem_append.mp listed with
      | inl before => exact plain segment before
      | inr last => exact ending segment last
    · rename_i notSingle
      have own : Plain special buffer :=
        ⟨chars, eq_false_of_ne_true notSingle, eq_false_of_ne_true notDouble⟩
      cases List.mem_append.mp listed with
      | inl before => exact plain segment before
      | inr last =>
        rw [List.mem_singleton.mp last]
        split
        · exact plain_driveSegment own
        · exact own

/-- Every segment that the parser reads is plain. -/
theorem plain_pathState {special file : Bool} {path : List (List Char)} {buffer : List Char}
    (plain : ∀ segment ∈ path, Plain special segment)
    (chars : ∀ char ∈ buffer, isPathChar special char = true) (text : List Char) :
    ∀ segment ∈ pathState special file path buffer text, Plain special segment := by
  induction text generalizing path buffer with
  | nil => exact plain_closeSegment plain chars true
  | cons char text inductionHypothesis =>
    rw [pathState]
    split
    · apply inductionHypothesis (plain_closeSegment plain chars false)
      intro char listed
      cases listed
    · rename_i inside
      apply inductionHypothesis plain
      intro next listed
      cases List.mem_append.mp listed with
      | inl before => exact chars next before
      | inr encoded => exact isPathChar_encodeChar (eq_false_of_ne_true inside) next encoded

theorem plain_pathStart (special file : Bool) (text : List Char) :
    ∀ segment ∈ pathStart special file text, Plain special segment := by
  have read (text : List Char) : ∀ segment ∈ pathState special file [] [] text,
      Plain special segment :=
    plain_pathState (fun _ listed => by cases listed) (fun _ listed => by cases listed) text
  cases text with
  | nil =>
    rw [pathStart]
    split
    · exact read []
    · intro segment listed
      cases listed
  | cons char rest => exact read _

theorem pathState_ne_nil (special file : Bool) (path : List (List Char)) (buffer text : List Char) :
    pathState special file path buffer text ≠ [] := by
  induction text generalizing path buffer with
  | nil =>
    rw [pathState, closeSegment]
    split
    · simp
    · split <;> simp
  | cons char text inductionHypothesis =>
    rw [pathState]
    split
    · exact inductionHypothesis _ _
    · exact inductionHypothesis _ _

theorem pathStart_ne_nil (file : Bool) (text : List Char) : pathStart true file text ≠ [] := by
  cases text with
  | nil => exact pathState_ne_nil _ _ _ _ _
  | cons char rest => exact pathState_ne_nil _ _ _ _ _

/-! ## Reading a path again -/

/-- The path of segments as text. -/
def joined (segments : List (List Char)) : List Char :=
  segments.flatMap (fun segment => '/' :: segment)

theorem isPathChar_visible {special : Bool} {char : Char} (kept : isPathChar special char = true) :
    isBlank char = false ∧ char ≠ '?' ∧ char ≠ '#' ∧ encodeChar inPathSet char = [char] ∧
      isSlash special char = false := by
  obtain ⟨notInSet, inside⟩ : inPathSet char = false ∧ isSlash special char = false := by
    simpa [isPathChar] using kept
  refine ⟨?_, ?_, ?_, ?_, inside⟩
  · by_contra blank
    have low : char.toNat ≤ 0x20 := by simpa [isBlank] using blank
    cases Nat.lt_or_ge char.toNat 0x20 with
    | inl control =>
      have inControl : inControlSet char = true := by
        simp only [inControlSet, Bool.or_eq_true, decide_eq_true_eq]
        omega
      simp [inPathSet, inControl] at notInSet
    | inr atLeast =>
      have space : char = ' ' := by
        apply Char.toNat_inj.mp
        have code : ' '.toNat = 0x20 := rfl
        omega
      rw [space] at notInSet
      cases notInSet
  · rintro rfl
    cases notInSet
  · rintro rfl
    cases notInSet
  · simp [encodeChar, notInSet]

/-- A character of a joined path that is no slash is kept. -/
theorem mem_joined {special : Bool} {segments : List (List Char)}
    (plain : ∀ segment ∈ segments, Plain special segment) {char : Char}
    (listed : char ∈ joined segments) : char = '/' ∨ isPathChar special char = true := by
  obtain ⟨segment, member, inside⟩ := List.mem_flatMap.mp listed
  cases List.mem_cons.mp inside with
  | inl slash => exact Or.inl slash
  | inr within => exact Or.inr ((plain segment member).chars char within)

theorem clean_of_visible {text : List Char} (visible : ∀ char ∈ text, isBlank char = false) :
    clean text = text := by
  have untrimmed (part : List Char) (inside : ∀ char ∈ part, isBlank char = false) :
      part.dropWhile isBlank = part := by
    cases part with
    | nil => rfl
    | cons first rest => rw [List.dropWhile_cons_of_neg (by simp [inside first List.mem_cons_self])]
  have backwards : ∀ char ∈ text.reverse, isBlank char = false := by
    intro char listed
    exact visible char (List.mem_reverse.mp listed)
  unfold clean
  rw [untrimmed text visible, untrimmed text.reverse backwards, List.reverse_reverse,
    List.filter_eq_self]
  intro char listed
  have dark := visible char listed
  simp only [isBlank, decide_eq_false_iff_not] at dark
  simp only [isTabOrNewline, Bool.not_eq_true', Bool.or_eq_false_iff, decide_eq_false_iff_not]
  omega

theorem bodyOf_of_plain {text : List Char} (plain : ∀ char ∈ text, char ≠ '?' ∧ char ≠ '#') :
    bodyOf text = text := by
  apply List.takeWhile_eq_self_iff.mpr
  intro char listed
  simpa using plain char listed

theorem queryOf_of_plain {text : List Char} (plain : ∀ char ∈ text, char ≠ '?' ∧ char ≠ '#')
    (special : Bool) : queryOf special text = none := by
  have kept : text.takeWhile (fun char => char ≠ '#') = text := by
    apply List.takeWhile_eq_self_iff.mpr
    intro char listed
    simpa using (plain char listed).2
  have dropped : text.dropWhile (fun char => char ≠ '?') = [] := by
    apply List.dropWhile_eq_nil_iff.mpr
    intro char listed
    simpa using (plain char listed).1
  simp only [queryOf, kept, dropped]

/-- Characters that are kept are read into the buffer as they are. -/
theorem pathState_chars {special file : Bool} {path : List (List Char)} {buffer chunk : List Char}
    (kept : ∀ char ∈ chunk, isPathChar special char = true) (rest : List Char) :
    pathState special file path buffer (chunk ++ rest) =
      pathState special file path (buffer ++ chunk) rest := by
  induction chunk generalizing buffer with
  | nil => rw [List.nil_append, List.append_nil]
  | cons char chunk inductionHypothesis =>
    obtain ⟨first, others⟩ := List.forall_mem_cons.mp kept
    obtain ⟨-, -, -, encoded, inside⟩ := isPathChar_visible first
    rw [List.cons_append, pathState, if_neg (by simp [inside]), encoded,
      inductionHypothesis others, List.append_assoc, List.singleton_append]

theorem closeSegment_plain {special : Bool} {segment : List Char} (plain : Plain special segment)
    (path : List (List Char)) (atEnd : Bool) :
    closeSegment false path segment atEnd = path ++ [segment] := by
  simp [closeSegment, plain.single, plain.double]

/-- Plain segments are read as they are. -/
theorem pathState_joined {special : Bool} {first : List Char} {others : List (List Char)}
    (plain : ∀ segment ∈ first :: others, Plain special segment) (path : List (List Char)) :
    pathState special false path [] (first ++ joined others) = path ++ first :: others := by
  induction others generalizing first path with
  | nil =>
    have own : Plain special first := plain first List.mem_cons_self
    rw [pathState_chars own.chars, List.nil_append]
    exact closeSegment_plain own path true
  | cons second others inductionHypothesis =>
    obtain ⟨own, rest⟩ := List.forall_mem_cons.mp plain
    have shape : joined (second :: others) = '/' :: (second ++ joined others) := by
      simp [joined]
    have slash : isSlash special '/' = true := rfl
    rw [pathState_chars own.chars, List.nil_append, shape, pathState, if_pos slash,
      closeSegment_plain own, inductionHypothesis rest, List.append_assoc, List.singleton_append]

theorem length_shorten (file : Bool) (path : List (List Char)) :
    (joined (shorten file path)).length ≤ (joined path).length := by
  unfold shorten
  split
  · split
    · exact Nat.le_refl _
    · exact Nat.zero_le _
  · exact ((List.dropLast_sublist path).flatMap _).length_le

/-- Reading a text without characters to encode makes no path that is longer. -/
theorem length_pathState {path : List (List Char)} {buffer text : List Char}
    (kept : ∀ char ∈ text, char = '/' ∨ isPathChar true char = true) :
    (joined (pathState true false path buffer text)).length ≤
      (joined path).length + buffer.length + text.length + 1 := by
  have closed (path : List (List Char)) (buffer : List Char) (atEnd : Bool) :
      (joined (closeSegment false path buffer atEnd)).length ≤
        (joined path).length + buffer.length + 1 := by
    have shorter := length_shorten false path
    unfold closeSegment
    split
    · cases atEnd <;> (simp [joined] at shorter ⊢; omega)
    · split
      · cases atEnd with
        | true =>
          simp [joined]
        | false =>
          simp [joined]
          omega
      · simp [joined]
        omega
  induction text generalizing path buffer with
  | nil => simpa [pathState] using closed path buffer true
  | cons char text inductionHypothesis =>
    obtain ⟨first, others⟩ := List.forall_mem_cons.mp kept
    rw [pathState, List.length_cons]
    split
    · have bound := closed path buffer false
      have rest : (joined (pathState true false (closeSegment false path buffer false) []
          text)).length ≤ (joined (closeSegment false path buffer false)).length + 0 +
            text.length + 1 := inductionHypothesis others
      omega
    · rename_i inside
      rcases first with rfl | visible
      · exact absurd rfl inside
      · rw [(isPathChar_visible visible).2.2.2.1]
        have rest : (joined (pathState true false path (buffer ++ [char]) text)).length ≤
            (joined path).length + (buffer ++ [char]).length + text.length + 1 :=
          inductionHypothesis others
        rw [List.length_append, List.length_singleton] at rest
        omega

/-! ## Resolving a path against a base -/

section Resolve

variable {hosts : HostParser} {base : Base} {url : Url}

theorem isPathChar_weaken {char : Char} (kept : isPathChar true char = true) :
    isPathChar false char = true := by
  simp only [isPathChar, isSlash, Bool.and_eq_true, Bool.not_eq_true', Bool.or_eq_false_iff,
    Bool.false_and, and_true] at kept ⊢
  exact ⟨kept.1, kept.2.1⟩

theorem isPathChar_of_plain {char : Char} (kept : isPathChar false char = true)
    (apart : char ≠ '\\') : isPathChar true char = true := by
  simp only [isPathChar, isSlash, Bool.false_and, Bool.or_false, Bool.and_eq_true,
    Bool.not_eq_true'] at kept
  simp [isPathChar, isSlash, kept, apart]

theorem Plain.weaken {special : Bool} {segment : List Char} (plain : Plain special segment) :
    Plain false segment := by
  refine ⟨?_, plain.single, plain.double⟩
  intro char listed
  cases special with
  | false => exact plain.chars char listed
  | true => exact isPathChar_weaken (plain.chars char listed)

theorem authorityUrl_path {scheme body : List Char} {query : Option (List Char)}
    (given : authorityUrl hosts scheme body query = some url) :
    url.scheme = scheme ∧ url.query = query ∧
      url.path = .inl (pathStart (isSpecial scheme) false
        (body.dropWhile (fun char => !isSlash (isSpecial scheme) char))) := by
  obtain ⟨authority, -, rfl⟩ := Option.map_eq_some_iff.mp given
  exact ⟨rfl, rfl, rfl⟩

theorem fileUrl_path {body : List Char} {query : Option (List Char)}
    (given : fileUrl hosts body query = some url) :
    url.scheme = "file".toList ∧
      ∃ segments, url.path = .inl segments ∧ ∀ segment ∈ segments, Plain true segment := by
  have read (text : List Char) : ∀ segment ∈ pathState true true [] [] text, Plain true segment :=
    plain_pathState (fun _ listed => by cases listed) (fun _ listed => by cases listed) text
  unfold fileUrl at given
  split at given
  · split at given
    · dsimp only at given
      split at given
      · cases given
        exact ⟨rfl, _, rfl, read _⟩
      · split at given
        · cases given
          exact ⟨rfl, _, rfl, plain_pathStart _ _ _⟩
        · obtain ⟨host, -, rfl⟩ := Option.map_eq_some_iff.mp given
          exact ⟨rfl, _, rfl, plain_pathStart _ _ _⟩
    · cases given
      exact ⟨rfl, _, rfl, plain_pathStart _ _ _⟩
  · cases given
    exact ⟨rfl, _, rfl, plain_pathStart _ _ _⟩

/-- Percent-encoding makes no slash. -/
theorem head?_encodeChar {inSet : Char → Bool} {char : Char} (apart : char ≠ '/')
    (rest : List Char) : (encodeChar inSet char ++ rest).head? ≠ some '/' := by
  unfold encodeChar
  split
  · obtain ⟨first, others, shape, -⟩ := Utf8.utf8EncodeChar_shape char
    rw [shape]
    simp [percentEncodeByte]
  · simpa using apart

/-- The path of a URL is divided into plain segments, or it does not start with a slash. -/
theorem parse_path {input : List Char} (parsed : parse hosts input = some url) :
    (∃ segments, url.path = .inl segments ∧ ∀ segment ∈ segments, Plain false segment) ∨
      ∃ text, url.path = .inr text ∧ text.head? ≠ some '/' := by
  obtain ⟨⟨scheme, rest⟩, -, given⟩ := Option.bind_eq_some_iff.mp parsed
  dsimp only [absoluteUrl] at given
  split at given
  · obtain ⟨-, segments, path, plain⟩ := fileUrl_path given
    exact Or.inl ⟨segments, path, fun segment listed => (plain segment listed).weaken⟩
  · split at given
    · obtain ⟨-, -, path⟩ := authorityUrl_path given
      exact Or.inl ⟨_, path, fun segment listed => (plain_pathStart _ _ _ segment listed).weaken⟩
    · split at given
      · obtain ⟨-, -, path⟩ := authorityUrl_path given
        exact Or.inl ⟨_, path, fun segment listed => (plain_pathStart _ _ _ segment listed).weaken⟩
      · cases given
        exact Or.inl ⟨_, rfl, plain_pathState (fun _ listed => by cases listed)
          (fun _ listed => by cases listed) _⟩
      · rename_i _ unrooted
        cases given
        right
        refine ⟨_, rfl, ?_⟩
        cases body : bodyOf rest with
        | nil => simp
        | cons first more =>
          apply head?_encodeChar
          rintro rfl
          exact unrooted more body

/-- A path with a slash in front is resolved to plain segments without a query. -/
theorem relativeUrl_rooted {text : List Char} {query : Option (List Char)}
    (given : relativeUrl hosts base ('/' :: text) query = some url) :
    url.query = query ∧ ∃ segments, url.path = .inl segments ∧
      ∀ segment ∈ segments, Plain true segment := by
  have read (text : List Char) : ∀ segment ∈ pathState true false [] [] text, Plain true segment :=
    plain_pathState (fun _ listed => by cases listed) (fun _ listed => by cases listed) text
  have slash : isSlash true '/' = true := rfl
  cases text with
  | nil =>
    simp only [relativeUrl, slash, if_true] at given
    cases given
    exact ⟨rfl, _, rfl, read _⟩
  | cons second more =>
    simp only [relativeUrl, slash, if_true] at given
    split at given
    · obtain ⟨-, sameQuery, path⟩ := authorityUrl_path given
      rw [base.special] at path
      exact ⟨sameQuery, _, path, plain_pathStart _ _ _⟩
    · cases given
      exact ⟨rfl, _, rfl, read _⟩

/-- After two slashes the path of the resolved URL is shorter than the path that was given. -/
theorem length_doubled {more : List Char}
    (kept : ∀ char ∈ more, char = '/' ∨ isPathChar true char = true)
    (given : relativeUrl hosts base ('/' :: '/' :: more) none = some url) :
    url.pathname.length < more.length + 2 := by
  have slash : isSlash true '/' = true := rfl
  simp only [relativeUrl, slash, if_true] at given
  obtain ⟨-, -, path⟩ := authorityUrl_path given
  rw [base.special] at path
  generalize rest_eq : (more.dropWhile (isSlash true)).dropWhile
    (fun char => !isSlash true char) = rest at path
  have suffix : rest <:+ more := by
    rw [← rest_eq]
    exact (List.dropWhile_suffix _).trans (List.dropWhile_suffix _)
  rw [pathname, path]
  change (joined (pathStart true false rest)).length < more.length + 2
  cases rest with
  | nil => 
    change 1 < _
    omega
  | cons first after =>
    have first_slash : isSlash true first = true := by
      have stopped := List.head?_dropWhile_not (fun char => !isSlash true char)
        (more.dropWhile (isSlash true))
      rw [rest_eq] at stopped
      simpa using stopped
    have bound : (joined (pathState true false [] [] after)).length ≤
        (joined []).length + 0 + after.length + 1 := by
      apply length_pathState
      intro char listed
      exact kept char (suffix.subset (List.mem_cons_of_mem _ listed))
    have shorter := suffix.length_le
    rw [List.length_cons] at shorter
    rw [pathStart, if_pos first_slash]
    simp only [joined, List.flatMap_nil, List.length_nil] at bound ⊢
    omega

/-- What `resolve` does with a path: it is cleaned, it has no scheme, and no query. -/
theorem resolve_path {text : List Char}
    (kept : ∀ char ∈ text, char = '/' ∨ isPathChar false char = true) :
    resolve hosts base ('/' :: text) = relativeUrl hosts base ('/' :: text) none := by
  have visible : ∀ char ∈ '/' :: text, isBlank char = false ∧ char ≠ '?' ∧ char ≠ '#' := by
    intro char listed
    have slash : isBlank '/' = false ∧ '/' ≠ '?' ∧ '/' ≠ '#' := by decide
    rcases List.mem_cons.mp listed with rfl | within
    · exact slash
    · rcases kept char within with rfl | plain
      · exact slash
      · obtain ⟨dark, noQuery, noFragment, -, -⟩ := isPathChar_visible plain
        exact ⟨dark, noQuery, noFragment⟩
  have cleaned : clean ('/' :: text) = '/' :: text :=
    clean_of_visible (fun char listed => (visible char listed).1)
  have unscheme : splitScheme ('/' :: text) = none := rfl
  simp only [resolve, cleaned, unscheme]
  rw [bodyOf_of_plain (fun char listed => (visible char listed).2),
    queryOf_of_plain (fun char listed => (visible char listed).2)]

theorem pathname_slash {segments : List (List Char)} (path : url.path = .inl segments)
    (rooted : segments ≠ []) : url.pathname.head? = some '/' := by
  rw [pathname, path]
  cases segments with
  | nil => exact absurd rfl rooted
  | cons first others => rfl

theorem relativeUrl_slash {body : List Char} {query : Option (List Char)}
    (given : relativeUrl hosts base body query = some url) : url.pathname.head? = some '/' := by
  unfold relativeUrl at given
  dsimp only at given
  split at given
  · cases given
    exact pathname_slash rfl base.rooted
  · split at given
    · split at given
      · cases given
        exact pathname_slash rfl (pathState_ne_nil _ _ _ _ _)
      · split at given
        · obtain ⟨-, -, path⟩ := authorityUrl_path given
          rw [base.special] at path
          exact pathname_slash path (pathStart_ne_nil _ _)
        · cases given
          exact pathname_slash rfl (pathState_ne_nil _ _ _ _ _)
    · cases given
      exact pathname_slash rfl (pathState_ne_nil _ _ _ _ _)

/-- A URL of the scheme of its base has a path with a slash in front. -/
theorem resolve_slash {input : List Char} (given : resolve hosts base input = some url)
    (same : url.scheme = base.scheme) : url.pathname.head? = some '/' := by
  have absolute {scheme body : List Char} {query : Option (List Char)}
      (given : absoluteUrl hosts scheme body query = some url) :
      url.pathname.head? = some '/' := by
    unfold absoluteUrl at given
    split at given
    · obtain ⟨file, -⟩ := fileUrl_path given
      have remote := base.remote
      rw [← same, file] at remote
      cases remote
    · split at given
      · rename_i special
        obtain ⟨-, -, path⟩ := authorityUrl_path given
        rw [special] at path
        exact pathname_slash path (pathStart_ne_nil _ _)
      · rename_i notSpecial
        have own : url.scheme = scheme := by
          split at given
          · exact (authorityUrl_path given).1
          · cases given
            rfl
          · cases given
            rfl
        exact absurd (by rw [← own, same, base.special]) notSpecial
  unfold resolve at given
  split at given
  · exact relativeUrl_slash given
  · split at given
    · exact relativeUrl_slash given
    · exact absolute given

/-- A path that has one slash in front and no backslash is resolved to itself. -/
theorem resolve_straight {first : List Char} {others : List (List Char)}
    (plain : ∀ segment ∈ first :: others, Plain true segment)
    (single : (first ++ joined others).head? ≠ some '/') :
    resolve hosts base (joined (first :: others)) =
      some ⟨base.scheme, some base.host, base.port, .inl (first :: others), none⟩ := by
  have shape : joined (first :: others) = '/' :: (first ++ joined others) := by
    simp [joined]
  have kept : ∀ char ∈ first ++ joined others, char = '/' ∨ isPathChar true char = true := by
    intro char listed
    apply mem_joined plain
    rw [shape]
    exact List.mem_cons_of_mem _ listed
  have weak : ∀ char ∈ first ++ joined others, char = '/' ∨ isPathChar false char = true := by
    intro char listed
    cases kept char listed with
    | inl slash => exact Or.inl slash
    | inr plain =>
      right
      simp only [isPathChar, isSlash, Bool.and_eq_true, Bool.not_eq_true', Bool.or_eq_false_iff,
        Bool.false_and, and_true] at plain ⊢
      exact ⟨plain.1, plain.2.1⟩
  have read : pathState true false [] [] (first ++ joined others) = first :: others := by
    rw [pathState_joined plain []]
    rfl
  have slash : isSlash true '/' = true := rfl
  rw [shape, resolve_path weak]
  cases rest : first ++ joined others with
  | nil =>
    rw [rest] at read
    simp only [relativeUrl, slash, if_true, read]
  | cons second more =>
    rw [rest] at read single kept
    have inside : isSlash true second = false := by
      cases kept second List.mem_cons_self with
      | inl same => exact absurd (by rw [same]; rfl) single
      | inr visible => exact (isPathChar_visible visible).2.2.2.2
    simp only [relativeUrl, slash, if_true, inside, read, Bool.false_eq_true, if_false]

end Resolve

end Url
