import WebPubSub.Library.UrlHost

/-!
# The text of a server's URL

The whole URL of a server, with its user name, its password and its fragment, as the
constructor reads it and as it is written. A URL that was read is read again from its own
text, when the parser of hosts gives hosts that it gives again.

A server has a special scheme other than `file`.
-/

namespace Url

/-- A user name or a password is encoded with these. -/
def inUserinfoSet (char : Char) : Bool := inPathSet char || "/:;=@[\\]|".toList.contains char

def inFragmentSet (char : Char) : Bool := inControlSet char || " \"<>\x60".toList.contains char

structure Server where
  scheme : List Char
  username : List Char
  password : List Char
  host : List Char
  port : Option Nat
  path : List (List Char)
  query : Option (List Char)
  fragment : Option (List Char)
deriving DecidableEq

/-- What stands before the last `@`. -/
def userinfoOf (authority : List Char) : List Char :=
  ((authority.reverse.dropWhile (fun char => char ≠ '@')).drop 1).reverse

def usernameOf (userinfo : List Char) : List Char :=
  (userinfo.takeWhile (fun char => char ≠ ':')).flatMap (encodeChar inUserinfoSet)

/-- What stands behind the first colon. -/
def passwordOf (userinfo : List Char) : List Char :=
  ((userinfo.dropWhile (fun char => char ≠ ':')).drop 1).flatMap (encodeChar inUserinfoSet)

def fragmentOf (text : List Char) : Option (List Char) :=
  match text.dropWhile (fun char => char ≠ '#') with
  | [] => none
  | _ :: fragment => some (fragment.flatMap (encodeChar inFragmentSet))

namespace Server

/-- `new URL(input)` for the URL of a server; `none` for any other and for no URL. -/
def read (hosts : HostParser) (input : List Char) : Option Server :=
  (splitScheme (clean input)).bind (fun split =>
    if isSpecial split.1 = true ∧ isFile split.1 = false then
      let within := fun char => !isSlash true char
      let body := (bodyOf split.2).dropWhile (isSlash true)
      let userinfo := userinfoOf (body.takeWhile within)
      (parseAuthority hosts split.1 (body.takeWhile within)).map (fun authority =>
        { scheme := split.1
          username := usernameOf userinfo
          password := passwordOf userinfo
          host := authority.1
          port := authority.2
          path := pathStart true false (body.dropWhile within)
          query := queryOf true split.2
          fragment := fragmentOf split.2 })
    else none)

/-- The URL without the parts that a request leaves out. -/
def url (server : Server) : Url :=
  ⟨server.scheme, some server.host, server.port, .inl server.path, server.query⟩

/-- The user name and the password before a host. -/
def userinfo (server : Server) : List Char :=
  if server.username = [] ∧ server.password = [] then []
  else server.username ++
    ((if server.password = [] then [] else ':' :: server.password) ++ ['@'])

def portText (server : Server) : List Char :=
  match server.port with
  | none => []
  | some port => ':' :: Nat.toDigits 10 port

/-- A part behind its mark, if it is there. -/
def marked (mark : Char) : Option (List Char) → List Char
  | none => []
  | some part => mark :: part

/-- The URL as text, as `toString` gives it. -/
def text (server : Server) : List Char :=
  server.scheme ++ ':' :: '/' :: '/' ::
    ((server.userinfo ++ (server.host ++ server.portText)) ++ (joined server.path ++
      (marked '?' server.query ++ marked '#' server.fragment)))

end Server

/-! ## Encoded text -/

/-- No character of the text is in the set. -/
def Outside (inSet : Char → Bool) (text : List Char) : Prop := ∀ char ∈ text, inSet char = false

/-- A set leaves percent-encoded bytes alone. -/
structure KeepsEncoded (inSet : Char → Bool) : Prop where
  percent : inSet '%' = false
  digit : ∀ value < 16, inSet (hexDigit value) = false

theorem keepsEncoded_userinfo : KeepsEncoded inUserinfoSet := ⟨rfl, by decide⟩

theorem keepsEncoded_fragment : KeepsEncoded inFragmentSet := ⟨rfl, by decide⟩

theorem keepsEncoded_query : KeepsEncoded (inQuerySet true) := ⟨rfl, by decide⟩

section Encoded

variable {inSet : Char → Bool}

theorem KeepsEncoded.outside (keeps : KeepsEncoded inSet) (text : List Char) :
    Outside inSet (text.flatMap (encodeChar inSet)) := by
  intro char listed
  obtain ⟨source, -, encoded⟩ := List.mem_flatMap.mp listed
  unfold encodeChar at encoded
  split at encoded
  · obtain ⟨byte, -, digit⟩ := List.mem_flatMap.mp encoded
    have small := byte.toNat_lt
    simp only [percentEncodeByte, List.mem_cons, List.not_mem_nil, or_false] at digit
    rcases digit with rfl | rfl | rfl
    · exact keeps.percent
    · exact keeps.digit _ (by omega)
    · exact keeps.digit _ (by omega)
  · rename_i kept
    rw [List.mem_singleton.mp encoded]
    exact eq_false_of_ne_true kept

/-- Text with nothing to encode is kept. -/
theorem Outside.encode {text : List Char} (outside : Outside inSet text) :
    text.flatMap (encodeChar inSet) = text := by
  have kept : ∀ char ∈ text, encodeChar inSet char = [char] := by
    intro char listed
    simp [encodeChar, outside char listed]
  rw [List.flatMap_def, List.map_congr_left kept, ← List.flatMap_def]
  exact List.flatMap_singleton' text

/-- A character that no set of controls and no space has is visible. -/
theorem isBlank_of_outside {char : Char} (control : inControlSet char = false)
    (space : char ≠ ' ') : isBlank char = false := by
  have apart : char.toNat ≠ 0x20 := fun same => space (Char.toNat_inj.mp same)
  simp only [inControlSet, Bool.or_eq_false_iff, decide_eq_false_iff_not] at control
  simp only [isBlank, decide_eq_false_iff_not]
  omega

end Encoded

theorem inUserinfoSet_visible {char : Char} (outside : inUserinfoSet char = false) :
    isBlank char = false ∧ char ≠ '?' ∧ char ≠ '#' ∧ char ≠ '@' ∧ char ≠ ':' ∧
      isSlash true char = false := by
  have apart (mark : Char) (inside : inUserinfoSet mark = true) : char ≠ mark := by
    rintro rfl
    rw [outside] at inside
    cases inside
  have control : inControlSet char = false := by
    cases inside : inControlSet char with
    | false => rfl
    | true => simp [inUserinfoSet, inPathSet, inside] at outside
  refine ⟨isBlank_of_outside control (apart ' ' rfl), apart '?' rfl, apart '#' rfl, apart '@' rfl,
    apart ':' rfl, ?_⟩
  simp [isSlash, apart '/' rfl, apart '\\' rfl]

theorem inQuerySet_visible {char : Char} (outside : inQuerySet true char = false) :
    isBlank char = false ∧ char ≠ '#' ∧ char ≠ '"' := by
  have apart (mark : Char) (inside : inQuerySet true mark = true) : char ≠ mark := by
    rintro rfl
    rw [outside] at inside
    cases inside
  have control : inControlSet char = false := by
    cases inside : inControlSet char with
    | false => rfl
    | true => simp [inQuerySet, inside] at outside
  exact ⟨isBlank_of_outside control (apart ' ' rfl), apart '#' rfl, apart '"' rfl⟩

theorem inFragmentSet_visible {char : Char} (outside : inFragmentSet char = false) :
    isBlank char = false ∧ char ≠ '"' := by
  have apart (mark : Char) (inside : inFragmentSet mark = true) : char ≠ mark := by
    rintro rfl
    rw [outside] at inside
    cases inside
  have control : inControlSet char = false := by
    cases inside : inControlSet char with
    | false => rfl
    | true => simp [inFragmentSet, inside] at outside
  exact ⟨isBlank_of_outside control (apart ' ' rfl), apart '"' rfl⟩

/-! ## Servers as they are read -/

/-- The parser of hosts gives hosts that it gives again: visible text without what ends a
host, a colon in it standing in brackets. -/
structure SettledHosts (hosts : HostParser) : Prop where
  again : ∀ text host, hosts true text = some host → hosts true host = some host
  nonempty : ∀ text host, hosts true text = some host → host ≠ []
  inside : ∀ text host, hosts true text = some host →
    ∀ char ∈ host, isBlank char = false ∧ char ∉ ['/', '\\', '?', '#', '@']
  enclosed : ∀ text host, hosts true text = some host → ∀ rest,
    splitPort false (host ++ rest) = (host ++ (splitPort false rest).1, (splitPort false rest).2)

/-- A URL of a server as the constructor leaves it. -/
structure Server.Normal (hosts : HostParser) (server : Server) : Prop where
  special : isSpecial server.scheme = true ∧ isFile server.scheme = false
  username : Outside inUserinfoSet server.username
  password : Outside inUserinfoSet server.password
  host : ∃ text, hosts true text = some server.host
  port : ∀ port, server.port = some port → port ≤ 65535 ∧ defaultPort server.scheme ≠ some port
  rooted : server.path ≠ []
  path : ∀ segment ∈ server.path, Plain true segment
  query : ∀ query, server.query = some query → Outside (inQuerySet true) query
  fragment : ∀ fragment, server.fragment = some fragment → Outside inFragmentSet fragment

section Reading

variable {hosts : HostParser} {scheme authority host : List Char} {port : Option Nat}

theorem parsePort_some {text : List Char} {value : Nat}
    (parsed : parsePort scheme text = some (some value)) :
    value ≤ 65535 ∧ defaultPort scheme ≠ some value := by
  simp only [parsePort] at parsed
  split_ifs at parsed with digits empty large default
  · cases parsed
  · cases parsed
  · cases parsed
    exact ⟨Nat.not_lt.mp large, default⟩

/-- The host of an authority comes from the parser of hosts, and its port is not the one of
the scheme. -/
theorem parseAuthority_some (special : isSpecial scheme = true)
    (parsed : parseAuthority hosts scheme authority = some (host, port)) :
    (∃ text, hosts true text = some host) ∧
      ∀ value, port = some value → value ≤ 65535 ∧ defaultPort scheme ≠ some value := by
  obtain ⟨text, -, given⟩ := Option.bind_eq_some_iff.mp parsed
  rw [special] at given
  split at given
  · split at given
    · cases given
    · obtain ⟨parsedHost, known, same⟩ := Option.map_eq_some_iff.mp given
      cases same
      refine ⟨⟨_, known⟩, ?_⟩
      intro value named
      cases named
  · split at given
    · cases given
    · obtain ⟨parsedHost, known, ended⟩ := Option.bind_eq_some_iff.mp given
      obtain ⟨parsedPort, numbered, same⟩ := Option.map_eq_some_iff.mp ended
      cases same
      refine ⟨⟨_, known⟩, ?_⟩
      rintro value rfl
      exact parsePort_some numbered

theorem outside_queryOf {text query : List Char} (asked : queryOf true text = some query) :
    Outside (inQuerySet true) query := by
  unfold queryOf at asked
  split at asked
  · cases asked
  · cases asked
    exact keepsEncoded_query.outside _

theorem outside_fragmentOf {text fragment : List Char} (marked : fragmentOf text = some fragment) :
    Outside inFragmentSet fragment := by
  unfold fragmentOf at marked
  split at marked
  · cases marked
  · cases marked
    exact keepsEncoded_fragment.outside _

/-- What the constructor gives is normal. -/
theorem Server.normal_read {input : List Char} {server : Server}
    (given : read hosts input = some server) : server.Normal hosts := by
  obtain ⟨split, -, read⟩ := Option.bind_eq_some_iff.mp given
  split at read
  · rename_i special
    obtain ⟨authority, parsed, rfl⟩ := Option.map_eq_some_iff.mp read
    obtain ⟨known, numbered⟩ := parseAuthority_some special.1 parsed
    exact {
      special := special
      username := keepsEncoded_userinfo.outside _
      password := keepsEncoded_userinfo.outside _
      host := known
      port := numbered
      rooted := pathStart_ne_nil _ _
      path := plain_pathStart _ _ _
      query := fun _ asked => outside_queryOf asked
      fragment := fun _ marked => outside_fragmentOf marked }
  · cases read

/-- The parts that a request uses are those of the URL. -/
theorem Server.parse_read {input : List Char} {server : Server}
    (given : read hosts input = some server) : parse hosts input = some server.url := by
  obtain ⟨split, divided, read⟩ := Option.bind_eq_some_iff.mp given
  split at read
  · rename_i special
    obtain ⟨authority, parsed, rfl⟩ := Option.map_eq_some_iff.mp read
    rw [parse, divided, Option.bind_some]
    unfold absoluteUrl
    simp only [special.1, special.2, Bool.false_eq_true, if_false, if_true, specialAuthorityUrl,
      authorityUrl, parsed, Option.map_some, Server.url]
  · cases read

end Reading

/-! ## Reading the text of a server -/

section Text

theorem afterCredentials_append {before tail : List Char} (absent : '@' ∉ tail)
    (nonempty : tail ≠ []) : afterCredentials (before ++ '@' :: tail) = some tail := by
  have whole : ∀ char ∈ tail.reverse, decide (char ≠ '@') = true := by
    intro char listed
    have apart : char ≠ '@' := by
      rintro rfl
      exact absent (List.mem_reverse.mp listed)
    simpa using apart
  have taken : (before ++ '@' :: tail).reverse.takeWhile (fun char => char ≠ '@') =
      tail.reverse := by
    rw [List.reverse_append, List.reverse_cons, List.append_assoc,
      List.takeWhile_append_of_pos whole, List.singleton_append,
      List.takeWhile_cons_of_neg (by simp), List.append_nil]
  simp only [afterCredentials, taken, List.reverse_reverse, nonempty, and_false, if_false]

theorem userinfoOf_append {before tail : List Char} (absent : '@' ∉ tail) :
    userinfoOf (before ++ '@' :: tail) = before := by
  have whole : ∀ char ∈ tail.reverse, decide (char ≠ '@') = true := by
    intro char listed
    have apart : char ≠ '@' := by
      rintro rfl
      exact absent (List.mem_reverse.mp listed)
    simpa using apart
  rw [userinfoOf, List.reverse_append, List.reverse_cons, List.append_assoc,
    List.dropWhile_append_of_pos whole, List.singleton_append,
    List.dropWhile_cons_of_neg (by simp), List.drop_one, List.tail_cons, List.reverse_reverse]

theorem userinfoOf_none {authority : List Char} (absent : '@' ∉ authority) :
    userinfoOf authority = [] := by
  have whole : authority.reverse.dropWhile (fun char => char ≠ '@') = [] := by
    apply List.dropWhile_eq_nil_iff.mpr
    intro char listed
    have apart : char ≠ '@' := by
      rintro rfl
      exact absent (List.mem_reverse.mp listed)
    simpa using apart
  rw [userinfoOf, whole]
  rfl

/-- A port is read from its digits. -/
theorem parsePort_toDigits {scheme : List Char} {port : Nat} (small : port ≤ 65535)
    (other : defaultPort scheme ≠ some port) :
    parsePort scheme (Nat.toDigits 10 port) = some (some port) := by
  have digits : (Nat.toDigits 10 port).all Char.isDigit = true :=
    List.all_eq_true.mpr (fun char listed =>
      Nat.isDigit_of_mem_toDigits (by decide) (by decide) listed)
  have value : (Nat.toDigits 10 port).foldl
      (fun value char => value * 10 + (char.toNat - 48)) 0 = port := by
    have named : Nat.ofDigitChars 10 (Nat.toDigits 10 port) 0 = port :=
      Nat.ofDigitChars_ten_toDigits
    rw [Nat.ofDigitChars_eq_foldl] at named
    have same : (fun (value : Nat) (char : Char) => value * 10 + (char.toNat - 48)) =
        fun value char => 10 * value + (char.toNat - '0'.toNat) := by
      funext value char
      rw [Nat.mul_comm]
      rfl
    rw [same, named]
  simp only [parsePort, value, digits, Bool.not_true, Bool.false_eq_true, if_false,
    Nat.toDigits_ne_nil, Nat.not_lt.mpr small, other]

namespace Server

variable {hosts : HostParser} {server : Server}

theorem mem_portText {char : Char} (listed : char ∈ server.portText) :
    char = ':' ∨ char.isDigit = true := by
  unfold portText at listed
  split at listed
  · cases listed
  · rcases List.mem_cons.mp listed with rfl | digit
    · exact Or.inl rfl
    · exact Or.inr (Nat.isDigit_of_mem_toDigits (by decide) (by decide) digit)

/-- A mark of a port stands in no other part. -/
theorem portChar {char : Char} (digit : char = ':' ∨ char.isDigit = true) :
    isBlank char = false ∧ char ∉ ['/', '\\', '?', '#', '@'] := by
  rcases digit with rfl | digit
  · decide
  · have foreign : ['/', '\\', '?', '#', '@'].all (fun mark => !mark.isDigit) = true := rfl
    constructor
    · simp only [Char.isDigit, Bool.and_eq_true, decide_eq_true_eq] at digit
      have low : 48 ≤ char.toNat := UInt32.le_iff_toNat_le.mp digit.1
      simp only [isBlank, decide_eq_false_iff_not]
      omega
    · intro listed
      have apart := List.all_eq_true.mp foreign char listed
      rw [digit] at apart
      cases apart

theorem mem_userinfo {char : Char} (listed : char ∈ server.userinfo) :
    char = '@' ∨ char = ':' ∨ char ∈ server.username ∨ char ∈ server.password := by
  unfold userinfo at listed
  split at listed
  · cases listed
  · rcases List.mem_append.mp listed with name | after
    · exact Or.inr (Or.inr (Or.inl name))
    · rcases List.mem_append.mp after with word | mark
      · split at word
        · cases word
        · rcases List.mem_cons.mp word with rfl | inside
          · exact Or.inr (Or.inl rfl)
          · exact Or.inr (Or.inr (Or.inr inside))
      · exact Or.inl (List.mem_singleton.mp mark)

section Normal

variable (settled : SettledHosts hosts) (normal : server.Normal hosts)

include settled normal

/-- The characters of the authority neither end it nor are blank. -/
theorem Normal.authority_visible {char : Char}
    (listed : char ∈ server.userinfo ++ (server.host ++ server.portText)) :
    isBlank char = false ∧ char ≠ '?' ∧ char ≠ '#' ∧ isSlash true char = false := by
  have inAuthority (visible : isBlank char = false ∧ char ∉ ['/', '\\', '?', '#', '@']) :
      isBlank char = false ∧ char ≠ '?' ∧ char ≠ '#' ∧ isSlash true char = false := by
    obtain ⟨dark, outside⟩ := visible
    simp only [List.mem_cons, List.not_mem_nil, or_false, not_or] at outside
    simp [isSlash, dark, outside]
  obtain ⟨text, known⟩ := normal.host
  rcases List.mem_append.mp listed with before | after
  · rcases mem_userinfo before with rfl | rfl | name | word
    · decide
    · decide
    · obtain ⟨dark, query, fragment, -, -, inside⟩ := inUserinfoSet_visible (normal.username _ name)
      exact ⟨dark, query, fragment, inside⟩
    · obtain ⟨dark, query, fragment, -, -, inside⟩ := inUserinfoSet_visible (normal.password _ word)
      exact ⟨dark, query, fragment, inside⟩
  · rcases List.mem_append.mp after with host | digit
    · exact inAuthority (settled.inside _ _ known char host)
    · exact inAuthority (portChar (mem_portText digit))

/-- No character behind the user name and the password is an `@`. -/
theorem Normal.host_plain : '@' ∉ server.host ++ server.portText := by
  obtain ⟨text, known⟩ := normal.host
  intro listed
  rcases List.mem_append.mp listed with host | digit
  · exact (settled.inside _ _ known _ host).2 (by simp)
  · exact (portChar (mem_portText digit)).2 (by simp)

theorem Normal.host_ne_nil : server.host ≠ [] := by
  obtain ⟨text, known⟩ := normal.host
  exact settled.nonempty _ _ known

/-- The authority is read as the host and the port. -/
theorem Normal.parseAuthority :
    Url.parseAuthority hosts server.scheme (server.userinfo ++ (server.host ++ server.portText)) =
      some (server.host, server.port) := by
  obtain ⟨text, known⟩ := normal.host
  have nonempty := settled.nonempty _ _ known
  have again := settled.again _ _ known
  have tail : afterCredentials (server.userinfo ++ (server.host ++ server.portText)) =
      some (server.host ++ server.portText) := by
    have filled : server.host ++ server.portText ≠ [] := by simp [nonempty]
    unfold userinfo
    split
    · exact afterCredentials_none (normal.host_plain settled)
    · have shape (before word : List Char) :
          before ++ (word ++ ['@']) ++ (server.host ++ server.portText) =
            (before ++ word) ++ '@' :: (server.host ++ server.portText) := by simp
      rw [shape]
      exact afterCredentials_append (normal.host_plain settled) filled
  rw [Url.parseAuthority, tail, Option.bind_some, settled.enclosed _ _ known]
  cases numbered : server.port with
  | none =>
    have bare : server.portText = [] := by simp [portText, numbered]
    simp [bare, splitPort, nonempty, normal.special.1, again]
  | some port =>
    obtain ⟨small, other⟩ := normal.port port numbered
    have digits : splitPort false server.portText = ([], some (Nat.toDigits 10 port)) := by
      simp [portText, numbered, splitPort]
    simp [digits, nonempty, normal.special.1, again, parsePort_toDigits small other]

/-- The user name and the password are read from the authority. -/
theorem Normal.userinfoOf :
    usernameOf (Url.userinfoOf (server.userinfo ++ (server.host ++ server.portText))) =
        server.username ∧
      passwordOf (Url.userinfoOf (server.userinfo ++ (server.host ++ server.portText))) =
        server.password := by
  have plain : ∀ char ∈ server.username, decide (char ≠ ':') = true := by
    intro char listed
    simpa using (inUserinfoSet_visible (normal.username char listed)).2.2.2.2.1
  unfold userinfo
  split
  · rename_i empty
    rw [List.nil_append, userinfoOf_none (normal.host_plain settled), empty.1, empty.2]
    exact ⟨rfl, rfl⟩
  · have shape (before word : List Char) :
        before ++ (word ++ ['@']) ++ (server.host ++ server.portText) =
          (before ++ word) ++ '@' :: (server.host ++ server.portText) := by simp
    rw [shape, userinfoOf_append (normal.host_plain settled), usernameOf, passwordOf,
      List.takeWhile_append_of_pos plain, List.dropWhile_append_of_pos plain]
    split
    · rename_i empty
      rw [empty, List.takeWhile_nil, List.append_nil, normal.username.encode]
      exact ⟨rfl, rfl⟩
    · rw [List.takeWhile_cons_of_neg (by simp), List.dropWhile_cons_of_neg (by simp),
        List.append_nil, normal.username.encode, List.drop_one, List.tail_cons,
        normal.password.encode]
      exact ⟨rfl, rfl⟩

end Normal

section Marks

variable {front : List Char} {query fragment : Option (List Char)}

theorem bodyOf_marked (plain : ∀ char ∈ front, char ≠ '?' ∧ char ≠ '#') :
    bodyOf (front ++ (marked '?' query ++ marked '#' fragment)) = front := by
  have ends : (marked '?' query ++ marked '#' fragment).takeWhile
      (fun char => char ≠ '?' && char ≠ '#') = [] := by
    cases query with
    | some query => exact List.takeWhile_cons_of_neg (by simp)
    | none =>
      cases fragment with
      | some fragment => exact List.takeWhile_cons_of_neg (by simp)
      | none => rfl
  rw [bodyOf, List.takeWhile_append_of_pos (by simpa using plain), ends, List.append_nil]

/-- Before the fragment, the text is read up to the mark of the fragment. -/
theorem takeWhile_marked (plain : ∀ char ∈ front, char ≠ '#') :
    (front ++ marked '#' fragment).takeWhile (fun char => char ≠ '#') = front ∧
      (front ++ marked '#' fragment).dropWhile (fun char => char ≠ '#') = marked '#' fragment := by
  have all : ∀ char ∈ front, decide (char ≠ '#') = true := by simpa using plain
  rw [List.takeWhile_append_of_pos all, List.dropWhile_append_of_pos all]
  cases fragment with
  | none => exact ⟨List.append_nil front, rfl⟩
  | some fragment =>
    rw [marked, List.takeWhile_cons_of_neg (by simp), List.dropWhile_cons_of_neg (by simp),
      List.append_nil]
    exact ⟨rfl, rfl⟩

theorem fragmentOf_marked (plain : ∀ char ∈ front, char ≠ '#')
    (outside : ∀ text, fragment = some text → Outside inFragmentSet text) :
    fragmentOf (front ++ marked '#' fragment) = fragment := by
  rw [fragmentOf, (takeWhile_marked plain).2]
  cases fragment with
  | none => rfl
  | some fragment => exact congrArg some (outside fragment rfl).encode

theorem queryOf_marked (fragment : Option (List Char))
    (plain : ∀ char ∈ front, char ≠ '?' ∧ char ≠ '#')
    (outside : ∀ text, query = some text → Outside (inQuerySet true) text) :
    queryOf true ((front ++ marked '?' query) ++ marked '#' fragment) = query := by
  have unmarked : ∀ char ∈ front ++ marked '?' query, char ≠ '#' := by
    intro char listed
    rcases List.mem_append.mp listed with before | asked
    · exact (plain char before).2
    · cases query with
      | none => cases asked
      | some query =>
        rcases List.mem_cons.mp asked with rfl | inside
        · decide
        · exact (inQuerySet_visible (outside query rfl char inside)).2.1
  have dropped : (front ++ marked '?' query).dropWhile (fun char => char ≠ '?') =
      marked '?' query := by
    rw [List.dropWhile_append_of_pos (by simpa using fun char listed => (plain char listed).1)]
    cases query with
    | none => rfl
    | some query => exact List.dropWhile_cons_of_neg (by simp)
  rw [queryOf, (takeWhile_marked unmarked).1, dropped]
  cases query with
  | none => rfl
  | some query => exact congrArg some (outside query rfl).encode

end Marks

/-- A query and a fragment are visible and have no quotation mark. -/
theorem mem_marked {query fragment : Option (List Char)}
    (asked : ∀ text, query = some text → Outside (inQuerySet true) text)
    (named : ∀ text, fragment = some text → Outside inFragmentSet text) {char : Char}
    (listed : char ∈ marked '?' query ++ marked '#' fragment) :
    isBlank char = false ∧ char ≠ '"' := by
  rcases List.mem_append.mp listed with before | after
  · cases query with
    | none => cases before
    | some text =>
      rcases List.mem_cons.mp before with rfl | inside
      · decide
      · obtain ⟨dark, -, quote⟩ := inQuerySet_visible (asked text rfl char inside)
        exact ⟨dark, quote⟩
  · cases fragment with
    | none => cases after
    | some text =>
      rcases List.mem_cons.mp after with rfl | inside
      · decide
      · exact inFragmentSet_visible (named text rfl char inside)

/-- A special scheme is a word of small letters. -/
theorem word_of_special {scheme : List Char} (special : isSpecial scheme = true) :
    scheme ≠ [] ∧ (∀ char ∈ scheme, char.isAlpha = true) ∧ lower scheme = scheme := by
  have listed : scheme ∈ specialSchemes.map Prod.fst := by simpa [isSpecial] using special
  have words : (specialSchemes.map Prod.fst).all (fun word =>
      decide (word ≠ [] ∧ word.all Char.isAlpha = true ∧ lower word = word)) = true := rfl
  obtain ⟨filled, letters, lowered⟩ := of_decide_eq_true (List.all_eq_true.mp words scheme listed)
  exact ⟨filled, List.all_eq_true.mp letters, lowered⟩

/-- The text of a server is visible, and only its host may have a quotation mark. -/
theorem Normal.text_visible (settled : SettledHosts hosts) (normal : server.Normal hosts)
    {char : Char} (listed : char ∈ server.text) :
    isBlank char = false ∧ (char = '"' → char ∈ server.host) := by
  obtain ⟨-, letters, -⟩ := word_of_special normal.special.1
  rcases List.mem_append.mp listed with letter | after
  · have host := isHostChar_of_isAlpha (letters char letter)
    refine ⟨((isHostChar_iff char).mp host).1, ?_⟩
    rintro rfl
    cases letters _ letter
  · have split : char ∈ [':', '/', '/'] ++ ((server.userinfo ++ (server.host ++ server.portText)) ++
        (joined server.path ++ (marked '?' server.query ++ marked '#' server.fragment))) := after
    rcases List.mem_append.mp split with mark | rest
    · have marks : [':', '/', '/'].all (fun mark => !isBlank mark && mark ≠ '"') = true := rfl
      have plain := List.all_eq_true.mp marks char mark
      simp only [Bool.and_eq_true, Bool.not_eq_true', decide_eq_true_eq] at plain
      exact ⟨plain.1, fun quote => absurd quote plain.2⟩
    · rcases List.mem_append.mp rest with authority | behind
      · refine ⟨(normal.authority_visible settled authority).1, ?_⟩
        rintro rfl
        rcases List.mem_append.mp authority with before | place
        · rcases mem_userinfo before with mark | mark | name | word
          · cases mark
          · cases mark
          · cases normal.username _ name
          · cases normal.password _ word
        · rcases List.mem_append.mp place with host | digit
          · exact host
          · rcases mem_portText digit with mark | digit
            · cases mark
            · cases digit
      · rcases List.mem_append.mp behind with path | marks
        · rcases mem_joined normal.path path with rfl | inside
          · exact ⟨rfl, fun quote => by cases quote⟩
          · refine ⟨(isPathChar_visible inside).1, ?_⟩
            rintro rfl
            cases inside
        · obtain ⟨dark, quote⟩ := mem_marked normal.query normal.fragment marks
          exact ⟨dark, fun same => absurd same quote⟩

/-- Behind the slashes of a scheme stands the authority, up to the path. -/
theorem split_authority {authority : List Char} (tail : List Char) (filled : authority ≠ [])
    (inside : ∀ char ∈ authority, isSlash true char = false) :
    ('/' :: '/' :: (authority ++ '/' :: tail)).dropWhile (isSlash true) =
        authority ++ '/' :: tail ∧
      (authority ++ '/' :: tail).takeWhile (fun char => !isSlash true char) = authority ∧
      (authority ++ '/' :: tail).dropWhile (fun char => !isSlash true char) = '/' :: tail := by
  have within : ∀ char ∈ authority, (!isSlash true char) = true := by
    intro char listed
    simp [inside char listed]
  refine ⟨?_, ?_, ?_⟩
  · obtain ⟨first, others, rfl⟩ := List.exists_cons_of_ne_nil filled
    rw [List.dropWhile_cons_of_pos rfl, List.dropWhile_cons_of_pos rfl, List.cons_append,
      List.dropWhile_cons_of_neg (by simp [inside first List.mem_cons_self])]
  · rw [List.takeWhile_append_of_pos within, List.takeWhile_cons_of_neg (by decide),
      List.append_nil]
  · rw [List.dropWhile_append_of_pos within, List.dropWhile_cons_of_neg (by decide)]

/-- A normal URL of a server is read from its text. -/
theorem Normal.read_text (settled : SettledHosts hosts) (normal : server.Normal hosts) :
    read hosts server.text = some server := by
  obtain ⟨filled, letters, lowered⟩ := word_of_special normal.special.1
  have authority : ∀ char ∈ server.userinfo ++ (server.host ++ server.portText),
      isBlank char = false ∧ char ≠ '?' ∧ char ≠ '#' ∧ isSlash true char = false :=
    fun char => normal.authority_visible settled
  have pathChar {char : Char} (listed : char ∈ joined server.path) :
      isBlank char = false ∧ char ≠ '?' ∧ char ≠ '#' := by
    rcases mem_joined normal.path listed with rfl | inside
    · decide
    · obtain ⟨dark, query, fragment, -⟩ := isPathChar_visible inside
      exact ⟨dark, query, fragment⟩
  have plain : ∀ char ∈ '/' :: '/' :: ((server.userinfo ++ (server.host ++ server.portText)) ++
      joined server.path), isBlank char = false ∧ char ≠ '?' ∧ char ≠ '#' := by
    have slash : isBlank '/' = false ∧ '/' ≠ '?' ∧ '/' ≠ '#' := by decide
    refine List.forall_mem_cons.mpr ⟨slash, List.forall_mem_cons.mpr ⟨slash, ?_⟩⟩
    intro char listed
    rcases List.mem_append.mp listed with before | after
    · obtain ⟨dark, query, fragment, -⟩ := authority char before
      exact ⟨dark, query, fragment⟩
    · exact pathChar after
  have shape : server.text = server.scheme ++ ':' ::
      (('/' :: '/' :: ((server.userinfo ++ (server.host ++ server.portText)) ++
        joined server.path)) ++ (marked '?' server.query ++ marked '#' server.fragment)) := by
    simp [text]
  have dark : ∀ char ∈ server.text, isBlank char = false :=
    fun char listed => (normal.text_visible settled listed).1
  obtain ⟨first, others, rooted⟩ := List.exists_cons_of_ne_nil normal.rooted
  have slashed : joined server.path = '/' :: (first ++ joined others) := by
    simp [joined, rooted]
  have started : pathStart true false (joined server.path) = server.path := by
    rw [slashed, pathStart, if_pos (by rfl), pathState_joined (rooted ▸ normal.path), rooted,
      List.nil_append]
  have given : server.userinfo ++ (server.host ++ server.portText) ≠ [] := by
    simp [normal.host_ne_nil settled]
  obtain ⟨behind, within, after⟩ := split_authority (first ++ joined others) given
    (fun char listed => (authority char listed).2.2.2)
  rw [← slashed] at behind within after
  have asked := queryOf_marked server.fragment (fun char listed => (plain char listed).2)
    normal.query
  have unmarked : ∀ char ∈ ('/' :: '/' :: ((server.userinfo ++ (server.host ++ server.portText)) ++
      joined server.path)) ++ marked '?' server.query, char ≠ '#' := by
    intro char listed
    rcases List.mem_append.mp listed with before | query
    · exact (plain char before).2.2
    · cases named : server.query with
      | none => simp [named, marked] at query
      | some text =>
        rw [named] at query
        rcases List.mem_cons.mp query with rfl | inside
        · decide
        · exact (inQuerySet_visible (normal.query text named char inside)).2.1
  have named := fragmentOf_marked unmarked normal.fragment
  rw [List.append_assoc] at asked named
  obtain ⟨username, password⟩ := normal.userinfoOf settled
  rw [read, clean_of_visible dark, shape, splitScheme_append filled letters, Option.bind_some,
    lowered, if_pos normal.special]
  simp only [bodyOf_marked (fun char listed => (plain char listed).2), behind, within, after,
    normal.parseAuthority settled, Option.map_some, started, asked, named, username, password]

end Server

end Text

end Url
