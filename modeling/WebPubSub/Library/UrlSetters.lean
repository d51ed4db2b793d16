import WebPubSub.Library.Url

/-!
# Changing a URL

The setters `protocol`, `port`, `pathname` and `search` of a `URL` by the rules of the URL
standard, and `encodeURIComponent`. A setter that may not apply leaves the URL as it is: a special scheme
is only replaced by a special one, and a path that is not divided stays.

The query is percent-encoded each time it is set. Encoding twice is encoding once, for the
larger of the two sets.
-/

namespace Url

/-! ## Setters -/

/-- The setter `protocol`, for a scheme that is special and not that of files. The port is
left out when it becomes that of the scheme. -/
def setProtocol (url : Url) (scheme : List Char) : Url :=
  if isSpecial url.scheme = false ∨ (isFile url.scheme = true ∧ url.host = some []) then url
  else { url with
    scheme := scheme
    port := if url.port = defaultPort scheme then none else url.port }

/-- The setter `port`: the digits that a text begins with. A text without them, or with too
large a number, changes nothing, and no text takes the port away. -/
def setPort (url : Url) (text : List Char) : Url :=
  if url.host = none ∨ url.host = some [] ∨ isFile url.scheme = true then url
  else if text = [] then { url with port := none }
  else
    match (text.filter (fun char => !isTabOrNewline char)).takeWhile Char.isDigit with
    | [] => url
    | digit :: digits =>
      match parsePort url.scheme (digit :: digits) with
      | none => url
      | some port => { url with port := port }

/-- The setter `pathname`. -/
def setPathname (url : Url) (text : List Char) : Url :=
  match url.path with
  | .inl _ => { url with
      path := .inl (pathStart (isSpecial url.scheme) (isFile url.scheme)
        (text.filter (fun char => !isTabOrNewline char))) }
  | .inr _ => url

/-- A text as a query holds it. -/
def encodeQuery (special : Bool) (text : List Char) : List Char :=
  (text.filter (fun char => !isTabOrNewline char)).flatMap (encodeChar (inQuerySet special))

/-- The setter `search`, for a text that starts with a question mark. -/
def setSearch (url : Url) (text : List Char) : Url :=
  { url with query := some (encodeQuery (isSpecial url.scheme) text.tail) }

/-- The port, that of the scheme when there is none. -/
def effectivePort (url : Url) : Option Nat := url.port.or (defaultPort url.scheme)

/-- A character that `encodeURIComponent` changes. -/
def inComponentSet (char : Char) : Bool :=
  !(char.isAlphanum || "-_.!~*'()".toList.contains char)

def encodeURIComponent (text : List Char) : List Char := text.flatMap (encodeChar inComponentSet)

/-! ## What a setter keeps -/

section Setters

variable (url : Url) (text : List Char)

@[simp]
theorem setProtocol_host : (url.setProtocol text).host = url.host := by
  unfold setProtocol
  split <;> rfl

@[simp]
theorem setProtocol_query : (url.setProtocol text).query = url.query := by
  unfold setProtocol
  split <;> rfl

/-- The setter `port` changes the port and nothing else. -/
theorem setPort_eq : ∃ port, url.setPort text = { url with port := port } := by
  unfold setPort
  split
  · exact ⟨url.port, rfl⟩
  · split
    · exact ⟨none, rfl⟩
    · split
      · exact ⟨url.port, rfl⟩
      · split
        · exact ⟨url.port, rfl⟩
        · exact ⟨_, rfl⟩

@[simp]
theorem setPathname_scheme : (url.setPathname text).scheme = url.scheme := by
  unfold setPathname
  split <;> rfl

@[simp]
theorem setPathname_host : (url.setPathname text).host = url.host := by
  unfold setPathname
  split <;> rfl

@[simp]
theorem setPathname_port : (url.setPathname text).port = url.port := by
  unfold setPathname
  split <;> rfl

@[simp]
theorem setPathname_query : (url.setPathname text).query = url.query := by
  unfold setPathname
  split <;> rfl

@[simp]
theorem setSearch_scheme : (url.setSearch text).scheme = url.scheme := rfl

@[simp]
theorem setSearch_host : (url.setSearch text).host = url.host := rfl

@[simp]
theorem setSearch_port : (url.setSearch text).port = url.port := rfl

end Setters

/-! ## Encoding a query -/

theorem encodeQuery_append (special : Bool) (first second : List Char) :
    encodeQuery special (first ++ second) =
      encodeQuery special first ++ encodeQuery special second := by
  simp [encodeQuery]

/-- A percent sign and hexadecimal digits are kept. -/
theorem encodeQuery_byte (special : Bool) (byte : UInt8) :
    encodeQuery special (percentEncodeByte byte) = percentEncodeByte byte := by
  have small := byte.toNat_lt
  have digit (value : Nat) (small : value < 16) :
      encodeQuery special [hexDigit value] = [hexDigit value] := by
    cases special <;> decide +revert
  have percent : encodeQuery special ['%'] = ['%'] := by cases special <;> rfl
  have shape : percentEncodeByte byte =
      ['%'] ++ [hexDigit (byte.toNat / 16)] ++ [hexDigit (byte.toNat % 16)] := rfl
  rw [shape, encodeQuery_append, encodeQuery_append, percent, digit _ (by omega),
    digit _ (by omega)]

theorem encodeQuery_bytes (special : Bool) (bytes : List UInt8) :
    encodeQuery special (bytes.flatMap percentEncodeByte) = bytes.flatMap percentEncodeByte := by
  induction bytes with
  | nil => rfl
  | cons byte bytes inductionHypothesis =>
    rw [List.flatMap_cons, encodeQuery_append, encodeQuery_byte, inductionHypothesis]

/-- The larger set encodes a character that either set has. -/
theorem inQuerySet_or (first second : Bool) (char : Char) :
    inQuerySet (second || first) char = (inQuerySet first char || inQuerySet second char) := by
  unfold inQuerySet
  generalize (inControlSet char || " \"#<>".toList.contains char) = always
  generalize decide (char = '\'') = quote
  cases always <;> cases quote <;> cases first <;> cases second <;> rfl

/-- Encoding once more is encoding for the larger set. -/
theorem encodeQuery_encodeQuery (first second : Bool) (text : List Char) :
    encodeQuery second (encodeQuery first text) = encodeQuery (second || first) text := by
  have char (char : Char) (kept : isTabOrNewline char = false) :
      encodeQuery second (encodeChar (inQuerySet first) char) =
        encodeChar (inQuerySet (second || first)) char := by
    cases listed : inQuerySet first char with
    | true =>
      simp only [encodeChar, listed, inQuerySet_or, Bool.true_or, if_true]
      exact encodeQuery_bytes second _
    | false => simp [encodeChar, listed, inQuerySet_or, encodeQuery, kept]
  induction text with
  | nil => rfl
  | cons first_char text inductionHypothesis =>
    have split : first_char :: text = [first_char] ++ text := rfl
    rw [split, encodeQuery_append, encodeQuery_append, encodeQuery_append, inductionHypothesis]
    congr 1
    cases dropped : isTabOrNewline first_char with
    | true => simp [encodeQuery, dropped]
    | false =>
      have single (special : Bool) : encodeQuery special [first_char] =
          encodeChar (inQuerySet special) first_char := by simp [encodeQuery, dropped]
      rw [single, single]
      exact char first_char dropped

end Url
