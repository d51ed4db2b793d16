import WebPubSub.Library.Json
import WebPubSub.Library.JsText
import WebPubSub.Library.UrlHost
import WebPubSub.Library.UrlSetters

/-!
# Search parameters

The percent-decoding of the URL standard, and the format of `URLSearchParams`: pairs of a
name and a value joined by `&` and `=`, a blank written as `+`. A list of pairs is read as it
was written, whatever its texts hold.

`append` is the method of the `searchParams` of a URL, which writes the query anew.
-/

namespace Url

/-! ## Percent-decoding -/

/-- The bytes of a text, with those that are percent-encoded decoded. Neither a percent sign
nor a digit is part of a longer character. -/
def percentDecode : List Char → List UInt8
  | [] => []
  | '%' :: high :: low :: rest =>
    match Json.Reader.hexDigit high, Json.Reader.hexDigit low with
    | some first, some second => UInt8.ofNat (16 * first + second) :: percentDecode rest
    | _, _ => 0x25 :: percentDecode (high :: low :: rest)
  | char :: rest => String.utf8EncodeChar char ++ percentDecode rest

/-- The text that was percent-encoded. -/
def decodeText (text : List Char) : List Char := Utf8.Decoder.run none (percentDecode text)

theorem hexDigit_hexDigit {value : Nat} (small : value < 16) :
    Json.Reader.hexDigit (hexDigit value) = some value := by
  revert value
  decide

theorem percentDecode_byte (byte : UInt8) (rest : List Char) :
    percentDecode (percentEncodeByte byte ++ rest) = byte :: percentDecode rest := by
  have bound := byte.toNat_lt
  have high : Json.Reader.hexDigit (hexDigit (byte.toNat / 16)) = some (byte.toNat / 16) :=
    hexDigit_hexDigit (by omega)
  have low : Json.Reader.hexDigit (hexDigit (byte.toNat % 16)) = some (byte.toNat % 16) :=
    hexDigit_hexDigit (by omega)
  have value : 16 * (byte.toNat / 16) + byte.toNat % 16 = byte.toNat := by omega
  simp only [percentEncodeByte, List.cons_append, List.nil_append, percentDecode, high, low, value,
    UInt8.ofNat_toNat]

theorem percentDecode_bytes (bytes : List UInt8) (rest : List Char) :
    percentDecode (bytes.flatMap percentEncodeByte ++ rest) = bytes ++ percentDecode rest := by
  induction bytes with
  | nil => rfl
  | cons byte bytes inductionHypothesis =>
    rw [List.flatMap_cons, List.append_assoc, percentDecode_byte, inductionHypothesis,
      List.cons_append]

theorem percentDecode_plain {char : Char} (plain : char ≠ '%') (rest : List Char) :
    percentDecode (char :: rest) = String.utf8EncodeChar char ++ percentDecode rest := by
  rw [percentDecode]
  intro high low more same
  exact absurd same plain

/-- What was encoded is decoded, if a percent sign is encoded or does not occur. -/
theorem percentDecode_encodeChar {inSet : Char → Bool} {char : Char}
    (percent : inSet char = true ∨ char ≠ '%') (rest : List Char) :
    percentDecode (encodeChar inSet char ++ rest) =
      String.utf8EncodeChar char ++ percentDecode rest := by
  unfold encodeChar
  split
  · exact percentDecode_bytes _ rest
  · rename_i kept
    exact percentDecode_plain (percent.resolve_left kept) rest

theorem decodeText_encoded {inSet : Char → Bool} {text : List Char}
    (percent : ∀ char ∈ text, inSet char = true ∨ char ≠ '%') :
    decodeText (text.flatMap (encodeChar inSet)) = text := by
  have bytes : percentDecode (text.flatMap (encodeChar inSet)) = Utf8.encode text := by
    induction text with
    | nil => rfl
    | cons char text inductionHypothesis =>
      obtain ⟨here, others⟩ := List.forall_mem_cons.mp percent
      rw [List.flatMap_cons, percentDecode_encodeChar here, inductionHypothesis others,
        Utf8.encode_cons]
  rw [decodeText, bytes, Utf8.run_encode]

end Url

namespace UrlSearchParams

/-! ## Writing and reading -/

/-- A character that is written as a percent-encoding. -/
def inFormSet (char : Char) : Bool := !(char.isAlphanum || "*-._".toList.contains char)

def encodeChar (char : Char) : List Char :=
  if char = ' ' then ['+'] else Url.encodeChar inFormSet char

def encode (text : List Char) : List Char := text.flatMap encodeChar

def writePair (pair : List Char × List Char) : List Char := encode pair.1 ++ '=' :: encode pair.2

/-- The pairs as a query. -/
def serialize (pairs : List (List Char × List Char)) : List Char :=
  List.intercalate ['&'] (pairs.map writePair)

/-- A plus sign stands for a blank. -/
def decode (text : List Char) : List Char :=
  Url.decodeText (text.map (fun char => if char = '+' then ' ' else char))

/-- A name alone has an empty value. -/
def readPair (text : List Char) : List Char × List Char :=
  let parts := (JsText.cut ['='] text).getD (text, [])
  (decode parts.1, decode parts.2)

/-- The pairs of a query. -/
def parse (query : List Char) : List (List Char × List Char) :=
  ((query.splitOn '&').filter (fun piece => !piece.isEmpty)).map readPair

/-- `searchParams.get(name)`. -/
def get (pairs : List (List Char × List Char)) (name : List Char) : Option (List Char) :=
  pairs.lookup name

/-! ## Encoded components -/

/-- The characters that a component is written with. -/
def isFormChar (char : Char) : Bool := !inFormSet char || char = '%' || char = '+'

theorem isFormChar_hexDigit {value : Nat} (small : value < 16) :
    isFormChar (Url.hexDigit value) = true := by
  revert value
  decide

theorem isFormChar_encode {text : List Char} : ∀ char ∈ encode text, isFormChar char = true := by
  intro char listed
  obtain ⟨source, -, written⟩ := List.mem_flatMap.mp listed
  unfold encodeChar Url.encodeChar at written
  split at written
  · rw [List.mem_singleton.mp written]
    rfl
  · split at written
    · obtain ⟨byte, -, digit⟩ := List.mem_flatMap.mp written
      have bound := byte.toNat_lt
      simp only [Url.percentEncodeByte, List.mem_cons, List.not_mem_nil, or_false] at digit
      rcases digit with rfl | rfl | rfl
      · rfl
      · exact isFormChar_hexDigit (by omega)
      · exact isFormChar_hexDigit (by omega)
    · rename_i kept
      rw [List.mem_singleton.mp written]
      simp [isFormChar, kept]

/-- A component holds no separator. -/
theorem not_mem_encode {separator : Char} (outside : isFormChar separator = false)
    (text : List Char) : separator ∉ encode text := by
  intro listed
  rw [isFormChar_encode separator listed] at outside
  cases outside

/-- A component is read as it was written. -/
theorem decode_encode (text : List Char) : decode (encode text) = text := by
  have turned (char : Char) :
      (encodeChar char).map (fun char => if char = '+' then ' ' else char) =
        Url.encodeChar (fun char => inFormSet char && char ≠ ' ') char := by
    unfold encodeChar
    split
    · rename_i blank
      subst blank
      rfl
    · rename_i visible
      unfold Url.encodeChar
      cases listed : inFormSet char with
      | true =>
        have digits (byte : UInt8) :
            (Url.percentEncodeByte byte).map (fun char => if char = '+' then ' ' else char) =
              Url.percentEncodeByte byte := by
          have bound := byte.toNat_lt
          have digit (value : Nat) (small : value < 16) : Url.hexDigit value ≠ '+' := by
            revert value
            decide
          simp [Url.percentEncodeByte, digit (byte.toNat / 16) (by omega),
            digit (byte.toNat % 16) (by omega)]
        simp [visible, List.map_flatMap, digits, listed]
      | false =>
        have kept : char ≠ '+' := by
          rintro rfl
          cases listed
        simp [kept, listed]
  have encoded : (encode text).map (fun char => if char = '+' then ' ' else char) =
      text.flatMap (Url.encodeChar (fun char => inFormSet char && char ≠ ' ')) := by
    simp only [encode, List.map_flatMap, turned]
  rw [decode, encoded]
  apply Url.decodeText_encoded
  intro char _
  by_cases percent : char = '%'
  · subst percent
    exact Or.inl rfl
  · exact Or.inr percent

/-! ## Pairs -/

theorem writePair_ne_nil (pair : List Char × List Char) : writePair pair ≠ [] := by
  simp [writePair]

theorem not_mem_writePair (pair : List Char × List Char) : '&' ∉ writePair pair := by
  have outside : isFormChar '&' = false := rfl
  simp [writePair, not_mem_encode outside]

theorem readPair_writePair (pair : List Char × List Char) : readPair (writePair pair) = pair := by
  have free : '=' ∉ encode pair.1 := not_mem_encode rfl pair.1
  simp only [readPair, writePair, JsText.cut_char free, Option.getD_some, decode_encode]

/-- A list of pairs is read as it was written. -/
theorem parse_serialize (pairs : List (List Char × List Char)) :
    parse (serialize pairs) = pairs := by
  have read : pairs.map (readPair ∘ writePair) = pairs := by
    simp [Function.comp_def, readPair_writePair]
  cases pairs with
  | nil => rfl
  | cons first rest =>
    have pieces : (serialize (first :: rest)).splitOn '&' = (first :: rest).map writePair := by
      apply List.splitOn_intercalate
      · intro piece member
        obtain ⟨pair, -, rfl⟩ := List.mem_map.mp member
        exact not_mem_writePair pair
      · simp
    have kept : ((first :: rest).map writePair).filter (fun piece => !piece.isEmpty) =
        (first :: rest).map writePair := by
      rw [List.filter_eq_self]
      intro piece member
      obtain ⟨pair, -, rfl⟩ := List.mem_map.mp member
      simp [writePair_ne_nil pair]
    rw [parse, pieces, kept, List.map_map, read]

/-! ## The query of a URL -/

/-- `url.searchParams.append(name, value)`. -/
def append (url : Url) (name value : List Char) : Url :=
  { url with query := some (serialize (parse (url.query.getD []) ++ [(name, value)])) }

theorem append_of_query {url : Url} {pairs : List (List Char × List Char)}
    (given : url.query = some (serialize pairs)) (name value : List Char) :
    append url name value = { url with query := some (serialize (pairs ++ [(name, value)])) } := by
  rw [append, given, Option.getD_some, parse_serialize]

/-! ## Characters of a query -/

theorem isAlphanum_iff (char : Char) : char.isAlphanum = true ↔
    (48 ≤ char.toNat ∧ char.toNat ≤ 57) ∨ (65 ≤ char.toNat ∧ char.toNat ≤ 90) ∨
      (97 ≤ char.toNat ∧ char.toNat ≤ 122) := by
  have digits : char.isDigit = (decide (char.val ≥ 48) && decide (char.val ≤ 57)) := rfl
  have split : char.isAlphanum = (char.isAlpha || char.isDigit) := rfl
  rw [split, Bool.or_eq_true, Url.isAlpha_iff, digits]
  simp only [Bool.and_eq_true, decide_eq_true_eq, ge_iff_le, UInt32.le_iff_toNat_le]
  have same : char.val.toNat = char.toNat := rfl
  have low : (48 : UInt32).toNat = 48 := rfl
  have high : (57 : UInt32).toNat = 57 := rfl
  rw [same, low, high]
  omega

/-- A character that a query is written with stays in a query. -/
theorem queryChar {char : Char} (inside : isFormChar char = true ∨ char = '=' ∨ char = '&') :
    Url.inQuerySet true char = false ∧ Url.isBlank char = false ∧ char ≠ '#' := by
  by_cases alphanumeric : char.isAlphanum = true
  · have range := (isAlphanum_iff char).mp alphanumeric
    have apart (other : Char) (outside : other.isAlphanum = false) : char ≠ other := by
      rintro rfl
      rw [outside] at alphanumeric
      cases alphanumeric
    have control : Url.inControlSet char = false := by
      simp [Url.inControlSet]
      omega
    have visible : Url.isBlank char = false := by
      simp [Url.isBlank]
      omega
    refine ⟨?_, visible, apart '#' rfl⟩
    simp [Url.inQuerySet, control, apart ' ' rfl, apart '"' rfl, apart '#' rfl, apart '<' rfl,
      apart '>' rfl, apart '\'' rfl]
  · have marks : char ∈ "*-._%+=&".toList := by
      simpa [isFormChar, inFormSet, alphanumeric, or_assoc] using inside
    have plain : "*-._%+=&".toList.all (fun mark => decide (Url.inQuerySet true mark = false ∧
        Url.isBlank mark = false ∧ mark ≠ '#')) = true := rfl
    exact of_decide_eq_true (List.all_eq_true.mp plain char marks)

/-- The parser of URLs keeps a query as it was written. -/
theorem queryChar_serialize (pairs : List (List Char × List Char)) {char : Char}
    (listed : char ∈ serialize pairs) :
    Url.inQuerySet true char = false ∧ Url.isBlank char = false ∧ char ≠ '#' := by
  apply queryChar
  have pairChar (pair : List Char × List Char) {char : Char} (listed : char ∈ writePair pair) :
      isFormChar char = true ∨ char = '=' ∨ char = '&' := by
    rcases List.mem_append.mp listed with name | rest
    · exact Or.inl (isFormChar_encode char name)
    · rcases List.mem_cons.mp rest with mark | value
      · exact Or.inr (Or.inl mark)
      · exact Or.inl (isFormChar_encode char value)
  induction pairs with
  | nil => cases listed
  | cons pair pairs inductionHypothesis =>
    cases pairs with
    | nil => exact pairChar pair (by simpa [serialize] using listed)
    | cons next more =>
      have shape : serialize (pair :: next :: more) =
          writePair pair ++ '&' :: serialize (next :: more) := by
        simp [serialize, List.intercalate_cons_cons]
      rw [shape] at listed
      rcases List.mem_append.mp listed with here | rest
      · exact pairChar pair here
      · rcases List.mem_cons.mp rest with mark | later
        · exact Or.inr (Or.inr mark)
        · exact inductionHypothesis later

end UrlSearchParams
