import Mathlib.Data.List.GetD
import Mathlib.Data.List.Nodup

/-!
# URL-safe base64 of text

An encoder of text is described by the two facts its users rely on: the letters
it writes and injectivity. The encoding of the UTF-8 bytes in groups of six bits,
without padding, is one such encoder.
-/

/-- A text encoder whose output stays within the URL-safe alphabet and determines
its input. -/
structure Base64Url where
  encode : List Char → List Char
  safe : ∀ text, ∀ char ∈ encode text, char.isAlphanum = true ∨ char = '-' ∨ char = '_'
  injective : Function.Injective encode

namespace Base64Url

/-- A character outside the alphabet is not written. -/
theorem not_mem_encode (base64url : Base64Url) {char : Char}
    (foreign : ¬(char.isAlphanum = true ∨ char = '-' ∨ char = '_')) (text : List Char) :
    char ∉ base64url.encode text := fun written => foreign (base64url.safe text char written)

/-- The sixty-four digits in the order of their values. -/
def digits : List Char :=
  "ABCDEFGHIJKLMNOPQRSTUVWXYZabcdefghijklmnopqrstuvwxyz0123456789-_".toList

/-- The digit of a value below 64. -/
def digit (value : Nat) : Char := digits.getD value 'A'

/-- Three bytes give four digits; one or two last bytes give two or three. -/
def encodeBytes : List UInt8 → List Char
  | [] => []
  | [a] => [digit (a.toNat / 4), digit (a.toNat % 4 * 16)]
  | [a, b] =>
      [digit (a.toNat / 4), digit (a.toNat % 4 * 16 + b.toNat / 16), digit (b.toNat % 16 * 4)]
  | a :: b :: c :: rest =>
      digit (a.toNat / 4) :: digit (a.toNat % 4 * 16 + b.toNat / 16) ::
        digit (b.toNat % 16 * 4 + c.toNat / 64) :: digit (c.toNat % 64) :: encodeBytes rest

/-- Text is encoded through its UTF-8 bytes. -/
def encodeText (text : List Char) : List Char :=
  encodeBytes (text.flatMap String.utf8EncodeChar)

/-- Different values below 64 have different digits. -/
theorem digit_injective {left right : Nat} (leftBound : left < 64) (rightBound : right < 64)
    (same : digit left = digit right) : left = right := by
  have distinct : digits.Nodup := by decide
  have leftInside : left < digits.length := leftBound
  have rightInside : right < digits.length := rightBound
  rw [digit, digit, List.getD_eq_getElem _ _ leftInside, List.getD_eq_getElem _ _ rightInside] at same
  exact (List.Nodup.getElem_inj_iff distinct).mp same

/-- Every digit is a letter of the URL-safe alphabet. -/
theorem digit_safe (value : Nat) : (digit value).isAlphanum = true ∨
    digit value = '-' ∨ digit value = '_' := by
  have listed : ∀ char ∈ digits, char.isAlphanum = true ∨ char = '-' ∨ char = '_' := by
    have all : digits.all
        (fun char => decide (char.isAlphanum = true ∨ char = '-' ∨ char = '_')) = true := by decide
    simpa only [List.all_eq_true, decide_eq_true_eq] using all
  by_cases inside : value < digits.length
  · apply listed _
    rw [digit, List.getD_eq_getElem _ _ inside]
    exact List.getElem_mem inside
  · rw [digit, List.getD_eq_default _ _ (by omega)]
    exact listed 'A' (by decide)

theorem encodeBytes_safe (bytes : List UInt8) : ∀ char ∈ encodeBytes bytes,
    char.isAlphanum = true ∨ char = '-' ∨ char = '_' := by
  induction bytes using encodeBytes.induct with
  | case1 => simp [encodeBytes]
  | case2 a => simp [encodeBytes, digit_safe]
  | case3 a b => simp [encodeBytes, digit_safe]
  | case4 a b c rest inductionHypothesis => simpa [encodeBytes, digit_safe] using inductionHypothesis

/-- The digits of a byte list determine it.

Proof: induction on both lists in groups of three bytes. Group lengths differ
unless both lists are in the same case; then equal digits give equal six-bit
values, and these determine the bytes. -/
theorem encodeBytes_injective (left right : List UInt8)
    (same : encodeBytes left = encodeBytes right) : left = right := by
  have byte (x y : UInt8) (equal : x.toNat = y.toNat) : x = y := UInt8.toNat_inj.mp equal
  induction left using encodeBytes.induct generalizing right with
  | case1 =>
    match right with
    | [] => rfl
    | [_] | [_, _] | _ :: _ :: _ :: _ => simp [encodeBytes] at same
  | case2 a =>
    match right with
    | [] | [_, _] | _ :: _ :: _ :: _ => simp [encodeBytes] at same
    | [x] =>
      simp only [encodeBytes, List.cons.injEq, and_true] at same
      have bounds := And.intro a.toNat_lt x.toNat_lt
      have high := digit_injective (by omega) (by omega) same.1
      have low := digit_injective (by omega) (by omega) same.2
      exact congrArg ([·]) (byte a x (by omega))
  | case3 a b =>
    match right with
    | [] | [_] | _ :: _ :: _ :: _ => simp [encodeBytes] at same
    | [x, y] =>
      simp only [encodeBytes, List.cons.injEq, and_true] at same
      have bounds := And.intro (And.intro a.toNat_lt x.toNat_lt) (And.intro b.toNat_lt y.toNat_lt)
      have first := digit_injective (by omega) (by omega) same.1
      have second := digit_injective (by omega) (by omega) same.2.1
      have third := digit_injective (by omega) (by omega) same.2.2
      rw [byte a x (by omega), byte b y (by omega)]
  | case4 a b c rest inductionHypothesis =>
    match right with
    | [] | [_] | [_, _] => simp [encodeBytes] at same
    | x :: y :: z :: more =>
      simp only [encodeBytes, List.cons.injEq] at same
      have bounds := And.intro (And.intro a.toNat_lt x.toNat_lt)
        (And.intro (And.intro b.toNat_lt y.toNat_lt) (And.intro c.toNat_lt z.toNat_lt))
      have first := digit_injective (by omega) (by omega) same.1
      have second := digit_injective (by omega) (by omega) same.2.1
      have third := digit_injective (by omega) (by omega) same.2.2.1
      have fourth := digit_injective (by omega) (by omega) same.2.2.2.1
      rw [byte a x (by omega), byte b y (by omega), byte c z (by omega),
        inductionHypothesis more same.2.2.2.2]

/-- UTF-8 determines the text. -/
theorem utf8_injective (left right : List Char)
    (same : left.flatMap String.utf8EncodeChar = right.flatMap String.utf8EncodeChar) :
    left = right := by
  have encoded : left.utf8Encode = right.utf8Encode := by
    simp only [List.utf8Encode, same]
  have decoded := congrArg ByteArray.utf8Decode? encoded
  simpa using decoded

/-- Six-bit digits of UTF-8 without padding. -/
def utf8 : Base64Url where
  encode := encodeText
  safe _ := encodeBytes_safe _
  injective left right same := utf8_injective left right (encodeBytes_injective _ _ same)

end Base64Url
