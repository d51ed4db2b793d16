import WebPubSub.Library.Base64Url

/-!
# Standard base64

The digits of the URL-safe alphabet with two of them replaced, with padding behind them, and
their reading as `Buffer` does it: the digits of both alphabets count, other characters are
passed over, and the padding ends the text.
-/

namespace Base64

/-- The digit of the standard alphabet for one of the URL-safe alphabet. -/
def standard : Char → Char
  | '-' => '+'
  | '_' => '/'
  | char => char

/-- The value of a digit. -/
def value (char : Char) : Option Nat :=
  if char = '+' then some 62
  else if char = '/' then some 63
  else Base64Url.digits.idxOf? char

/-- Four values give three bytes; two or three last values give one or two. -/
def fromValues : List Nat → List UInt8
  | [] | [_] => []
  | [a, b] => [UInt8.ofNat (a * 4 + b / 16)]
  | [a, b, c] => [UInt8.ofNat (a * 4 + b / 16), UInt8.ofNat (b % 16 * 16 + c / 4)]
  | a :: b :: c :: d :: rest =>
      UInt8.ofNat (a * 4 + b / 16) :: UInt8.ofNat (b % 16 * 16 + c / 4) ::
        UInt8.ofNat (c % 4 * 64 + d) :: fromValues rest

/-- The bytes of a text. -/
def decode (text : List Char) : List UInt8 :=
  fromValues ((text.takeWhile (fun char => char ≠ '=')).filterMap value)

section Digits

variable {digit : Nat}

theorem value_standard (small : digit < 64) :
    value (standard (Base64Url.digit digit)) = some digit := by
  have all : ∀ digit : Fin 64, value (standard (Base64Url.digit digit)) = some digit.val := by
    decide +kernel
  exact all ⟨digit, small⟩

theorem standard_ne (small : digit < 64) : standard (Base64Url.digit digit) ≠ '=' := by
  have all : ∀ digit : Fin 64, standard (Base64Url.digit digit) ≠ '=' := by
    decide +kernel
  exact all ⟨digit, small⟩

end Digits

/-- The values of the digits of a byte list. -/
def values : List UInt8 → List Nat
  | [] => []
  | [a] => [a.toNat / 4, a.toNat % 4 * 16]
  | [a, b] => [a.toNat / 4, a.toNat % 4 * 16 + b.toNat / 16, b.toNat % 16 * 4]
  | a :: b :: c :: rest =>
      (a.toNat / 4) :: (a.toNat % 4 * 16 + b.toNat / 16) :: (b.toNat % 16 * 4 + c.toNat / 64) ::
        (c.toNat % 64) :: values rest

theorem values_small (bytes : List UInt8) : ∀ digit ∈ values bytes, digit < 64 := by
  induction bytes using values.induct with
  | case1 => simp [values]
  | case2 a =>
    have bound := a.toNat_lt
    simp [values]
    omega
  | case3 a b =>
    have bounds := And.intro a.toNat_lt b.toNat_lt
    simp [values]
    omega
  | case4 a b c rest inductionHypothesis =>
    have bounds := And.intro a.toNat_lt (And.intro b.toNat_lt c.toNat_lt)
    simp only [values, List.forall_mem_cons]
    exact ⟨by omega, by omega, by omega, by omega, inductionHypothesis⟩

theorem encodeBytes_eq (bytes : List UInt8) :
    Base64Url.encodeBytes bytes = (values bytes).map Base64Url.digit := by
  induction bytes using values.induct with
  | case1 => rfl
  | case2 a => rfl
  | case3 a b => rfl
  | case4 a b c rest inductionHypothesis =>
    simp only [Base64Url.encodeBytes, values, List.map_cons, inductionHypothesis]

theorem fromValues_values (bytes : List UInt8) : fromValues (values bytes) = bytes := by
  have byte {value : Nat} {x : UInt8} (equal : value = x.toNat) : UInt8.ofNat value = x := by
    rw [equal, UInt8.ofNat_toNat]
  induction bytes using values.induct with
  | case1 => rfl
  | case2 a =>
    have bound := a.toNat_lt
    have first : a.toNat / 4 * 4 + a.toNat % 4 * 16 / 16 = a.toNat := by omega
    rw [values, fromValues, byte first]
  | case3 a b =>
    have bounds := And.intro a.toNat_lt b.toNat_lt
    have first : a.toNat / 4 * 4 + (a.toNat % 4 * 16 + b.toNat / 16) / 16 = a.toNat := by omega
    have second : (a.toNat % 4 * 16 + b.toNat / 16) % 16 * 16 + b.toNat % 16 * 4 / 4 = b.toNat := by
      omega
    rw [values, fromValues, byte first, byte second]
  | case4 a b c rest inductionHypothesis =>
    have bounds := And.intro a.toNat_lt (And.intro b.toNat_lt c.toNat_lt)
    have first : a.toNat / 4 * 4 + (a.toNat % 4 * 16 + b.toNat / 16) / 16 = a.toNat := by omega
    have second : (a.toNat % 4 * 16 + b.toNat / 16) % 16 * 16 +
        (b.toNat % 16 * 4 + c.toNat / 64) / 4 = b.toNat := by omega
    have third : (b.toNat % 16 * 4 + c.toNat / 64) % 4 * 64 + c.toNat % 64 = c.toNat := by omega
    rw [values, fromValues, byte first, byte second, byte third, inductionHypothesis]

/-- Bytes are read back from their digits, whatever the padding. -/
theorem decode_encode (bytes : List UInt8) (padding : Nat) :
    decode ((Base64Url.encodeBytes bytes).map standard ++ List.replicate padding '=') = bytes := by
  have small := values_small bytes
  have plain : ∀ char ∈ (Base64Url.encodeBytes bytes).map standard,
      decide (char ≠ '=') = true := by
    rw [encodeBytes_eq, List.map_map]
    intro char listed
    obtain ⟨digit, member, rfl⟩ := List.mem_map.mp listed
    simpa using standard_ne (small digit member)
  have ends : (List.replicate padding '=').takeWhile (fun char => char ≠ '=') = [] := by
    cases padding with
    | zero => rfl
    | succ padding => exact List.takeWhile_cons_of_neg (by decide)
  have read : ((Base64Url.encodeBytes bytes).map standard).filterMap value = values bytes := by
    rw [encodeBytes_eq, List.map_map, List.filterMap_map]
    have same : ∀ digit ∈ values bytes,
        (value ∘ standard ∘ Base64Url.digit) digit = some digit :=
      fun digit listed => value_standard (small digit listed)
    rw [List.filterMap_congr same, List.filterMap_some]
  rw [decode, List.takeWhile_append_of_pos plain, ends, List.append_nil, read, fromValues_values]

end Base64
