import Mathlib.Algebra.Order.Field.Rat
import Mathlib.Data.List.TakeWhile
import Mathlib.Data.Rat.Floor

/-!
# JavaScript numbers and their texts

`Number(text)` and `String(number)` for texts and numbers without a sign. Values
are exact rationals that lie on the grid of double-precision numbers, besides the
two special values. Reading rounds a decimal literal to the nearest double, ties
to even; writing gives the shortest decimal that reads back to the same double,
the closest one among the shortest, in the notation ECMAScript prescribes.

Integers below 2^53 are exact, so both directions take them digit by digit.
-/

/-- A number without a sign. -/
inductive JsNumber where
  | nan : JsNumber
  | infinity : JsNumber
  | finite : Rat → JsNumber
deriving DecidableEq, Repr

namespace JsNumber

/-- The first integer that is not told apart from its successor. -/
def safeBound : Nat := 2 ^ 53

/-- Nearest integer, a tie going to the even one. -/
def roundHalfEven (value : Rat) : Int :=
  let below := value.floor
  let rest := value - below
  if rest < 1 / 2 then below
  else if 1 / 2 < rest then below + 1
  else if below % 2 = 0 then below else below + 1

/-- A power with an integer exponent. -/
def power (base : Rat) : Int → Rat
  | .ofNat exponent => base ^ exponent
  | .negSucc exponent => 1 / base ^ (exponent + 1)

/-- The exponent of the highest power of two not above a positive value. -/
def binaryExponent (value : Rat) : Int :=
  let guess : Int := (Nat.log2 value.num.toNat : Int) - (Nat.log2 value.den : Int)
  if power 2 guess ≤ value then guess else guess - 1

/-- An integer below the bound, for values that are not negative. -/
def Small (value : Rat) : Prop := value.den = 1 ∧ value.num.toNat < safeBound

instance (value : Rat) : Decidable (Small value) :=
  inferInstanceAs (Decidable (value.den = 1 ∧ value.num.toNat < safeBound))

/-- The double nearest to a value that is not negative. -/
def ofRat (value : Rat) : JsNumber :=
  if Small value then .finite value
  else
    let exponent := max (binaryExponent value - 52) (-1074)
    let rounded := roundHalfEven (value / power 2 exponent) * power 2 exponent
    if rounded < power 2 1024 then .finite rounded else .infinity

/-- White space and line terminators of ECMAScript. -/
def blank (char : Char) : Bool :=
  char.toNat ∈ [0x9, 0xA, 0xB, 0xC, 0xD, 0x20, 0xA0, 0x1680, 0x2028, 0x2029, 0x202F, 0x205F,
    0x3000, 0xFEFF] || (0x2000 ≤ char.toNat && char.toNat ≤ 0x200A)

/-- The value of decimal digits. -/
def decimal (digits : List Char) : Nat := Nat.ofDigitChars 10 digits 0

/-- The value of a digit in a base up to 16. -/
def digitValue (base : Nat) (char : Char) : Option Nat :=
  let value :=
    if char.isDigit then char.toNat - '0'.toNat
    else if char.toLower.isAlpha then char.toLower.toNat - 'a'.toNat + 10 else base
  if value < base then some value else none

/-- An integer literal with a base prefix, after the prefix. -/
def prefixed (base : Nat) (digits : List Char) : JsNumber :=
  match digits, digits.mapM (digitValue base) with
  | _ :: _, some values => ofRat (values.foldl (fun total value => base * total + value) 0 : Nat)
  | _, _ => .nan

/-- A decimal literal with an optional fraction and an optional exponent; a sign
stands only before the exponent. -/
def literal (text : List Char) : JsNumber :=
  let whole := text.takeWhile Char.isDigit
  let afterWhole := text.drop whole.length
  let pointed := afterWhole.head? = some '.'
  let fraction := if pointed then afterWhole.tail.takeWhile Char.isDigit else []
  let afterFraction := if pointed then afterWhole.tail.drop fraction.length else afterWhole
  let significand : Rat := decimal (whole ++ fraction)
  if whole = [] ∧ fraction = [] then .nan
  else
    match afterFraction with
    | [] => ofRat (significand / 10 ^ fraction.length)
    | letter :: exponent =>
      let negative := exponent.head? = some '-'
      let digits := if negative ∨ exponent.head? = some '+' then exponent.tail else exponent
      if (letter = 'e' ∨ letter = 'E') ∧ digits ≠ [] ∧ digits.all Char.isDigit then
        let size : Int := decimal digits
        ofRat (significand / 10 ^ fraction.length * power 10 (if negative then -size else size))
      else .nan

/-- `Number(text)` for a text without a leading minus sign. -/
def ofText (text : List Char) : JsNumber :=
  let trimmed := ((text.dropWhile blank).reverse.dropWhile blank).reverse
  match trimmed with
  | [] => .finite 0
  | '0' :: 'x' :: digits | '0' :: 'X' :: digits => prefixed 16 digits
  | '0' :: 'o' :: digits | '0' :: 'O' :: digits => prefixed 8 digits
  | '0' :: 'b' :: digits | '0' :: 'B' :: digits => prefixed 2 digits
  | '+' :: unsigned => if unsigned = "Infinity".toList then .infinity else literal unsigned
  | unsigned => if unsigned = "Infinity".toList then .infinity else literal unsigned

/-- The position of the decimal point: the least exponent of ten above a positive
value. -/
def decimalPoint (value : Rat) : Int :=
  let guess : Int := (Nat.toDigits 10 value.num.toNat).length -
    ((Nat.toDigits 10 value.den).length : Int)
  if value < power 10 guess then guess else guess + 1

/-- The decimal significands of the given length that read back to the value, the
closest first. A significand of all nines may round up to a power of ten. -/
def significands (value : Rat) (point : Int) (length : Nat) : List Nat :=
  let scaled := value * power 10 (length - point)
  let below := scaled.floor.toNat
  let near := if scaled - below ≤ below + 1 - scaled then [below, below + 1] else [below + 1, below]
  near.filter (fun digits => 10 ^ (length - 1) ≤ digits ∧ digits ≤ 10 ^ length ∧
    ofRat (digits * power 10 (point - length)) = .finite value)

/-- The shortest significand, its length and the position of the point. -/
def shortest (value : Rat) (point : Int) : Nat → Nat → Nat × Nat × Int
  | length, 0 => (value.floor.toNat, length, point)
  | length, fuel + 1 =>
    match significands value point length with
    | digits :: _ =>
        if digits = 10 ^ length then (1, 1, point + 1) else (digits, length, point)
    | [] => shortest value point (length + 1) fuel

/-- Decimal notation of a significand, as `Number::toString` lays it out. -/
def layout (significand length : Nat) (point : Int) : List Char :=
  let digits := Nat.toDigits 10 significand
  if (length : Int) ≤ point ∧ point ≤ 21 then digits ++ List.replicate (point - length).toNat '0'
  else if 0 < point ∧ point ≤ 21 then
    digits.take point.toNat ++ '.' :: digits.drop point.toNat
  else if -6 < point ∧ point ≤ 0 then
    "0.".toList ++ List.replicate (-point).toNat '0' ++ digits
  else
    let exponent := (if 0 < point then '+' else '-') :: Nat.toDigits 10 (point - 1).natAbs
    if length = 1 then digits ++ 'e' :: exponent
    else digits.take 1 ++ '.' :: digits.drop 1 ++ 'e' :: exponent

/-- `String(number)`. Seventeen digits always suffice. -/
def toText : JsNumber → List Char
  | .nan => "NaN".toList
  | .infinity => "Infinity".toList
  | .finite value =>
    if Small value then Nat.toDigits 10 value.num.toNat
    else
      let (significand, length, point) := shortest value (decimalPoint value) 1 17
      layout significand length point

/-! ## Small integers -/

theorem small_natCast {value : Nat} (exact : value < safeBound) : Small value :=
  ⟨Rat.den_natCast value, by rwa [Rat.num_natCast, Int.toNat_natCast]⟩

/-- Integers below the bound are doubles. -/
theorem ofRat_natCast {value : Nat} (exact : value < safeBound) :
    ofRat value = .finite value := by
  rw [ofRat, if_pos (small_natCast exact)]

/-- No decimal digit is white space. -/
theorem blank_of_isDigit {char : Char} (digit : char.isDigit = true) : blank char = false := by
  have bounds : 48 ≤ char.toNat ∧ char.toNat ≤ 57 := by
    simpa [Char.isDigit, UInt32.le_iff_toNat_le] using digit
  simp only [blank, List.mem_cons, List.not_mem_nil, or_false, Bool.or_eq_false_iff,
    Bool.and_eq_false_iff, decide_eq_false_iff_not]
  omega

/-- Trimming leaves a text whose ends are not blank. -/
theorem dropWhile_blank_digits {digits : List Char}
    (all : ∀ char ∈ digits, char.isDigit = true) : digits.dropWhile blank = digits := by
  cases digits with
  | nil => rfl
  | cons char rest =>
    exact List.dropWhile_cons_of_neg (by simp [blank_of_isDigit (all char (by simp))])

/-- A nonempty text of decimal digits is read as its decimal value. -/
theorem ofText_digits {digits : List Char} (nonempty : digits ≠ [])
    (all : ∀ char ∈ digits, char.isDigit = true) : ofText digits = ofRat (decimal digits) := by
  have reversed : ∀ char ∈ digits.reverse, char.isDigit = true := fun char member =>
    all char (List.mem_reverse.mp member)
  have unprefixed : ∀ char ∈ digits, char ∉ ['x', 'X', 'o', 'O', 'b', 'B', '+', 'I'] := by
    intro char member listed
    have digit := all char member
    simp only [List.mem_cons, List.not_mem_nil, or_false] at listed
    rcases listed with rfl | rfl | rfl | rfl | rfl | rfl | rfl | rfl <;> revert digit <;> decide
  have whole : digits.takeWhile Char.isDigit = digits := List.takeWhile_eq_self_iff.mpr all
  have plain : literal digits = ofRat (decimal digits) := by
    simp [literal, whole, nonempty]
  have named : digits ≠ "Infinity".toList := by
    intro same
    exact unprefixed 'I' (by simp [same]) (by decide)
  simp only [ofText, dropWhile_blank_digits all, dropWhile_blank_digits reversed,
    List.reverse_reverse]
  split
  · exact absurd rfl nonempty
  all_goals first
    | exact absurd (by decide) (unprefixed _ (List.mem_cons_of_mem _ List.mem_cons_self))
    | exact absurd (by decide) (unprefixed _ List.mem_cons_self)
    | rw [if_neg named, plain]

/-- Reading and writing the digits of an integer below the bound are inverse. -/
theorem toDigits_roundTrip {value : Nat} (exact : value < safeBound) :
    ofText (Nat.toDigits 10 value) = .finite value ∧
      toText (.finite value) = Nat.toDigits 10 value := by
  have read : ofText (Nat.toDigits 10 value) = .finite value := by
    rw [ofText_digits Nat.toDigits_ne_nil
      (fun char member => Nat.isDigit_of_mem_toDigits (by decide) (by decide) member),
      decimal, Nat.ofDigitChars_ten_toDigits, ofRat_natCast exact]
  have written : toText (.finite value) = Nat.toDigits 10 value := by
    have small := small_natCast exact
    unfold toText
    simp only [small, if_true, Rat.num_natCast, Int.toNat_natCast]
  exact ⟨read, written⟩

end JsNumber
