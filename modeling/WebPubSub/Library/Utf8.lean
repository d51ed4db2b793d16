import Mathlib.Algebra.Order.BigOperators.Group.List
import Mathlib.Data.List.Basic
import Mathlib.Data.List.Induction
import Mathlib.Tactic.Ring

/-!
# Decoding UTF-8 with replacement

The decoder of the Encoding standard, one byte at a time. It never fails: a byte that
cannot stand where it does gives a replacement character and is then read again as the
start of a character, and so does a sequence that is cut off at the end.

A text that is cut into pieces and decoded piece by piece, without a state that is kept
between the pieces and with the byte order mark removed from each, is recovered exactly
when no piece starts inside a character or with a byte order mark. One direction reads
the pieces as encodings. The other one counts: a piece that starts inside a character
adds a replacement, and a mark that is removed is missing.
-/

namespace Utf8

/-- U+FFFD. -/
def replacement : Char := '\uFFFD'

/-- U+FEFF. -/
def byteOrderMark : Char := '\uFEFF'

/-- The state within a character: how many bytes follow the next one, the bounds of the
next byte, and the value so far. The value of the character is at least 128. -/
structure Pending where
  left : Nat
  lower : Nat
  upper : Nat
  value : Nat
  continues : 0x80 ≤ lower ∧ upper ≤ 0xBF
  large : 0x80 ≤ (value * 64 + lower % 64) * 64 ^ left

/-- The decoder stands between two characters or within one. -/
abbrev Decoder := Option Pending

namespace Decoder

/-- A byte between two characters. -/
def start (byte : Nat) : Decoder × List Char :=
  if byte < 0x80 then (none, [Char.ofNat byte])
  else if two : 0xC2 ≤ byte ∧ byte ≤ 0xDF then
    (some ⟨0, 0x80, 0xBF, byte % 32, by decide, by omega⟩, [])
  else if byte = 0xE0 then (some ⟨1, 0xA0, 0xBF, 0, by decide, by decide⟩, [])
  else if three : 0xE1 ≤ byte ∧ byte ≤ 0xEF then
    (some ⟨1, 0x80, if byte = 0xED then 0x9F else 0xBF, byte % 16,
      ⟨le_rfl, by split <;> decide⟩, by omega⟩, [])
  else if byte = 0xF0 then (some ⟨2, 0x90, 0xBF, 0, by decide, by decide⟩, [])
  else if four : 0xF1 ≤ byte ∧ byte ≤ 0xF4 then
    (some ⟨2, 0x80, if byte = 0xF4 then 0x8F else 0xBF, byte % 8,
      ⟨le_rfl, by split <;> decide⟩, by omega⟩, [])
  else (none, [replacement])

/-- The value stays large when the next byte is within its bounds. -/
theorem large_step {pending : Pending} {byte : Nat} (followed : pending.left ≠ 0)
    (within : pending.lower ≤ byte ∧ byte ≤ pending.upper) :
    0x80 ≤ ((pending.value * 64 + byte % 64) * 64 + 0x80 % 64) * 64 ^ (pending.left - 1) := by
  obtain ⟨left, counted⟩ := Nat.exists_eq_succ_of_ne_zero followed
  have bounds := pending.continues
  have large := pending.large
  have grown : pending.value * 64 + pending.lower % 64 ≤ pending.value * 64 + byte % 64 := by
    omega
  rw [counted] at large ⊢
  calc 0x80 ≤ (pending.value * 64 + pending.lower % 64) * 64 ^ (left + 1) := large
    _ ≤ (pending.value * 64 + byte % 64) * 64 ^ (left + 1) := Nat.mul_le_mul_right _ grown
    _ = ((pending.value * 64 + byte % 64) * 64 + 0x80 % 64) * 64 ^ left := by ring

/-- A byte within a character. -/
def next (pending : Pending) (byte : Nat) : Decoder × List Char :=
  if within : pending.lower ≤ byte ∧ byte ≤ pending.upper then
    if followed : pending.left ≠ 0 then
      (some ⟨pending.left - 1, 0x80, 0xBF, pending.value * 64 + byte % 64, by decide,
        large_step followed within⟩, [])
    else (none, [Char.ofNat (pending.value * 64 + byte % 64)])
  else ((start byte).1, replacement :: (start byte).2)

/-- One byte. -/
def step (decoder : Decoder) (byte : UInt8) : Decoder × List Char :=
  match decoder with
  | none => start byte.toNat
  | some pending => next pending byte.toNat

/-- The end of the input. -/
def finish : Decoder → List Char
  | none => []
  | some _ => [replacement]

/-- All bytes that are left. -/
def run : Decoder → List UInt8 → List Char
  | decoder, [] => decoder.finish
  | decoder, byte :: bytes => (decoder.step byte).2 ++ run (decoder.step byte).1 bytes

end Decoder

/-- A text with a byte order mark removed from its start. -/
def dropMark : List Char → List Char
  | [] => []
  | char :: text => if char = byteOrderMark then text else char :: text

/-- `decode` of a `TextDecoder` that is not in stream mode. -/
def decode (bytes : List UInt8) : List Char := dropMark (Decoder.run none bytes)

/-- The encoding of a text. -/
def encode (text : List Char) : List UInt8 := text.flatMap String.utf8EncodeChar

/-- A byte that continues a character. -/
def continues (byte : UInt8) : Bool := 0x80 ≤ byte.toNat && byte.toNat ≤ 0xBF

/-- A piece that can be decoded by itself: it does not start inside a character, nor with
a byte order mark. -/
def Whole (piece : List UInt8) : Prop :=
  (∀ byte ∈ piece.head?, continues byte = false) ∧ ¬[0xEF, 0xBB, 0xBF] <+: piece

instance : DecidablePred Whole := fun _ => inferInstanceAs (Decidable (_ ∧ _))

section Characters

variable {value : Nat}

theorem byte_toNat (small : value < 256) : (UInt8.ofNat value).toNat = value := by
  simp [Nat.mod_eq_of_lt small]

theorem run_cons (decoder : Decoder) (byte : UInt8) (rest : List UInt8) :
    Decoder.run decoder (byte :: rest) =
      (decoder.step byte).2 ++ Decoder.run (decoder.step byte).1 rest := rfl

variable {first second third fourth : Nat}

theorem run_one (lead : first < 0x80) (rest : List UInt8) :
    Decoder.run none (UInt8.ofNat first :: rest) = Char.ofNat first :: Decoder.run none rest := by
  have byte : (UInt8.ofNat first).toNat = first := byte_toNat (by omega)
  simp [run_cons, Decoder.step, byte, Decoder.start, lead]

theorem run_two (lead : 0xC2 ≤ first ∧ first ≤ 0xDF) (tail : 0x80 ≤ second ∧ second ≤ 0xBF)
    (rest : List UInt8) :
    Decoder.run none (UInt8.ofNat first :: UInt8.ofNat second :: rest) =
      Char.ofNat (first % 32 * 64 + second % 64) :: Decoder.run none rest := by
  have firstByte : (UInt8.ofNat first).toNat = first := byte_toNat (by omega)
  have secondByte : (UInt8.ofNat second).toNat = second := byte_toNat (by omega)
  have started : ¬first < 0x80 := by omega
  simp [run_cons, Decoder.step, firstByte, secondByte, Decoder.start, started, lead, Decoder.next,
    tail]

theorem run_three (lead : 0xE0 ≤ first ∧ first ≤ 0xEF)
    (narrow : (if first = 0xE0 then 0xA0 else 0x80) ≤ second ∧
      second ≤ if first = 0xED then 0x9F else 0xBF)
    (tail : 0x80 ≤ third ∧ third ≤ 0xBF) (rest : List UInt8) :
    Decoder.run none (UInt8.ofNat first :: UInt8.ofNat second :: UInt8.ofNat third :: rest) =
      Char.ofNat ((first % 16 * 64 + second % 64) * 64 + third % 64) ::
        Decoder.run none rest := by
  have firstByte : (UInt8.ofNat first).toNat = first := byte_toNat (by omega)
  have secondByte : (UInt8.ofNat second).toNat = second := byte_toNat (by
    split at narrow <;> split at narrow <;> omega)
  have thirdByte : (UInt8.ofNat third).toNat = third := byte_toNat (by omega)
  have started : ¬first < 0x80 := by omega
  have longer : ¬(0xC2 ≤ first ∧ first ≤ 0xDF) := by omega
  by_cases lowest : first = 0xE0
  · subst lowest
    have bounds : 0xA0 ≤ second ∧ second ≤ 0xBF := narrow
    simp [run_cons, Decoder.step, secondByte, thirdByte, Decoder.start, Decoder.next, bounds, tail]
  · have between : 0xE1 ≤ first ∧ first ≤ 0xEF := by omega
    rw [if_neg lowest] at narrow
    simp [run_cons, Decoder.step, firstByte, secondByte, thirdByte, Decoder.start, started, longer,
      lowest, between, Decoder.next, narrow, tail]

theorem run_four (lead : 0xF0 ≤ first ∧ first ≤ 0xF4)
    (narrow : (if first = 0xF0 then 0x90 else 0x80) ≤ second ∧
      second ≤ if first = 0xF4 then 0x8F else 0xBF)
    (tail : 0x80 ≤ third ∧ third ≤ 0xBF) (last : 0x80 ≤ fourth ∧ fourth ≤ 0xBF)
    (rest : List UInt8) :
    Decoder.run none (UInt8.ofNat first :: UInt8.ofNat second :: UInt8.ofNat third ::
        UInt8.ofNat fourth :: rest) =
      Char.ofNat (((first % 8 * 64 + second % 64) * 64 + third % 64) * 64 + fourth % 64) ::
        Decoder.run none rest := by
  have firstByte : (UInt8.ofNat first).toNat = first := byte_toNat (by omega)
  have secondByte : (UInt8.ofNat second).toNat = second := byte_toNat (by
    split at narrow <;> split at narrow <;> omega)
  have thirdByte : (UInt8.ofNat third).toNat = third := byte_toNat (by omega)
  have fourthByte : (UInt8.ofNat fourth).toNat = fourth := byte_toNat (by omega)
  have started : ¬first < 0x80 := by omega
  have longer : ¬(0xC2 ≤ first ∧ first ≤ 0xDF) := by omega
  have longest : first ≠ 0xE0 ∧ ¬(0xE1 ≤ first ∧ first ≤ 0xEF) := by omega
  by_cases lowest : first = 0xF0
  · subst lowest
    have bounds : 0x90 ≤ second ∧ second ≤ 0xBF := narrow
    simp [run_cons, Decoder.step, secondByte, thirdByte, fourthByte, Decoder.start, Decoder.next,
      bounds, tail, last]
  · have between : 0xF1 ≤ first ∧ first ≤ 0xF4 := by omega
    rw [if_neg lowest] at narrow
    simp [run_cons, Decoder.step, firstByte, secondByte, thirdByte, fourthByte, Decoder.start,
      started, longer, longest, lowest, between, Decoder.next, narrow, tail, last]

/-- The encoding of a character is decoded, whatever follows. The cases are the four
lengths; surrogates are excluded where the second byte is bounded more narrowly. -/
theorem run_char (char : Char) (rest : List UInt8) :
    Decoder.run none (String.utf8EncodeChar char ++ rest) = char :: Decoder.run none rest := by
  have valid : char.val.toNat < 0xD800 ∨ 0xDFFF < char.val.toNat ∧ char.val.toNat < 0x110000 :=
    char.valid
  have same : Char.ofNat char.val.toNat = char := Char.ofNat_toNat char
  unfold String.utf8EncodeChar
  dsimp only
  generalize char.val.toNat = value at valid same ⊢
  split
  · rw [← same]
    exact run_one (by omega) rest
  · split
    · apply (run_two (by omega) (by omega) rest).trans
      rw [← same]
      congr 2
      omega
    · split
      · refine (run_three (by omega) ?_ (by omega) rest).trans ?_
        · split <;> split <;> omega
        · rw [← same]
          congr 2
          omega
      · refine (run_four (by omega) ?_ (by omega) (by omega) rest).trans ?_
        · split <;> split <;> omega
        · rw [← same]
          congr 2
          omega

/-- The first byte of a character starts it, and every other one continues it. -/
theorem utf8EncodeChar_shape (char : Char) :
    ∃ first rest, String.utf8EncodeChar char = first :: rest ∧ continues first = false ∧
      ∀ byte ∈ rest, continues byte = true := by
  have valid : char.val.toNat < 0xD800 ∨ 0xDFFF < char.val.toNat ∧ char.val.toNat < 0x110000 :=
    char.valid
  unfold String.utf8EncodeChar
  dsimp only
  generalize char.val.toNat = value at valid
  split
  · refine ⟨_, _, rfl, ?_, by simp⟩
    simp [continues]
    omega
  · split
    · refine ⟨_, _, rfl, ?_, by simp [continues]; omega⟩
      simp [continues]
      omega
    · split
      · refine ⟨_, _, rfl, ?_, by simp [continues]; omega⟩
        simp [continues]
        omega
      · refine ⟨_, _, rfl, ?_, by simp [continues]; omega⟩
        simp [continues]
        omega

end Characters

section Encodings

@[simp]
theorem encode_nil : encode [] = [] := rfl

@[simp]
theorem encode_cons (char : Char) (text : List Char) :
    encode (char :: text) = String.utf8EncodeChar char ++ encode text := rfl

@[simp]
theorem encode_append (first second : List Char) :
    encode (first ++ second) = encode first ++ encode second := by
  simp [encode]

/-- An encoded text is decoded as it is. -/
theorem run_encode (text : List Char) : Decoder.run none (encode text) = text := by
  induction text with
  | nil => rfl
  | cons char text inductionHypothesis =>
    rw [encode_cons, run_char, inductionHypothesis]

/-- A cut before a byte that starts a character falls between two characters. -/
theorem encode_split {text : List Char} {before after : List UInt8}
    (cut : encode text = before ++ after) (starts : ∀ byte ∈ after.head?, continues byte = false) :
    ∃ first second, text = first ++ second ∧ before = encode first ∧ after = encode second := by
  induction text generalizing before with
  | nil =>
    obtain ⟨rfl, rfl⟩ : before = [] ∧ after = [] := by simpa using cut.symm
    exact ⟨[], [], rfl, rfl, rfl⟩
  | cons char text inductionHypothesis =>
    rw [encode_cons] at cut
    obtain ⟨more, whole, remaining⟩ | ⟨more, inside, rfl⟩ := List.append_eq_append_iff.mp cut
    · obtain ⟨first, second, rfl, rfl, rfl⟩ := inductionHypothesis remaining
      exact ⟨char :: first, second, rfl, whole, rfl⟩
    · obtain ⟨lead, rest, shape, -, continued⟩ := utf8EncodeChar_shape char
      cases more with
      | nil => exact ⟨[char], text, rfl, by simpa using inside.symm, rfl⟩
      | cons byte more =>
        have started : continues byte = false := starts byte (by simp)
        cases before with
        | nil =>
          exact ⟨[], char :: text, rfl, rfl, by rw [encode_cons, inside]; rfl⟩
        | cons other before =>
          -- a byte of a character other than its first one continues it
          have member : byte ∈ rest := by
            have tail : rest = before ++ byte :: more := by
              rw [shape] at inside
              exact (List.cons.inj inside).2
            simp [tail]
          simp [continued byte member] at started

end Encodings

section Counting

/-- The bytes that do not continue a character. -/
def starts (bytes : List UInt8) : Nat := bytes.countP (fun byte => !continues byte)

@[simp]
theorem starts_append (first second : List UInt8) :
    starts (first ++ second) = starts first + starts second := by
  simp [starts]

/-- Each character is started once. -/
theorem starts_encode (text : List Char) : starts (encode text) = text.length := by
  induction text with
  | nil => rfl
  | cons char text inductionHypothesis =>
    obtain ⟨first, rest, shape, started, continued⟩ := utf8EncodeChar_shape char
    have none : rest.countP (fun byte => !continues byte) = 0 := by
      simpa [List.countP_eq_zero] using continued
    rw [encode_cons, starts_append, inductionHypothesis, shape, starts, List.countP_cons, none]
    simp [started, Nat.add_comm]

/-- A character that is under way will give one more. -/
def Decoder.owed (decoder : Decoder) : Nat := if decoder.isSome then 1 else 0

/-- Between two characters a byte that continues one is replaced. -/
theorem step_inside {byte : UInt8} (inside : continues byte = true) :
    Decoder.step none byte = (none, [replacement]) := by
  have bounds : 0x80 ≤ byte.toNat ∧ byte.toNat ≤ 0xBF := by simpa [continues] using inside
  simp only [Decoder.step, Decoder.start]
  rw [if_neg (by omega), dif_neg (by omega), if_neg (by omega), dif_neg (by omega),
    if_neg (by omega), dif_neg (by omega)]

/-- Within a character, either the byte continues it or the character is replaced and the
byte is read again. -/
theorem step_pending (pending : Pending) (byte : UInt8) :
    continues byte = true ∨ Decoder.step (some pending) byte =
      ((Decoder.start byte.toNat).1, replacement :: (Decoder.start byte.toNat).2) := by
  by_cases within : pending.lower ≤ byte.toNat ∧ byte.toNat ≤ pending.upper
  · left
    have bounds := pending.continues
    simp [continues]
    omega
  · right
    simp [Decoder.step, Decoder.next, within]

/-- A byte that starts a character gives one, now or later, and so does a character that
is under way. -/
theorem step_owed (decoder : Decoder) (byte : UInt8) :
    (if continues byte then 0 else 1) + decoder.owed ≤
      (decoder.step byte).2.length + (decoder.step byte).1.owed := by
  have start : (if continues byte then 0 else 1) ≤
      (Decoder.start byte.toNat).2.length + (Decoder.start byte.toNat).1.owed := by
    unfold Decoder.start
    split_ifs <;> simp [Decoder.owed]
  cases decoder with
  | none => exact start
  | some pending =>
    have one : Decoder.owed (some pending) = 1 := rfl
    obtain continued | restarted := step_pending pending byte
    · rw [continued, one]
      simp only [Decoder.step, Decoder.next]
      split_ifs <;> simp [Decoder.owed] <;> omega
    · rw [restarted, one]
      simp only [List.length_cons]
      omega

/-- Every start gives a character. -/
theorem starts_le_length (decoder : Decoder) (bytes : List UInt8) :
    starts bytes + decoder.owed ≤ (Decoder.run decoder bytes).length := by
  induction bytes generalizing decoder with
  | nil => cases decoder <;> simp [starts, Decoder.owed, Decoder.run, Decoder.finish]
  | cons byte bytes inductionHypothesis =>
    have here := step_owed decoder byte
    have later := inductionHypothesis (decoder.step byte).1
    rw [run_cons, List.length_append]
    simp only [starts, List.countP_cons] at later ⊢
    cases known : continues byte <;> simp [known] at here ⊢ <;> omega

/-- A piece that starts inside a character gives one too many. -/
theorem starts_lt_length {byte : UInt8} (inside : continues byte = true) (bytes : List UInt8) :
    starts (byte :: bytes) < (Decoder.run none (byte :: bytes)).length := by
  have rest : starts bytes ≤ (Decoder.run none bytes).length := starts_le_length none bytes
  have none : starts (byte :: bytes) = starts bytes := by simp [starts, inside]
  rw [run_cons, step_inside inside, none]
  simpa using Nat.lt_succ_of_le rest

/-- A mark that is read from between two characters is read whatever is under way. -/
theorem count_mark_le (decoder : Decoder) (bytes : List UInt8) :
    (Decoder.run none bytes).count byteOrderMark ≤
      (Decoder.run decoder bytes).count byteOrderMark := by
  induction bytes generalizing decoder with
  | nil => simp [Decoder.run, Decoder.finish]
  | cons byte bytes inductionHypothesis =>
    cases decoder with
    | none => exact le_rfl
    | some pending =>
      obtain continued | restarted := step_pending pending byte
      · rw [run_cons, run_cons, step_inside continued, List.count_append, List.count_append]
        calc [replacement].count byteOrderMark + (Decoder.run none bytes).count byteOrderMark
            = (Decoder.run none bytes).count byteOrderMark := by
              rw [show [replacement].count byteOrderMark = 0 by decide, Nat.zero_add]
          _ ≤ (Decoder.run (Decoder.step (some pending) byte).1 bytes).count byteOrderMark :=
              inductionHypothesis _
          _ ≤ _ := Nat.le_add_left _ _
      · rw [run_cons, run_cons, restarted, List.cons_append, List.count_cons]
        exact Nat.le_add_right _ _

/-- Cutting a piece in two adds no mark. -/
theorem count_mark_append (decoder : Decoder) (before after : List UInt8) :
    (Decoder.run decoder before).count byteOrderMark +
        (Decoder.run none after).count byteOrderMark ≤
      (Decoder.run decoder (before ++ after)).count byteOrderMark := by
  induction before generalizing decoder with
  | nil =>
    have unmarked : (Decoder.run decoder []).count byteOrderMark = 0 := by
      cases decoder with
      | none => rfl
      | some pending => show [replacement].count byteOrderMark = 0; decide
    rw [unmarked, Nat.zero_add, List.nil_append]
    exact count_mark_le decoder after
  | cons byte before inductionHypothesis =>
    have later := inductionHypothesis (decoder.step byte).1
    rw [List.cons_append, run_cons, run_cons, List.count_append, List.count_append]
    omega

end Counting

section Pieces

variable {text : List Char} {pieces : List (List UInt8)}

/-- A piece that is whole loses nothing. -/
theorem decode_encode (unmarked : ¬[0xEF, 0xBB, 0xBF] <+: encode text) :
    decode (encode text) = text := by
  rw [decode, run_encode]
  cases text with
  | nil => rfl
  | cons char text =>
    apply if_neg
    rintro rfl
    apply unmarked
    exact ⟨encode text, rfl⟩

/-- The first byte of whole pieces starts a character. -/
theorem head_flatten (whole : ∀ piece ∈ pieces, Whole piece) :
    ∀ byte ∈ pieces.flatten.head?, continues byte = false := by
  induction pieces with
  | nil => simp
  | cons piece pieces inductionHypothesis =>
    cases piece with
    | nil => exact inductionHypothesis (fun piece member => whole piece (.tail _ member))
    | cons byte piece => exact (whole _ (.head _)).1

/-- Whole pieces of an encoded text are decoded to the text. -/
theorem decode_pieces (cut : pieces.flatten = encode text) (whole : ∀ piece ∈ pieces, Whole piece) :
    pieces.flatMap decode = text := by
  induction pieces generalizing text with
  | nil =>
    have nothing : text.length = 0 := by rw [← starts_encode, ← cut]; rfl
    exact (List.length_eq_zero_iff.mp nothing).symm
  | cons piece pieces inductionHypothesis =>
    have later : ∀ other ∈ pieces, Whole other := fun other member => whole other (.tail _ member)
    rw [List.flatten_cons] at cut
    obtain ⟨first, second, rfl, rfl, remaining⟩ := encode_split cut.symm (head_flatten later)
    rw [List.flatMap_cons, inductionHypothesis remaining later,
      decode_encode (whole _ (.head _)).2]

/-- Removing a mark leaves one mark less. -/
theorem count_dropMark_le (text : List Char) :
    (dropMark text).count byteOrderMark ≤ text.count byteOrderMark := by
  cases text with
  | nil => exact le_rfl
  | cons char text =>
    simp only [dropMark]
    split
    · rw [List.count_cons]
      exact Nat.le_add_right _ _
    · exact le_rfl

theorem count_mark_flatten (pieces : List (List UInt8)) :
    (pieces.map (fun piece => (Decoder.run none piece).count byteOrderMark)).sum ≤
      (Decoder.run none pieces.flatten).count byteOrderMark := by
  induction pieces with
  | nil => simp
  | cons piece pieces inductionHypothesis =>
    have together := count_mark_append none piece pieces.flatten
    rw [List.map_cons, List.sum_cons, List.flatten_cons]
    omega

/-- A mark that is missing shows in the count. -/
theorem count_dropMark_lt {text : List Char} (dropped : dropMark text ≠ text) :
    (dropMark text).count byteOrderMark < text.count byteOrderMark := by
  cases text with
  | nil => exact absurd rfl dropped
  | cons char text =>
    by_cases mark : char = byteOrderMark
    · simp [dropMark, mark]
    · exact absurd (if_neg mark) dropped

/-- If the marks of pieces add up, then none was removed. -/
theorem unmarked_of_count
    (kept : (pieces.map (fun piece => (Decoder.run none piece).count byteOrderMark)).sum ≤
      (pieces.flatMap decode).count byteOrderMark) :
    ∀ piece ∈ pieces, decode piece = Decoder.run none piece := by
  intro piece member
  by_contra dropped
  rw [List.count_flatMap] at kept
  refine absurd kept (Nat.not_le.mpr (List.sum_lt_sum _ _ ?_ ⟨piece, member, ?_⟩))
  · intro other _
    exact count_dropMark_le _
  · exact count_dropMark_lt dropped

/-- If the characters of pieces add up, then none starts inside a character. -/
theorem started_of_length
    (kept : (pieces.map (fun piece => (Decoder.run none piece).length)).sum ≤
      starts pieces.flatten) :
    ∀ piece ∈ pieces, ∀ byte ∈ piece.head?, continues byte = false := by
  intro piece member byte first
  by_contra inside
  rw [starts, List.countP_flatten] at kept
  refine absurd kept (Nat.not_le.mpr (List.sum_lt_sum _ _ ?_ ⟨piece, member, ?_⟩))
  · intro other _
    exact starts_le_length none other
  · cases piece with
    | nil => cases first
    | cons head rest =>
      obtain rfl : head = byte := by simpa using first
      exact starts_lt_length (by simpa using inside) rest

/-- A piece whose mark is kept does not start with one. -/
theorem unmarked_of_kept {piece : List UInt8} (kept : decode piece = Decoder.run none piece) :
    ¬[0xEF, 0xBB, 0xBF] <+: piece := by
  rintro ⟨rest, rfl⟩
  have marked : Decoder.run none ([0xEF, 0xBB, 0xBF] ++ rest) =
      byteOrderMark :: Decoder.run none rest := run_char byteOrderMark rest
  rw [decode, marked, dropMark, if_pos rfl] at kept
  exact List.cons_ne_self _ _ kept.symm

/-- Pieces of an encoded text are decoded to the text exactly when each is whole.

Proof plan for the first direction:
1. the marks of the text are those of the pieces, so none of them was removed;
2. the text then has as many characters as the pieces give, and as many as the pieces
   start, so no piece starts inside a character. -/
theorem decode_pieces_iff (cut : pieces.flatten = encode text) :
    pieces.flatMap decode = text ↔ ∀ piece ∈ pieces, Whole piece := by
  constructor
  · intro recovered
    have kept : ∀ piece ∈ pieces, decode piece = Decoder.run none piece := by
      apply unmarked_of_count
      calc (pieces.map (fun piece => (Decoder.run none piece).count byteOrderMark)).sum
          ≤ (Decoder.run none pieces.flatten).count byteOrderMark := count_mark_flatten pieces
        _ = (pieces.flatMap decode).count byteOrderMark := by rw [cut, run_encode, recovered]
    have started : ∀ piece ∈ pieces, ∀ byte ∈ piece.head?, continues byte = false := by
      apply started_of_length
      calc (pieces.map (fun piece => (Decoder.run none piece).length)).sum
          = (pieces.map (fun piece => (decode piece).length)).sum := by
            congr 1
            apply List.map_congr_left
            intro piece member
            rw [kept piece member]
        _ = text.length := by rw [← List.length_flatMap, recovered]
        _ ≤ starts pieces.flatten := by rw [cut, starts_encode]
    exact fun piece member => ⟨started piece member, unmarked_of_kept (kept piece member)⟩
  · exact decode_pieces cut

end Pieces

section Newlines

theorem ofNat_newline {value : Nat} : Char.ofNat value = '\n' ↔ value = 0x0A := by
  constructor
  · intro same
    by_cases valid : value.isValidChar
    · have values : (Char.ofNat value).toNat = 0x0A := by rw [same]; rfl
      rwa [Char.ofNat, dif_pos valid] at values
    · rw [Char.ofNat, dif_neg valid] at same
      exact absurd same (by decide)
  · rintro rfl
    rfl

theorem start_newline (byte : Nat) :
    (Decoder.start byte).2.count '\n' = if byte = 0x0A then 1 else 0 := by
  unfold Decoder.start
  by_cases ascii : byte < 0x80
  · rw [if_pos ascii]
    simp [List.count_singleton, ofNat_newline]
  · rw [if_neg ascii, if_neg (by omega : byte ≠ 0x0A)]
    split_ifs <;> rfl

/-- A byte gives a newline exactly when it is one. -/
theorem step_newline (decoder : Decoder) (byte : UInt8) :
    (decoder.step byte).2.count '\n' = if byte = 0x0A then 1 else 0 := by
  have here : byte.toNat = 0x0A ↔ byte = 0x0A :=
    ⟨fun same => UInt8.toNat_inj.mp same, fun same => by rw [same]; rfl⟩
  simp only [← here]
  cases decoder with
  | none => exact start_newline byte.toNat
  | some pending =>
    by_cases within : pending.lower ≤ byte.toNat ∧ byte.toNat ≤ pending.upper
    · have bounds := pending.continues
      rw [if_neg (by omega : byte.toNat ≠ 0x0A)]
      by_cases followed : pending.left = 0
      · -- the value of a character of several bytes is at least 128
        have large := pending.large
        rw [followed, Nat.pow_zero, Nat.mul_one] at large
        have other : pending.value * 64 + byte.toNat % 64 ≠ 0x0A := by omega
        simp [Decoder.step, Decoder.next, within, followed, ofNat_newline, other]
      · simp [Decoder.step, Decoder.next, within, followed]
    · have replaced : replacement ≠ '\n' := by decide
      simp [Decoder.step, Decoder.next, within, replaced, start_newline]

theorem run_newline (decoder : Decoder) (bytes : List UInt8) :
    (Decoder.run decoder bytes).count '\n' = bytes.count 0x0A := by
  induction bytes generalizing decoder with
  | nil =>
    cases decoder with
    | none => rfl
    | some pending => show [replacement].count '\n' = 0; decide
  | cons byte bytes inductionHypothesis =>
    rw [run_cons, List.count_append, step_newline, inductionHypothesis, List.count_cons,
      Nat.add_comm]
    simp

/-- Decoding keeps the number of newlines, whole or not. -/
theorem decode_newline (bytes : List UInt8) :
    (decode bytes).count '\n' = bytes.count 0x0A := by
  rw [← run_newline none bytes, decode]
  cases Decoder.run none bytes with
  | nil => rfl
  | cons char text =>
    have other : byteOrderMark ≠ '\n' := by decide
    by_cases mark : char = byteOrderMark <;> simp [dropMark, mark, other, List.count_cons]

/-- Decoding in pieces keeps the number of newlines. -/
theorem pieces_newline {text : List Char} {pieces : List (List UInt8)}
    (cut : pieces.flatten = encode text) :
    (pieces.flatMap decode).count '\n' = text.count '\n' := by
  have together (pieces : List (List UInt8)) :
      (pieces.flatMap decode).count '\n' = pieces.flatten.count 0x0A := by
    induction pieces with
    | nil => rfl
    | cons piece pieces inductionHypothesis =>
      rw [List.flatMap_cons, List.flatten_cons, List.count_append, List.count_append,
        decode_newline, inductionHypothesis]
  rw [together, cut, ← run_newline none, run_encode]

/-- A newline ends whatever is under way. -/
theorem run_ends (decoder : Decoder) (bytes : List UInt8) :
    ∃ text, Decoder.run decoder (bytes ++ [0x0A]) = text ++ ['\n'] := by
  induction bytes generalizing decoder with
  | nil =>
    cases decoder with
    | none => exact ⟨[], rfl⟩
    | some pending =>
      have outside : ¬(pending.lower ≤ 10 ∧ 10 ≤ pending.upper) := by
        have bounds := pending.continues
        omega
      refine ⟨[replacement], ?_⟩
      simp [Decoder.run, Decoder.step, Decoder.next, outside, Decoder.start, Decoder.finish]
  | cons byte bytes inductionHypothesis =>
    obtain ⟨text, rest⟩ := inductionHypothesis (decoder.step byte).1
    refine ⟨(decoder.step byte).2 ++ text, ?_⟩
    rw [List.cons_append, run_cons, rest, List.append_assoc]

theorem decode_ends (bytes : List UInt8) : ∃ text, decode (bytes ++ [0x0A]) = text ++ ['\n'] := by
  obtain ⟨text, ran⟩ := run_ends none bytes
  rw [decode, ran]
  cases text with
  | nil => exact ⟨[], rfl⟩
  | cons char text =>
    simp only [List.cons_append, dropMark]
    split
    · exact ⟨text, rfl⟩
    · exact ⟨char :: text, rfl⟩

/-- Pieces of bytes that end with a newline are decoded to a text that ends with one. -/
theorem pieces_end {pieces : List (List UInt8)} {bytes : List UInt8}
    (cut : pieces.flatten = bytes ++ [0x0A]) :
    ∃ text, pieces.flatMap decode = text ++ ['\n'] := by
  induction pieces using List.reverseRecOn generalizing bytes with
  | nil => simp at cut
  | append_singleton pieces piece inductionHypothesis =>
    rw [List.flatten_append, List.flatten_singleton] at cut
    rw [List.flatMap_append, List.flatMap_singleton]
    obtain rfl | ⟨init, last, rfl⟩ := List.eq_nil_or_concat' piece
    · obtain ⟨text, ends⟩ := inductionHypothesis (by simpa using cut)
      refine ⟨text, ?_⟩
      rw [show decode [] = [] from rfl, List.append_nil, ends]
    · obtain rfl : last = 0x0A := by
        rw [← List.append_assoc] at cut
        simpa using (List.append_inj' cut rfl).2
      obtain ⟨text, ends⟩ := decode_ends init
      exact ⟨pieces.flatMap decode ++ text, by rw [ends, List.append_assoc]⟩

end Newlines

end Utf8
