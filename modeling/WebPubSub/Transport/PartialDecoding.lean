import WebPubSub.Transport.NextSend

/-!
# The language of partially decoded packets

`decodeStringPartial` takes a binary header when the text of its count is the text of the
number that it denotes. So are the digits of a natural number, as the encoder writes them, but
also `NaN`, `Infinity`, a fraction such as `1.5`, an integer in exponent notation, and a large
integer that its shortest text rounds. For all other strings the decoder accepts the grammar
of headers, and the count is the natural number that is written there.
-/

namespace WebPubSub.Transport

/-- A number that is not natural, or is a natural number that is not written by its digits. -/
inductive Unnatural : JsNumber → Prop where
  | nan : Unnatural .nan
  | infinity : Unnatural .infinity
  | fraction (value : Rat) (divided : value.den ≠ 1) : Unnatural (.finite value)
  | rounded (value : Nat) (other : JsNumber.toText (.finite value) ≠ Nat.toDigits 10 value) :
      Unnatural (.finite value)

/-- Between a binary type and the first dash stands the text of a number that is unnatural. -/
def Misread (str : Text) : Prop :=
  ∃ (type : SioPacketType) (buf rest : Text), type.withBinary = true ∧
    str = type.digit :: buf ++ '-' :: rest ∧ '-' ∉ buf ∧
    (JsNumber.ofText buf).toText = buf ∧ Unnatural (JsNumber.ofText buf)

/-- A string is decoded by the grammar of headers. -/
structure DecodesHeaders (str : Text) : Prop where
  /-- The type is a number up to 6. -/
  type : ∀ packet, decodeStringPartial str = .ok packet →
    ∃ number : Nat, number ≤ 6 ∧ JsNumber.ofText (str.take 1) = .finite number ∧
      SioPacketType.all[number]? = some packet.type
  /-- The count is a natural number. -/
  natural : ∀ packet, decodeStringPartial str = .ok packet →
    ∃ attachments : Nat, packet.attachments = .finite attachments
  /-- The digits of the count stand between a binary type and the first dash. -/
  count : ∀ packet, decodeStringPartial str = .ok packet → packet.type.withBinary = true →
    ∃ (attachments : Nat) (rest : Text), str = binaryHeader packet.type attachments rest ∧
      packet.attachments = .finite attachments
  /-- A header as the encoder writes it is accepted. -/
  header : ∀ (type : SioPacketType) (attachments : Nat) (rest : Text), type.withBinary = true →
    attachments < JsNumber.safeBound → str = binaryHeader type attachments rest →
      decodeStringPartial str = .ok ⟨type, .finite attachments⟩
  /-- A string of a binary type that is not a header is rejected. -/
  rejected : ∀ (type : SioPacketType) (following : Text), type.withBinary = true →
    str = type.digit :: following →
    (¬∃ (attachments : Nat) (rest : Text), str = binaryHeader type attachments rest) →
      ∃ message, decodeStringPartial str = .error message

/-! ## The type -/

/-- A single character that is no digit is read as zero or not as a number. -/
theorem ofText_foreign {char : Char} (foreign : char.isDigit = false) :
    JsNumber.ofText [char] = .finite 0 ∨ JsNumber.ofText [char] = .nan := by
  cases blank : JsNumber.blank char with
  | true =>
    left
    simp [JsNumber.ofText, blank]
  | false =>
    right
    have trimmed : (([char].dropWhile JsNumber.blank).reverse.dropWhile
        JsNumber.blank).reverse = [char] := by simp [blank]
    have plain (text : Text) (short : text.length ≤ 1) (outside : ∀ char ∈ text,
        char.isDigit = false) : JsNumber.literal text = .nan := by
      have whole : text.takeWhile Char.isDigit = [] := by
        cases text with
        | nil => rfl
        | cons first others => simp [outside first List.mem_cons_self]
      have fraction : text.tail = [] := by
        cases text with
        | nil => rfl
        | cons first others =>
          exact List.length_eq_zero_iff.mp (Nat.le_zero.mp (Nat.le_of_succ_le_succ short))
      simp [JsNumber.literal, whole, fraction]
    have unnamed : [char] ≠ "Infinity".toList := by
      intro same
      simpa using congrArg List.length same
    simp only [JsNumber.ofText, trimmed]
    split
    -- one character leaves only the sign and the plain literal
    all_goals first
      | (rename_i same; cases same; done)
      | skip
    · rename_i same
      cases same
      exact plain [] (Nat.zero_le _) (fun _ listed => by cases listed)
    · rw [if_neg unnamed]
      exact plain [char] (Nat.le_refl _) (by simpa using foreign)

/-- Different digits are read as different numbers. -/
theorem ofText_digit_injective {first second : Char} (left : first.isDigit = true)
    (right : second.isDigit = true)
    (same : JsNumber.ofText [first] = JsNumber.ofText [second]) : first = second := by
  have value (char : Char) (digit : char.isDigit = true) :
      JsNumber.ofText [char] = .finite ((char.toNat - 48 : Nat) : Rat) := by
    have bounds : 48 ≤ char.toNat ∧ char.toNat ≤ 57 := by
      simpa [Char.isDigit, UInt32.le_iff_toNat_le] using digit
    have read : JsNumber.decimal [char] = char.toNat - 48 := by
      simp [JsNumber.decimal, Nat.ofDigitChars]
    rw [JsNumber.ofText_digits (by simp) (by simpa using digit), read,
      JsNumber.ofRat_natCast (Nat.lt_of_le_of_lt (Nat.sub_le_sub_right bounds.2 48) (by decide))]
  rw [value first left, value second right, JsNumber.finite.injEq, Nat.cast_inj] at same
  have leftBounds : 48 ≤ first.toNat ∧ first.toNat ≤ 57 := by
    simpa [Char.isDigit, UInt32.le_iff_toNat_le] using left
  have rightBounds : 48 ≤ second.toNat ∧ second.toNat ≤ 57 := by
    simpa [Char.isDigit, UInt32.le_iff_toNat_le] using right
  exact Char.toNat_inj.mp (by omega)

theorem ofNumber_some {number : JsNumber} {type : SioPacketType}
    (found : SioPacketType.ofNumber number = some type) :
    JsNumber.ofText [type.digit] = number := by
  simpa using List.find?_some found

/-- A binary type is given by its own digit and by no other beginning. -/
theorem binary_head {str : Text} {type : SioPacketType} (binary : type.withBinary = true)
    (typed : SioPacketType.ofNumber (JsNumber.ofText (str.take 1)) = some type) :
    ∃ following, str = type.digit :: following := by
  have same := ofNumber_some typed
  have apart : JsNumber.ofText [type.digit] ≠ .finite 0 ∧ JsNumber.ofText [type.digit] ≠ .nan := by
    cases type <;> first | (cases binary; done) | decide +kernel
  have digit : type.digit.isDigit = true := by cases type <;> rfl
  cases str with
  | nil => exact absurd same apart.1
  | cons first following =>
    have single : (first :: following).take 1 = [first] := rfl
    rw [single] at same
    cases numeral : first.isDigit with
    | true =>
      refine ⟨following, ?_⟩
      rw [ofText_digit_injective digit numeral same]
    | false =>
      cases ofText_foreign numeral with
      | inl zero => exact absurd (same.trans zero) apart.1
      | inr nan => exact absurd (same.trans nan) apart.2

/-! ## The count -/

section Count

variable {type : SioPacketType} {buf rest : Text}

/-- Without a dash a string of a binary type is rejected. -/
theorem decode_dashless (binary : type.withBinary = true) {following : Text}
    (dashless : '-' ∉ following) :
    decodeStringPartial (type.digit :: following) = .error "Illegal attachments".toList := by
  have whole : following.takeWhile (· ≠ '-') = following := by
    apply List.takeWhile_eq_self_iff.mpr
    intro char listed
    have apart : char ≠ '-' := fun same => dashless (same ▸ listed)
    simpa using apart
  have ended : (type.digit :: following)[1 + following.length]? = none := by
    apply List.getElem?_eq_none
    rw [List.length_cons, Nat.add_comm]
  have typed : (type.digit :: following).take 1 = [type.digit] := rfl
  have after : (type.digit :: following).drop 1 = following := rfl
  simp only [decodeStringPartial, typed, ofNumber_digit, binary, if_true, after, whole, ended]
  rw [if_pos (Or.inr (by simp))]

theorem takeWhile_dash (dashless : '-' ∉ buf) (rest : Text) :
    (buf ++ '-' :: rest).takeWhile (· ≠ '-') = buf := by
  have undashed : ∀ char ∈ buf, decide (char ≠ '-') = true := by
    intro char listed
    have apart : char ≠ '-' := fun same => dashless (same ▸ listed)
    simpa using apart
  rw [List.takeWhile_append_of_pos undashed]
  simp

/-- What stands before the first dash is accepted when it is the text of its number. -/
theorem decode_dash (binary : type.withBinary = true) (dashless : '-' ∉ buf) (rest : Text) :
    decodeStringPartial (type.digit :: buf ++ '-' :: rest) =
      if (JsNumber.ofText buf).toText = buf then .ok ⟨type, JsNumber.ofText buf⟩
      else .error "Illegal attachments".toList := by
  have before := takeWhile_dash dashless rest
  have dash : (type.digit :: buf ++ '-' :: rest)[1 + buf.length]? = some '-' := by
    simp [Nat.add_comm 1]
  have typed : (type.digit :: buf ++ '-' :: rest).take 1 = [type.digit] := rfl
  have after : (type.digit :: buf ++ '-' :: rest).drop 1 = buf ++ '-' :: rest := rfl
  simp only [decodeStringPartial, typed, ofNumber_digit, binary, if_true, after, before, dash]
  by_cases canonical : (JsNumber.ofText buf).toText = buf
  · simp [canonical]
  · rw [if_pos (Or.inl (Ne.symm canonical)), if_neg canonical]

/-- The digits of a natural number have no dash. -/
theorem dash_toDigits (attachments : Nat) : '-' ∉ Nat.toDigits 10 attachments := by
  intro listed
  have digit := Nat.isDigit_of_mem_toDigits (by decide) (by decide) listed
  cases digit

/-- A header is read in one way. -/
theorem binaryHeader_inj {other : SioPacketType} {attachments : Nat} {after : Text}
    (dashless : '-' ∉ buf)
    (same : type.digit :: buf ++ '-' :: rest = binaryHeader other attachments after) :
    buf = Nat.toDigits 10 attachments := by
  have following : buf ++ '-' :: rest = Nat.toDigits 10 attachments ++ '-' :: after :=
    (List.cons.inj same).2
  rw [← takeWhile_dash dashless rest, following, takeWhile_dash (dash_toDigits attachments)]

/-- A text that is written for the number that it denotes is unnatural, or consists of the
digits of a natural number. -/
theorem natural_or_unnatural {number : JsNumber} (read : JsNumber.ofText number.toText = number) :
    (∃ value : Nat, number = .finite value ∧ number.toText = Nat.toDigits 10 value) ∨
      Unnatural number := by
  cases number with
  | nan => exact Or.inr .nan
  | infinity => exact Or.inr .infinity
  | finite value =>
    by_cases whole : value.den = 1
    · have natural : ∃ count : Nat, value = count := by
        rcases Int.eq_nat_or_neg value.num with ⟨count, same | same⟩
        · refine ⟨count, ?_⟩
          rw [← Rat.coe_int_num_of_den_eq_one whole, same]
          rfl
        · have small : JsNumber.Small value := by
            refine ⟨whole, ?_⟩
            rw [same]
            have none : (-(count : Int)).toNat = 0 := by omega
            rw [none]
            exact Nat.two_pow_pos 53
          have zero : JsNumber.toText (.finite value) = ['0'] := by
            have none : value.num.toNat = 0 := by
              rw [same]
              omega
            unfold JsNumber.toText
            simp only [small, if_true, none]
            exact Nat.toDigits_zero 10
          have nought : JsNumber.ofText ['0'] = .finite 0 := by decide +kernel
          rw [zero, nought] at read
          exact ⟨0, (JsNumber.finite.inj read).symm⟩
      obtain ⟨count, rfl⟩ := natural
      by_cases digits : JsNumber.toText (.finite (count : Rat)) = Nat.toDigits 10 count
      · exact Or.inl ⟨count, rfl, digits⟩
      · exact Or.inr (.rounded count digits)
    · exact Or.inr (.fraction value whole)

theorem Unnatural.toText_ne {number : JsNumber} (unnatural : Unnatural number) {value : Nat}
    (natural : number = .finite value) : number.toText ≠ Nat.toDigits 10 value := by
  cases unnatural with
  | nan => cases natural
  | infinity => cases natural
  | fraction fraction divided =>
    cases natural
    exact absurd (Rat.den_natCast value) divided
  | rounded other differs =>
    obtain rfl : other = value := Nat.cast_injective (JsNumber.finite.inj natural)
    exact differs

end Count

/-! ## Accepted strings -/

section Accepted

variable {str : Text} {packet : PartialSioPacket}

/-- The type of a packet is that of the first character, and a type without attachments has
none. -/
theorem accepted_type (accepted : decodeStringPartial str = .ok packet) :
    SioPacketType.ofNumber (JsNumber.ofText (str.take 1)) = some packet.type ∧
      (packet.type.withBinary = false → packet.attachments = .finite 0) := by
  unfold decodeStringPartial at accepted
  dsimp only at accepted
  split at accepted
  · cases accepted
  · rename_i type typed
    split at accepted
    · rename_i binary
      split at accepted
      · cases accepted
      · cases accepted
        refine ⟨typed, ?_⟩
        intro plain
        cases binary.symm.trans plain
    · cases accepted
      exact ⟨typed, fun _ => rfl⟩

theorem accepted_number (accepted : decodeStringPartial str = .ok packet) :
    ∃ number : Nat, number ≤ 6 ∧ JsNumber.ofText (str.take 1) = .finite number ∧
      SioPacketType.all[number]? = some packet.type := by
  rw [← ofNumber_some (accepted_type accepted).1]
  cases packet.type with
  | connect => exact ⟨0, by decide, by decide +kernel, rfl⟩
  | disconnect => exact ⟨1, by decide, by decide +kernel, rfl⟩
  | event => exact ⟨2, by decide, by decide +kernel, rfl⟩
  | ack => exact ⟨3, by decide, by decide +kernel, rfl⟩
  | connectError => exact ⟨4, by decide, by decide +kernel, rfl⟩
  | binaryEvent => exact ⟨5, by decide, by decide +kernel, rfl⟩
  | binaryAck => exact ⟨6, by decide, by decide +kernel, rfl⟩

/-- An accepted string of a binary type has a dash, and before the first one the text of its
count. -/
theorem accepted_binary (accepted : decodeStringPartial str = .ok packet)
    (binary : packet.type.withBinary = true) :
    ∃ buf rest, str = packet.type.digit :: buf ++ '-' :: rest ∧ '-' ∉ buf ∧
      (JsNumber.ofText buf).toText = buf ∧ packet.attachments = JsNumber.ofText buf := by
  obtain ⟨following, rfl⟩ := binary_head binary (accepted_type accepted).1
  by_cases dash : '-' ∈ following
  · obtain ⟨buf, rest, rfl, dashless⟩ := List.eq_append_cons_of_mem dash
    have decoded := decode_dash binary dashless rest
    rw [List.cons_append, accepted] at decoded
    by_cases canonical : (JsNumber.ofText buf).toText = buf
    · rw [if_pos canonical] at decoded
      exact ⟨buf, rest, rfl, dashless, canonical,
        congrArg PartialSioPacket.attachments (Except.ok.inj decoded)⟩
    · rw [if_neg canonical] at decoded
      cases decoded
  · rw [decode_dashless binary dash] at accepted
    cases accepted

/-- Unless it is misread, an accepted string of a binary type is a header. -/
theorem accepted_header (read : ¬Misread str) (accepted : decodeStringPartial str = .ok packet)
    (binary : packet.type.withBinary = true) :
    ∃ (attachments : Nat) (rest : Text), str = binaryHeader packet.type attachments rest ∧
      packet.attachments = .finite attachments := by
  obtain ⟨buf, rest, shape, dashless, canonical, counted⟩ := accepted_binary accepted binary
  have again : JsNumber.ofText (JsNumber.ofText buf).toText = JsNumber.ofText buf := by
    rw [canonical]
  rcases natural_or_unnatural again with ⟨attachments, natural, digits⟩ | unnatural
  · refine ⟨attachments, rest, ?_, counted.trans natural⟩
    rw [shape, binaryHeader, ← digits, canonical]
  · exact absurd ⟨packet.type, buf, rest, binary, shape, dashless, canonical, unnatural⟩ read

end Accepted

/-! ## The count of the transport -/

/-- The number of attachments that the loop waits for is natural. -/
def Scan.Natural (scan : Scan) : Prop :=
  ∃ attachments : Nat, scan.expectedAttachments = .finite attachments

section Walk

variable {i : Nat} {scan next : Scan}

theorem scanPacket_natural {packet : EioPacket}
    (read : ∀ str, packet.data = .text str → ¬Misread str) (natural : scan.Natural)
    (scanned : scanPacket i packet scan = .ok next) : next.Natural := by
  by_cases message : packet.type = .message
  · cases binary : isMessageWithBinary packet with
    | true =>
      have attached : scanAttachment i scan = .ok next := by
        simpa [scanPacket, message, binary] using scanned
      rw [Scan.Natural, scanAttachment_expected attached]
      exact natural
    | false =>
      obtain ⟨sioPacket, decoded, taken⟩ := scanPacket_text message binary scanned
      obtain ⟨str, data, accepted⟩ := decodeData_text decoded
      rw [Scan.Natural, scanSioPacket_expected taken]
      split
      · rename_i header
        obtain ⟨attachments, -, -, counted⟩ := accepted_header (read str data) accepted header
        exact ⟨attachments, counted⟩
      · exact natural
  · have kept : next = { scan with lastSentPacketIdx := scan.lastSentPacketIdx + 1 } := by
      simpa [scanPacket, message] using scanned.symm
    subst kept
    exact natural

/-- The loop waits for a natural number of attachments, unless a packet is misread. -/
theorem scanFrom_natural {packets : List EioPacket}
    (read : ∀ packet ∈ packets, ∀ str, packet.data = .text str → ¬Misread str)
    (natural : scan.Natural) (scanned : scanFrom i scan packets = .ok next) : next.Natural := by
  induction packets generalizing i scan with
  | nil =>
    cases scanned
    exact natural
  | cons packet packets inductionHypothesis =>
    obtain ⟨first, others⟩ := List.forall_mem_cons.mp read
    obtain ⟨middle, walked, continued⟩ := scanFrom_cons scanned
    exact inductionHypothesis others (scanPacket_natural first natural walked) continued

end Walk

/-- A string is decoded by the grammar of headers exactly when it is not misread. -/
theorem decodes_headers_iff (str : Text) : DecodesHeaders str ↔ ¬Misread str := by
  constructor
  · rintro decodes ⟨type, buf, rest, binary, rfl, dashless, canonical, unnatural⟩
    have accepted : decodeStringPartial (type.digit :: buf ++ '-' :: rest) =
        .ok ⟨type, JsNumber.ofText buf⟩ := by rw [decode_dash binary dashless, if_pos canonical]
    obtain ⟨attachments, after, shape, natural⟩ := decodes.count _ accepted binary
    have digits : buf = Nat.toDigits 10 attachments := binaryHeader_inj dashless shape
    exact unnatural.toText_ne natural (canonical.trans digits)
  · intro read
    constructor
    · intro packet accepted
      exact accepted_number accepted
    · intro packet accepted
      cases binary : packet.type.withBinary with
      | true =>
        obtain ⟨attachments, -, -, natural⟩ := accepted_header read accepted binary
        exact ⟨attachments, natural⟩
      | false => exact ⟨0, (accepted_type accepted).2 binary⟩
    · intro packet accepted binary
      exact accepted_header read accepted binary
    · rintro type attachments rest binary exact rfl
      exact decodeStringPartial_header type attachments rest binary exact
    · rintro type following binary rfl foreign
      cases decoded : decodeStringPartial (type.digit :: following) with
      | error message => exact ⟨message, rfl⟩
      | ok packet =>
        have same : packet.type = type := by
          have typed := (accepted_type decoded).1
          rw [show (type.digit :: following).take 1 = [type.digit] from rfl,
            ofNumber_digit] at typed
          exact (Option.some.inj typed).symm
        obtain ⟨attachments, rest, shape, -⟩ :=
          accepted_header read decoded (by rw [same]; exact binary)
        rw [same] at shape
        exact absurd ⟨attachments, rest, shape⟩ foreign

/-- The text of what is not a number is accepted as a count. -/
theorem nan_accepted :
    decodeStringPartial "5NaN-[]".toList = .ok ⟨.binaryEvent, .nan⟩ ∧
      ¬DecodesHeaders "5NaN-[]".toList := by
  have accepted : decodeStringPartial "5NaN-[]".toList = .ok ⟨.binaryEvent, .nan⟩ := by
    decide +kernel
  refine ⟨accepted, ?_⟩
  intro decodes
  obtain ⟨attachments, natural⟩ := decodes.natural _ accepted
  cases natural

/-- A fraction, and an integer that its text rounds. -/
example :
    decodeStringPartial "51.5-[]".toList = .ok ⟨.binaryEvent, .finite (3 / 2)⟩ ∧
      decodeStringPartial "61152921504606847000-[]".toList =
        .ok ⟨.binaryAck, .finite 1152921504606846976⟩ := by
  decide +kernel

end WebPubSub.Transport
