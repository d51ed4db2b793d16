import WebPubSub.Packets

/-!
# The number of packets for the next send

`_getPacketNumberForNextSend` of `web-pubsub-transport.ts` walks the buffered
packets once and keeps five loop variables. The walk is modelled packet by packet,
with every condition and error text of the source. On a concatenation of whole
units followed by the beginning of one more unit it stops exactly before that
beginning, whatever the units are.

An object in an error text reads as `[object Object]`. The count of packets handed
to one call is a list length; a unit with `JsNumber.safeBound` attachments or more
is longer than any JavaScript array and is left out of the notion of a unit.
-/

namespace WebPubSub.Transport

/-- The loop variables of `_getPacketNumberForNextSend`. -/
structure Scan where
  attachmentCount : Nat
  expectedAttachments : JsNumber
  lastBinaryMessagePacketIdx : Int
  lastSentPacketIdx : Int
  shouldBeAttachment : Bool

/-- Their values before the loop. -/
def Scan.initial : Scan := ⟨0, .finite 0, -1, -1, false⟩

/-- `_isMessageWithBinary`. -/
def isMessageWithBinary (packet : EioPacket) : Bool :=
  match packet.data with
  | .binary _ => true
  | _ => false

/-- `, packets[i] = ${eioPacket}`, the end of every error text of the loop. -/
def packetText (i : Nat) : Text :=
  ", packets[".toList ++ Nat.toDigits 10 i ++ "] = [object Object]".toList

/-- `decodeStringPartial(eioPacket.data)`. A packet without data has no `charAt`. -/
def decodeData : RawData → Except Text PartialSioPacket
  | .text str => decodeStringPartial str
  | _ => .error "Cannot read properties of undefined (reading 'charAt')".toList

/-- Condition 1: a binary attachment packet. -/
def scanAttachment (i : Nat) (scan : Scan) : Except Text Scan :=
  if scan.shouldBeAttachment = false then
    .error ("Expect a packet whose data is binary attachment but not found".toList ++ packetText i)
  else
    let attachmentCount := scan.attachmentCount + 1
    if JsNumber.finite attachmentCount = scan.expectedAttachments then
      if scan.lastBinaryMessagePacketIdx < 0 ∨ (i : Int) ≤ scan.lastBinaryMessagePacketIdx then
        .error ("Invalid lastBinaryMessagePacketIdx = ".toList ++
          (toString scan.lastBinaryMessagePacketIdx).toList ++ packetText i)
      else .ok { scan with
        attachmentCount := 0, shouldBeAttachment := false, lastSentPacketIdx := i }
    else .ok { scan with attachmentCount := attachmentCount, shouldBeAttachment := true }

/-- Conditions 2 and 3: a packet whose data is an encoded Socket.IO packet. -/
def scanSioPacket (i : Nat) (sioPacket : PartialSioPacket) (scan : Scan) : Except Text Scan :=
  if sioPacket.type.withBinary then
    if scan.shouldBeAttachment then
      .error ("Expect a packet with binary content, but got a regular packet".toList ++
        packetText i)
    else if scan.attachmentCount ≠ 0 then
      .error ("Exepect attachmentCount = 0 but got ".toList ++
        Nat.toDigits 10 scan.attachmentCount ++ packetText i)
    else .ok { scan with
      attachmentCount := 0
      expectedAttachments := sioPacket.attachments
      lastBinaryMessagePacketIdx := i
      shouldBeAttachment := true }
  else if scan.shouldBeAttachment then
    .error ("Expect a packet whose data is binary attachment but not found".toList ++ packetText i)
  else .ok { scan with
    shouldBeAttachment := false, lastSentPacketIdx := scan.lastSentPacketIdx + 1 }

/-- One turn of the loop, at index `i`. -/
def scanPacket (i : Nat) (eioPacket : EioPacket) (scan : Scan) : Except Text Scan :=
  if eioPacket.type ≠ .message then
    .ok { scan with lastSentPacketIdx := scan.lastSentPacketIdx + 1 }
  else if isMessageWithBinary eioPacket then scanAttachment i scan
  else do
    let sioPacket ← decodeData eioPacket.data
    scanSioPacket i sioPacket scan

/-- The loop from index `i` on. -/
def scanFrom (i : Nat) (scan : Scan) : List EioPacket → Except Text Scan
  | [] => .ok scan
  | eioPacket :: packets => do
    let next ← scanPacket i eioPacket scan
    scanFrom (i + 1) next packets

/-- `_getPacketNumberForNextSend`. -/
def getPacketNumberForNextSend (sioMode : Bool) (packets : List EioPacket) : Except Text Int :=
  if sioMode = false then .ok packets.length
  else do
    let scan ← scanFrom 0 Scan.initial packets
    pure (scan.lastSentPacketIdx + 1)

section Turns

variable {i : Nat} {scan final : Scan} {packet : EioPacket} {packets : List EioPacket}

/-- A completed walk is a completed turn and a completed rest. -/
theorem scanFrom_cons (walked : scanFrom i scan (packet :: packets) = .ok final) :
    ∃ next, scanPacket i packet scan = .ok next ∧ scanFrom (i + 1) next packets = .ok final := by
  rw [scanFrom] at walked
  cases turned : scanPacket i packet scan with
  | error message =>
    rw [turned] at walked
    cases walked
  | ok next =>
    rw [turned] at walked
    exact ⟨next, rfl, walked⟩

/-- A turn on a text packet. -/
theorem scanPacket_text {next : Scan} (message : packet.type = .message)
    (text : isMessageWithBinary packet = false) (turned : scanPacket i packet scan = .ok next) :
    ∃ sioPacket, decodeData packet.data = .ok sioPacket ∧
      scanSioPacket i sioPacket scan = .ok next := by
  simp only [scanPacket, message, ne_eq, not_true_eq_false, if_false, text,
    Bool.false_eq_true] at turned
  cases decoded : decodeData packet.data with
  | error reason =>
    rw [decoded] at turned
    cases turned
  | ok sioPacket =>
    rw [decoded] at turned
    exact ⟨sioPacket, rfl, turned⟩

/-- Only a text is decoded. -/
theorem decodeData_text {data : RawData} {sioPacket : PartialSioPacket}
    (decoded : decodeData data = .ok sioPacket) :
    ∃ str, data = .text str ∧ decodeStringPartial str = .ok sioPacket := by
  cases data with
  | text str => exact ⟨str, rfl, decoded⟩
  | absent => cases decoded
  | binary content => cases decoded

/-- An attachment does not change how many are expected. -/
theorem scanAttachment_expected {next : Scan} (taken : scanAttachment i scan = .ok next) :
    next.expectedAttachments = scan.expectedAttachments := by
  unfold scanAttachment at taken
  dsimp only at taken
  split at taken
  · cases taken
  · split at taken
    · split at taken
      · cases taken
      · cases taken
        rfl
    · cases taken
      rfl

/-- Only a header changes it. -/
theorem scanSioPacket_expected {sioPacket : PartialSioPacket} {next : Scan}
    (taken : scanSioPacket i sioPacket scan = .ok next) :
    next.expectedAttachments = if sioPacket.type.withBinary then sioPacket.attachments
      else scan.expectedAttachments := by
  unfold scanSioPacket at taken
  split at taken
  · rename_i binary
    rw [if_pos binary]
    split at taken
    · cases taken
    · split at taken
      · cases taken
      · cases taken
        rfl
  · rename_i plain
    rw [if_neg plain]
    split at taken
    · cases taken
    · cases taken
      rfl

end Turns

/-- A binary attachment packet. -/
def attachment (content : List UInt8) : EioPacket := ⟨.message, .binary content⟩

/-- A text packet that carries an encoded Socket.IO packet. -/
def textPacket (str : Text) : EioPacket := ⟨.message, .text str⟩

/-- The indivisible pieces of a packet stream: a packet without Socket.IO data, a
Socket.IO packet without attachments, or a binary header and all its attachments. -/
inductive WholeUnit : List EioPacket → Prop where
  | control (packet : EioPacket) (pure : packet.type ≠ .message) : WholeUnit [packet]
  | text (type : SioPacketType) (rest : Text) (plain : type.withBinary = false) :
      WholeUnit [textPacket (type.digit :: rest)]
  | binary (type : SioPacketType) (rest : Text) (contents : List (List UInt8))
      (withBinary : type.withBinary = true) (nonempty : 0 < contents.length)
      (exact : contents.length < JsNumber.safeBound) :
      WholeUnit (textPacket (binaryHeader type contents.length rest) ::
        contents.map attachment)

/-- The loop variables between two units: everything before index `i` can be sent. -/
structure Scan.AtBoundary (i : Nat) (scan : Scan) : Prop where
  sendable : scan.lastSentPacketIdx = (i : Int) - 1
  closed : scan.shouldBeAttachment = false
  counted : scan.attachmentCount = 0

/-- The loop variables inside a binary unit that starts at index `start` and has
`expected` attachments, of which `found` were seen. -/
structure Scan.Inside (start found expected : Nat) (scan : Scan) : Prop where
  sendable : scan.lastSentPacketIdx = (start : Int) - 1
  header : scan.lastBinaryMessagePacketIdx = start
  pending : scan.shouldBeAttachment = true
  counted : scan.attachmentCount = found
  expects : scan.expectedAttachments = .finite expected

theorem Scan.initial_atBoundary : Scan.initial.AtBoundary 0 := ⟨rfl, rfl, rfl⟩

/-- A walk over a concatenation is a walk over its parts. -/
theorem scanFrom_append (i : Nat) (scan : Scan) (front back : List EioPacket) :
    scanFrom i scan (front ++ back) =
      (scanFrom i scan front).bind (fun next => scanFrom (i + front.length) next back) := by
  induction front generalizing i scan with
  | nil => rfl
  | cons packet front inductionHypothesis =>
    simp only [List.cons_append, scanFrom, List.length_cons]
    cases scanned : scanPacket i packet scan with
    | error message => rfl
    | ok next =>
      have tail := inductionHypothesis (i + 1) next
      rw [Nat.add_assoc, Nat.add_comm 1] at tail
      exact tail

/-- A control packet keeps the boundary. -/
theorem scan_control {i : Nat} {scan : Scan} {packet : EioPacket}
    (pure : packet.type ≠ .message) (boundary : scan.AtBoundary i) :
    ∃ next, scanPacket i packet scan = .ok next ∧ next.AtBoundary (i + 1) := by
  refine ⟨{ scan with lastSentPacketIdx := scan.lastSentPacketIdx + 1 }, ?_, ?_, ?_, ?_⟩
  · simp [scanPacket, pure]
  · have sendable := boundary.sendable
    push_cast
    omega
  · exact boundary.closed
  · exact boundary.counted

/-- So does a Socket.IO packet without attachments. -/
theorem scan_text {i : Nat} {scan : Scan} (type : SioPacketType) (rest : Text)
    (plain : type.withBinary = false) (boundary : scan.AtBoundary i) :
    ∃ next, scanPacket i (textPacket (type.digit :: rest)) scan = .ok next ∧
      next.AtBoundary (i + 1) := by
  have closed := boundary.closed
  refine ⟨{ scan with
    shouldBeAttachment := false
    lastSentPacketIdx := scan.lastSentPacketIdx + 1 }, ?_, ?_, rfl, boundary.counted⟩
  · simp [scanPacket, textPacket, isMessageWithBinary, decodeData,
      decodeStringPartial_text type rest plain, scanSioPacket, plain, closed, bind, Except.bind]
  · have sendable := boundary.sendable
    push_cast
    omega

/-- A binary header opens its unit and leaves the number of sendable packets. -/
theorem scan_header {i : Nat} {scan : Scan} (type : SioPacketType) (expected : Nat) (rest : Text)
    (withBinary : type.withBinary = true) (exact : expected < JsNumber.safeBound)
    (boundary : scan.AtBoundary i) :
    ∃ next, scanPacket i (textPacket (binaryHeader type expected rest)) scan = .ok next ∧
      next.Inside i 0 expected := by
  have closed := boundary.closed
  have counted := boundary.counted
  refine ⟨{ scan with
    attachmentCount := 0
    expectedAttachments := .finite expected
    lastBinaryMessagePacketIdx := i
    shouldBeAttachment := true }, ?_, boundary.sendable, rfl, rfl, rfl, rfl⟩
  simp [scanPacket, textPacket, isMessageWithBinary, decodeData,
    decodeStringPartial_header type expected rest withBinary exact, scanSioPacket, withBinary,
    closed, counted, bind, Except.bind]

/-- One attachment more, not the last one. -/
theorem scan_attachment_more {start found expected : Nat} {scan : Scan} (content : List UInt8)
    (inside : scan.Inside start found expected) (more : found + 1 < expected) :
    ∃ next, scanPacket (start + 1 + found) (attachment content) scan = .ok next ∧
      next.Inside start (found + 1) expected := by
  have different : ¬JsNumber.finite ((found + 1 : Nat) : ℚ) = .finite expected := by
    intro same
    injection same with same
    have := Nat.cast_injective same
    omega
  refine ⟨{ scan with attachmentCount := found + 1, shouldBeAttachment := true }, ?_,
    inside.sendable, inside.header, rfl, rfl, inside.expects⟩
  push_cast at different
  simp [scanPacket, attachment, isMessageWithBinary, scanAttachment, inside.pending,
    inside.counted, inside.expects, different]

/-- The last attachment closes the unit and makes all of it sendable. -/
theorem scan_attachment_last {start found expected : Nat} {scan : Scan} (content : List UInt8)
    (inside : scan.Inside start found expected) (last : found + 1 = expected) :
    ∃ next, scanPacket (start + 1 + found) (attachment content) scan = .ok next ∧
      next.AtBoundary (start + 1 + expected) := by
  subst last
  refine ⟨{ scan with
    attachmentCount := 0
    shouldBeAttachment := false
    lastSentPacketIdx := ((start + 1 + found : Nat) : Int) }, ?_, ?_, rfl, rfl⟩
  · have after : ¬(start : Int) + 1 + found ≤ start := by omega
    simp [scanPacket, attachment, isMessageWithBinary, scanAttachment, inside.pending,
      inside.counted, inside.expects, inside.header, after]
  · push_cast
    omega

/-- A walk over fewer attachments than are missing stays inside the unit. -/
theorem scan_attachments_more {start found expected : Nat} {scan : Scan}
    (contents : List (List UInt8)) (inside : scan.Inside start found expected)
    (more : found + contents.length < expected) :
    ∃ next, scanFrom (start + 1 + found) scan (contents.map attachment) = .ok next ∧
      next.Inside start (found + contents.length) expected := by
  induction contents generalizing found scan with
  | nil => exact ⟨scan, rfl, inside⟩
  | cons content contents inductionHypothesis =>
    rw [List.length_cons] at more
    obtain ⟨next, scanned, stays⟩ := scan_attachment_more content inside (by omega)
    obtain ⟨final, walked, ends⟩ := inductionHypothesis stays (by omega)
    refine ⟨final, ?_, ?_⟩
    · simp only [List.map_cons, scanFrom, scanned]
      exact walked
    · rw [List.length_cons]
      exact (show found + 1 + contents.length = found + (contents.length + 1) by omega) ▸ ends

/-- A walk over exactly the missing attachments ends at a boundary. -/
theorem scan_attachments_all {start found expected : Nat} {scan : Scan}
    (contents : List (List UInt8)) (inside : scan.Inside start found expected)
    (nonempty : 0 < contents.length) (all : found + contents.length = expected) :
    ∃ next, scanFrom (start + 1 + found) scan (contents.map attachment) = .ok next ∧
      next.AtBoundary (start + 1 + expected) := by
  obtain ⟨front, last, rfl⟩ : ∃ front last, contents = front ++ [last] := by
    have split := List.dropLast_append_getLast (List.length_pos_iff.mp nonempty)
    exact ⟨_, _, split.symm⟩
  rw [List.length_append, List.length_singleton] at all
  obtain ⟨middle, walked, stays⟩ := scan_attachments_more front inside (by omega)
  obtain ⟨next, scanned, boundary⟩ := scan_attachment_last last stays (by omega)
  refine ⟨next, ?_, boundary⟩
  rw [List.map_append, scanFrom_append, walked]
  simp only [Except.bind, List.map_cons, List.map_nil, List.length_map, scanFrom]
  rw [Nat.add_assoc, scanned]
  rfl

/-- A walk over one whole unit goes from boundary to boundary. -/
theorem scan_unit {i : Nat} {scan : Scan} {unit : List EioPacket} (whole : WholeUnit unit)
    (boundary : scan.AtBoundary i) :
    ∃ next, scanFrom i scan unit = .ok next ∧ next.AtBoundary (i + unit.length) := by
  cases whole with
  | control packet pure =>
    obtain ⟨next, scanned, ends⟩ := scan_control pure boundary
    exact ⟨next, by simp [scanFrom, scanned, bind, Except.bind], ends⟩
  | text type rest plain =>
    obtain ⟨next, scanned, ends⟩ := scan_text type rest plain boundary
    exact ⟨next, by simp [scanFrom, scanned, bind, Except.bind], ends⟩
  | binary type rest contents withBinary nonempty exact =>
    obtain ⟨opened, scanned, inside⟩ :=
      scan_header type contents.length rest withBinary exact boundary
    obtain ⟨next, walked, ends⟩ :=
      scan_attachments_all contents inside nonempty (Nat.zero_add _)
    refine ⟨next, ?_, ?_⟩
    · simp only [scanFrom, scanned]
      exact walked
    · simpa [Nat.add_assoc, Nat.add_comm 1] using ends

/-- A walk over a beginning of a unit that is not the whole leaves the number of
sendable packets at the start of the unit. -/
theorem scan_partial {i : Nat} {scan : Scan} {unit front : List EioPacket}
    (whole : WholeUnit unit) (beginning : front <+: unit) (proper : front.length < unit.length)
    (boundary : scan.AtBoundary i) :
    ∃ next, scanFrom i scan front = .ok next ∧ next.lastSentPacketIdx = (i : Int) - 1 := by
  match front with
  | [] => exact ⟨scan, rfl, boundary.sendable⟩
  | packet :: front =>
    cases whole with
    | control _ _ => simp at proper
    | text _ _ _ => simp at proper
    | binary type rest contents withBinary nonempty exact =>
      obtain ⟨rfl, tail⟩ := List.cons_prefix_cons.mp beginning
      have seen : front = (contents.take front.length).map attachment := by
        rw [List.map_take]
        exact (List.prefix_iff_eq_take.mp tail)
      have fewer : front.length < contents.length := by simpa using proper
      obtain ⟨opened, scanned, inside⟩ :=
        scan_header type contents.length rest withBinary exact boundary
      obtain ⟨next, walked, ends⟩ := scan_attachments_more (contents.take front.length) inside
        (by simpa [Nat.min_eq_left fewer.le] using fewer)
      refine ⟨next, ?_, ends.sendable⟩
      simp only [scanFrom, scanned]
      rw [seen]
      exact walked

/-- A walk over whole units goes from boundary to boundary. -/
theorem scan_units {i : Nat} {scan : Scan} {units : List (List EioPacket)}
    (whole : ∀ unit ∈ units, WholeUnit unit) (boundary : scan.AtBoundary i) :
    ∃ next, scanFrom i scan units.flatten = .ok next ∧
      next.AtBoundary (i + units.flatten.length) := by
  induction units generalizing i scan with
  | nil => exact ⟨scan, rfl, boundary⟩
  | cons unit units inductionHypothesis =>
    obtain ⟨middle, walked, reached⟩ := scan_unit (whole unit List.mem_cons_self) boundary
    obtain ⟨next, continued, ends⟩ := inductionHypothesis
      (fun other member => whole other (List.mem_cons_of_mem _ member)) reached
    refine ⟨next, ?_, ?_⟩
    · rw [List.flatten_cons, scanFrom_append, walked]
      exact continued
    · rw [List.flatten_cons, List.length_append, ← Nat.add_assoc]
      exact ends

/-- What is left of a stream cut anywhere: a beginning of the next unit that is not
the whole of it, and nothing at all when no unit is left. -/
def Trailing (rest : List (List EioPacket)) (front : List EioPacket) : Prop :=
  front = [] ∨ ∃ unit later, rest = unit :: later ∧ front <+: unit ∧ front.length < unit.length

/-- In Socket.IO mode the packets for the next send are the whole units in front. -/
theorem getPacketNumber_units {units rest : List (List EioPacket)} {front : List EioPacket}
    (whole : ∀ unit ∈ units ++ rest, WholeUnit unit) (trailing : Trailing rest front) :
    getPacketNumberForNextSend true (units.flatten ++ front) = .ok units.flatten.length := by
  obtain ⟨middle, walked, reached⟩ := scan_units
    (fun unit member => whole unit (List.mem_append_left rest member)) Scan.initial_atBoundary
  have ended : ∃ next, scanFrom (0 + units.flatten.length) middle front = .ok next ∧
      next.lastSentPacketIdx = ((0 + units.flatten.length : Nat) : Int) - 1 := by
    rcases trailing with rfl | ⟨unit, later, rfl, beginning, proper⟩
    · exact ⟨middle, rfl, reached.sendable⟩
    · have wholeUnit : WholeUnit unit :=
        whole unit (List.mem_append_right units List.mem_cons_self)
      exact scan_partial wholeUnit beginning proper reached
  obtain ⟨next, continued, sendable⟩ := ended
  have scanned : scanFrom 0 Scan.initial (units.flatten ++ front) = .ok next := by
    rw [scanFrom_append, walked]
    exact continued
  simp only [getPacketNumberForNextSend, scanned, bind, Except.bind, pure, Except.pure, sendable]
  simp

end WebPubSub.Transport
