import WebPubSub.Transport.NextSend

/-!
# The law of the number of packets for the next send

The docstring of `_getPacketNumberForNextSend` gives a law: the largest number of packets
in front that contain no incomplete binary sequence. A binary sequence is a header with its
attachments, and packets without Socket.IO data may stand anywhere.

The loop counts every such packet as sendable, also one that stands in a sequence whose
attachments are not all there, and it waits for an attachment after a header that announces
none. On every list on which the loop does not throw, the law holds exactly when neither
occurs.
-/

namespace WebPubSub.Transport

/-- The number of attachments that a packet announces, if it is a binary header. -/
def announced (packet : EioPacket) : Option JsNumber :=
  if packet.type = .message ∧ isMessageWithBinary packet = false then
    match decodeData packet.data with
    | .ok sioPacket => if sioPacket.type.withBinary then some sioPacket.attachments else none
    | .error _ => none
  else none

/-- The attachments that stand next, whatever control packets stand between. -/
def attachmentsAfter (packets : List EioPacket) : Nat :=
  ((packets.filter (fun packet => packet.type = .message)).takeWhile isMessageWithBinary).length

/-- Fewer attachments follow than were announced. -/
def Short (count : JsNumber) (after : List EioPacket) : Prop :=
  ∀ number : Nat, count = .finite number → attachmentsAfter after < number

/-- A list with a header whose attachments are not all there. -/
def Incomplete : List EioPacket → Prop
  | [] => False
  | packet :: after => (∃ count, announced packet = some count ∧ Short count after) ∨ Incomplete after

/-- The law: the largest number of packets in front without an incomplete sequence. -/
structure LargestSendable (packets : List EioPacket) (number : Nat) : Prop where
  inside : number ≤ packets.length
  complete : ¬Incomplete (packets.take number)
  largest : ∀ other ≤ packets.length, ¬Incomplete (packets.take other) → other ≤ number

/-- Every header announces some attachment, and no control packet follows one whose
attachments are not all there. -/
def Orderly : List EioPacket → Prop
  | [] => True
  | packet :: after => (∀ count, announced packet = some count → count ≠ .finite 0 ∧
      (Short count after → ∀ later ∈ after, later.type = .message)) ∧ Orderly after

/-- Control packets and attachments only, as they stand within a sequence. -/
def Within (packets : List EioPacket) : Prop :=
  ∀ packet ∈ packets, packet.type = .message → isMessageWithBinary packet = true

/-- The number of control packets of a list. -/
def controls (packets : List EioPacket) : Nat :=
  (packets.filter (fun packet => packet.type ≠ .message)).length

section Sequences

variable {packet : EioPacket} {packets front back : List EioPacket} {count : JsNumber}

theorem announced_control (control : packet.type ≠ .message) : announced packet = none := by
  simp [announced, control]

theorem announced_attachment (binary : isMessageWithBinary packet = true) :
    announced packet = none := by
  simp [announced, binary]

/-- Nothing within a sequence is a header. -/
theorem announced_within (within : Within packets) (listed : packet ∈ packets) :
    announced packet = none := by
  by_cases message : packet.type = .message
  · exact announced_attachment (within packet listed message)
  · exact announced_control message

theorem within_cons : Within (packet :: packets) ↔
    (packet.type = .message → isMessageWithBinary packet = true) ∧ Within packets :=
  List.forall_mem_cons

theorem attachmentsAfter_control (control : packet.type ≠ .message) (after : List EioPacket) :
    attachmentsAfter (packet :: after) = attachmentsAfter after := by
  simp [attachmentsAfter, control]

theorem attachmentsAfter_attachment (message : packet.type = .message)
    (binary : isMessageWithBinary packet = true) (after : List EioPacket) :
    attachmentsAfter (packet :: after) = attachmentsAfter after + 1 := by
  simp [attachmentsAfter, message, binary]

/-- Within a sequence the attachments add up. -/
theorem attachmentsAfter_append (within : Within front) (back : List EioPacket) :
    attachmentsAfter (front ++ back) = attachmentsAfter front + attachmentsAfter back := by
  have all : ∀ packet ∈ front.filter (fun packet => packet.type = .message),
      isMessageWithBinary packet = true := by
    intro packet listed
    obtain ⟨inside, message⟩ := List.mem_filter.mp listed
    exact within packet inside (by simpa using message)
  simp only [attachmentsAfter, List.filter_append]
  rw [List.takeWhile_append_of_pos all, List.length_append, List.takeWhile_eq_self_iff.mpr all]

/-- Nothing within a sequence is incomplete, nor makes what follows incomplete. -/
theorem incomplete_within (within : Within front) (back : List EioPacket) :
    Incomplete (front ++ back) ↔ Incomplete back := by
  induction front with
  | nil => rfl
  | cons packet front inductionHypothesis =>
    have plain := announced_within within List.mem_cons_self
    simp only [List.cons_append, Incomplete, plain, reduceCtorEq, false_and, exists_false, false_or]
    exact inductionHypothesis (within_cons.mp within).2

theorem orderly_within (within : Within front) (back : List EioPacket) :
    Orderly (front ++ back) ↔ Orderly back := by
  induction front with
  | nil => rfl
  | cons packet front inductionHypothesis =>
    have plain := announced_within within List.mem_cons_self
    simp only [List.cons_append, Orderly, plain, reduceCtorEq, false_implies, implies_true,
      true_and]
    exact inductionHypothesis (within_cons.mp within).2

/-- Packets in front that never matter to the law are counted by it. -/
theorem largest_append (number : Nat)
    (apart : ∀ back', back' <+: back → (Incomplete (front ++ back') ↔ Incomplete back')) :
    LargestSendable (front ++ back) (front.length + number) ↔ LargestSendable back number := by
  have cut (other : Nat) : Incomplete ((front ++ back).take (front.length + other)) ↔
      Incomplete (back.take other) := by
    rw [List.take_length_add_append]
    exact apart _ (List.take_prefix _ _)
  constructor
  · rintro ⟨inside, complete, largest⟩
    rw [List.length_append] at inside
    refine ⟨by omega, mt (cut number).mpr complete, fun other bounded sendable => ?_⟩
    have reached := largest (front.length + other) (by rw [List.length_append]; omega)
      (mt (cut other).mp sendable)
    omega
  · rintro ⟨inside, complete, largest⟩
    refine ⟨by rw [List.length_append]; omega, mt (cut number).mp complete,
      fun other bounded sendable => ?_⟩
    rw [List.length_append] at bounded
    cases Nat.le_total other front.length with
    | inl before => omega
    | inr beyond =>
      obtain ⟨rest, rfl⟩ := Nat.exists_eq_add_of_le beyond
      have reached := largest rest (by omega) (mt (cut rest).mpr sendable)
      omega

theorem controls_le (packets : List EioPacket) : controls packets ≤ packets.length :=
  List.length_filter_le _ _

theorem controls_eq_zero : controls packets = 0 ↔ ∀ packet ∈ packets, packet.type = .message := by
  simp [controls, List.filter_eq_nil_iff]

end Sequences

section Walk

variable {i : Nat} {scan final : Scan} {packet : EioPacket} {packets : List EioPacket}

/-- No text packet is taken while attachments are missing. -/
theorem scanSioPacket_pending {sioPacket : PartialSioPacket} {next : Scan}
    (pending : scan.shouldBeAttachment = true) : scanSioPacket i sioPacket scan ≠ .ok next := by
  unfold scanSioPacket
  rw [pending]
  split <;> simp

/-- A turn on an attachment, which ends the sequence or not. -/
theorem scanAttachment_pending {next : Scan} (pending : scan.shouldBeAttachment = true)
    (turned : scanAttachment i scan = .ok next) :
    (scan.expectedAttachments = .finite (scan.attachmentCount + 1 : Nat) ∧
        next.AtBoundary (i + 1)) ∨
      (scan.expectedAttachments ≠ .finite (scan.attachmentCount + 1 : Nat) ∧
        next = { scan with attachmentCount := scan.attachmentCount + 1 }) := by
  simp only [scanAttachment, pending, Bool.true_eq_false, if_false] at turned
  split at turned
  · rename_i reached
    split at turned
    · cases turned
    · obtain rfl := Except.ok.inj turned
      refine Or.inl ⟨?_, ?_, rfl, rfl⟩
      · rw [← reached]
      · dsimp only
        push_cast
        omega
  · rename_i unreached
    obtain rfl := Except.ok.inj turned
    refine Or.inr ⟨fun reached => unreached reached.symm, ?_⟩
    rw [← pending]

/-- Where a walk goes from within a sequence. Either the attachments come, and it goes on
from the boundary behind them, or it stays within the sequence to the end. -/
def Pending (i : Nat) (scan final : Scan) (packets : List EioPacket) : Prop :=
  (∃ front back middle, packets = front ++ back ∧ Within front ∧ 0 < attachmentsAfter front ∧
      scan.expectedAttachments = .finite (scan.attachmentCount + attachmentsAfter front : Nat) ∧
      middle.AtBoundary (i + front.length) ∧
      scanFrom (i + front.length) middle back = .ok final) ∨
    (Within packets ∧
      (∀ number, 0 < number → number ≤ attachmentsAfter packets →
        scan.expectedAttachments ≠ .finite (scan.attachmentCount + number : Nat)) ∧
      final.lastSentPacketIdx = scan.lastSentPacketIdx + controls packets)

/-- A control packet or an attachment that is not the last one leaves the walk within the
sequence. -/
theorem pending_cons {next : Scan} (within : Within [packet])
    (expected : next.expectedAttachments = scan.expectedAttachments)
    (attached : next.attachmentCount = scan.attachmentCount + attachmentsAfter [packet])
    (sent : next.lastSentPacketIdx = scan.lastSentPacketIdx + controls [packet])
    (unreached : ∀ number, 0 < number → number ≤ attachmentsAfter [packet] →
      scan.expectedAttachments ≠ .finite (scan.attachmentCount + number : Nat))
    (rest : Pending (i + 1) next final packets) : Pending i scan final (packet :: packets) := by
  have attachments (after : List EioPacket) :
      attachmentsAfter (packet :: after) = attachmentsAfter [packet] + attachmentsAfter after :=
    attachmentsAfter_append within after
  have inside (after : List EioPacket) (held : Within after) : Within (packet :: after) :=
    within_cons.mpr ⟨(within_cons.mp within).1, held⟩
  rcases rest with ⟨front, back, middle, rfl, held, some, reached, boundary, walked⟩ |
    ⟨held, unreachable, last⟩
  · have moved : i + (packet :: front).length = i + 1 + front.length := by
      rw [List.length_cons]
      omega
    refine Or.inl ⟨packet :: front, back, middle, rfl, inside front held, ?_, ?_, ?_, ?_⟩
    · rw [attachments]
      omega
    · rw [attachments, ← expected, reached, attached, Nat.add_assoc]
    · rwa [moved]
    · rwa [moved]
  · refine Or.inr ⟨inside packets held, ?_, ?_⟩
    · intro number positive bounded
      rw [attachments] at bounded
      cases Nat.lt_or_ge (attachmentsAfter [packet]) number with
      | inl later =>
        have other := unreachable (number - attachmentsAfter [packet]) (by omega) (by omega)
        have total : scan.attachmentCount + attachmentsAfter [packet] +
            (number - attachmentsAfter [packet]) = scan.attachmentCount + number := by omega
        rwa [expected, attached, total] at other
      | inr first => exact unreached number positive first
    · have counted : controls (packet :: packets) = controls [packet] + controls packets := by
        rw [controls, ← List.singleton_append, List.filter_append, List.length_append]
        rfl
      rw [last, sent, counted]
      push_cast
      omega

/-- A walk from within a sequence. -/
theorem scan_pending (pending : scan.shouldBeAttachment = true)
    (walked : scanFrom i scan packets = .ok final) : Pending i scan final packets := by
  induction packets generalizing i scan with
  | nil =>
    obtain rfl := Except.ok.inj walked
    refine Or.inr ⟨List.forall_mem_nil _, ?_, by simp [controls]⟩
    intro number positive bounded
    exact absurd positive (Nat.not_lt.mpr bounded)
  | cons packet packets inductionHypothesis =>
    obtain ⟨next, turned, continued⟩ := scanFrom_cons walked
    by_cases message : packet.type = .message
    · cases binary : isMessageWithBinary packet with
      | false =>
        obtain ⟨sioPacket, -, taken⟩ := scanPacket_text message binary turned
        exact absurd taken (scanSioPacket_pending pending)
      | true =>
        have attached : scanAttachment i scan = .ok next := by
          simpa [scanPacket, message, binary] using turned
        have one : attachmentsAfter [packet] = 1 :=
          (attachmentsAfter_attachment message binary []).trans rfl
        have within : Within [packet] := within_cons.mpr ⟨fun _ => binary, List.forall_mem_nil _⟩
        rcases scanAttachment_pending pending attached with ⟨reached, boundary⟩ | ⟨unreached, rfl⟩
        · refine Or.inl ⟨[packet], packets, next, rfl, within, ?_, ?_, boundary, continued⟩
          · rw [one]
            exact Nat.one_pos
          · rw [reached, one]
        · refine pending_cons within ?_ ?_ ?_ ?_ (inductionHypothesis (by exact pending) continued)
          · rfl
          · rw [one]
          · simp [controls, message]
          · rw [one]
            intro number positive bounded
            obtain rfl : number = 1 := by omega
            exact unreached
    · have kept : next = { scan with lastSentPacketIdx := scan.lastSentPacketIdx + 1 } := by
        simpa [scanPacket, message] using turned.symm
      subst kept
      have none : attachmentsAfter [packet] = 0 := (attachmentsAfter_control message []).trans rfl
      have within : Within [packet] :=
        within_cons.mpr ⟨fun same => absurd same message, List.forall_mem_nil _⟩
      refine pending_cons within ?_ ?_ ?_ ?_ (inductionHypothesis (by exact pending) continued)
      · rfl
      · rw [none, Nat.add_zero]
      · simp [controls, message]
      · rw [none]
        intro number positive bounded
        exact absurd positive (Nat.not_lt.mpr bounded)

/-- A header whose attachments follow changes nothing about the rest. -/
theorem largest_sequence {front back : List EioPacket} {count : JsNumber} {number : Nat}
    (header : announced packet = some count) (within : Within front)
    (some : 0 < attachmentsAfter front) (reached : count = .finite (attachmentsAfter front : Nat)) :
    (LargestSendable (packet :: (front ++ back)) (front.length + 1 + number) ↔
        LargestSendable back number) ∧
      (Orderly (packet :: (front ++ back)) ↔ Orderly back) := by
  have enough (after : List EioPacket) : ¬Short count (front ++ after) := by
    intro short
    have fewer := short _ reached
    rw [attachmentsAfter_append within] at fewer
    omega
  constructor
  · rw [← List.length_cons, ← List.cons_append]
    apply largest_append
    intro back' _
    simp only [List.cons_append, Incomplete, header, Option.some.injEq, exists_eq_left', enough,
      false_or]
    exact incomplete_within within back'
  · have nonzero : count ≠ .finite 0 := by
      rintro rfl
      have zero := JsNumber.finite.inj reached
      exact some.ne (by exact_mod_cast zero)
    simp only [Orderly, header, Option.some.injEq, forall_eq', nonzero, enough, false_implies,
      ne_eq, not_false_eq_true, true_and]
    exact orderly_within within back

/-- A sequence that stays open is left out as a whole, and a header that announces nothing
is not left out. -/
theorem largest_open {count : JsNumber} (header : announced packet = some count)
    (within : Within packets)
    (unreachable : ∀ number, 0 < number → number ≤ attachmentsAfter packets →
      count ≠ .finite (number : Nat)) :
    LargestSendable (packet :: packets) (controls packets) ↔ Orderly (packet :: packets) := by
  have inner : Orderly packets := by
    have all := (orderly_within within []).mpr trivial
    rwa [List.append_nil] at all
  have clean (taken : List EioPacket) (beginning : taken <+: packets) : ¬Incomplete taken := by
    have kept : Within taken := fun packet listed => within packet (beginning.subset listed)
    have empty := (incomplete_within kept []).mp
    rw [List.append_nil] at empty
    exact empty
  by_cases zero : count = .finite 0
  · -- the list is complete as it stands, and the loop leaves the header out
    refine iff_of_false (fun law => ?_) (fun orderly => (orderly.1 count header).1 zero)
    have short : ¬Short count packets := fun short => Nat.not_lt_zero _ (short 0 (by simpa using zero))
    have whole : ¬Incomplete ((packet :: packets).take (packet :: packets).length) := by
      rw [List.take_length]
      simp only [Incomplete, header, Option.some.injEq, exists_eq_left', short, false_or]
      exact clean packets (List.prefix_refl _)
    have counted := law.largest _ le_rfl whole
    have fewer := controls_le packets
    rw [List.length_cons] at counted
    omega
  · have short (taken : List EioPacket) (beginning : taken <+: packets) : Short count taken := by
      rintro number rfl
      by_contra enough
      obtain ⟨rest, rfl⟩ := beginning
      have kept : Within taken := fun packet listed =>
        within packet (List.mem_append_left _ listed)
      have positive : 0 < number := by
        rcases Nat.eq_zero_or_pos number with rfl | positive
        · exact absurd (by simp) zero
        · exact positive
      refine unreachable number positive ?_ rfl
      rw [attachmentsAfter_append kept]
      omega
    have incomplete (other : Nat) (positive : 0 < other) :
        Incomplete ((packet :: packets).take other) := by
      obtain ⟨smaller, rfl⟩ := Nat.exists_eq_succ_of_ne_zero positive.ne'
      exact Or.inl ⟨count, header, short _ (List.take_prefix _ _)⟩
    have law : LargestSendable (packet :: packets) (controls packets) ↔ controls packets = 0 := by
      constructor
      · intro law
        by_contra some
        exact law.complete (incomplete _ (Nat.pos_of_ne_zero some))
      · intro none
        rw [none]
        refine ⟨Nat.zero_le _, id, fun other _ sendable => ?_⟩
        by_contra positive
        exact sendable (incomplete other (Nat.pos_of_ne_zero (by omega)))
    have orderly : Orderly (packet :: packets) ↔ ∀ later ∈ packets, later.type = .message := by
      simp only [Orderly, header, Option.some.injEq, forall_eq', ne_eq, zero, not_false_eq_true,
        true_and, inner, and_true]
      exact ⟨fun messages => messages (short packets (List.prefix_refl _)), fun all _ => all⟩
    rw [law, orderly, controls_eq_zero]

/-- A turn on an encoded packet at a boundary: the boundary moves, or a sequence opens. -/
theorem scanSioPacket_boundary {sioPacket : PartialSioPacket} {next : Scan}
    (boundary : scan.AtBoundary i) (taken : scanSioPacket i sioPacket scan = .ok next) :
    (sioPacket.type.withBinary = false ∧ next.AtBoundary (i + 1)) ∨
      (sioPacket.type.withBinary = true ∧ next = ⟨0, sioPacket.attachments, i,
        scan.lastSentPacketIdx, true⟩) := by
  have closed := boundary.closed
  have counted := boundary.counted
  have sendable := boundary.sendable
  cases binary : sioPacket.type.withBinary with
  | true =>
    refine Or.inr ⟨rfl, ?_⟩
    simpa [scanSioPacket, binary, closed, counted] using taken.symm
  | false =>
    refine Or.inl ⟨rfl, ?_⟩
    simp only [scanSioPacket, binary, closed, Bool.false_eq_true, if_false] at taken
    obtain rfl := Except.ok.inj taken
    refine ⟨?_, rfl, counted⟩
    push_cast
    omega

/-- From a boundary on, the number that a completed walk adds is that of the law exactly
when the packets are orderly.

The induction is on the number of packets, since a sequence is walked over as a whole. -/
theorem scan_boundary (boundary : scan.AtBoundary i)
    (walked : scanFrom i scan packets = .ok final) :
    ∃ number : Nat, final.lastSentPacketIdx + 1 = i + number ∧
      (LargestSendable packets number ↔ Orderly packets) := by
  induction length : packets.length using Nat.strong_induction_on
    generalizing i scan packets with
  | _ length inductionHypothesis =>
  subst length
  cases packets with
  | nil =>
    obtain rfl := Except.ok.inj walked
    refine ⟨0, by have sendable := boundary.sendable; omega, iff_of_true ⟨le_rfl, id, ?_⟩ trivial⟩
    intro other bounded _
    exact bounded
  | cons packet packets =>
    obtain ⟨next, turned, continued⟩ := scanFrom_cons walked
    -- a packet that is no header moves the boundary
    have onward (plain : announced packet = none) (moved : next.AtBoundary (i + 1)) :
        ∃ number : Nat, final.lastSentPacketIdx + 1 = i + number ∧
          (LargestSendable (packet :: packets) number ↔ Orderly (packet :: packets)) := by
      obtain ⟨number, counted, law⟩ :=
        inductionHypothesis packets.length (by simp) moved continued rfl
      refine ⟨1 + number, by push_cast at counted ⊢; omega, ?_⟩
      have largest : LargestSendable ([packet] ++ packets) ([packet].length + number) ↔
          LargestSendable packets number :=
        largest_append number (fun back' _ => by simp [Incomplete, plain])
      rw [List.singleton_append, List.length_singleton] at largest
      rw [largest, law]
      simp [Orderly, plain]
    by_cases message : packet.type = .message
    · cases binary : isMessageWithBinary packet with
      | true =>
        have refused : scanAttachment i scan = .ok next := by
          simpa [scanPacket, message, binary] using turned
        simp [scanAttachment, boundary.closed] at refused
      | false =>
        obtain ⟨sioPacket, decoded, taken⟩ := scanPacket_text message binary turned
        rcases scanSioPacket_boundary boundary taken with ⟨plain, moved⟩ | ⟨header, rfl⟩
        · exact onward (by simp [announced, message, binary, decoded, plain]) moved
        · have found : announced packet = some sioPacket.attachments := by
            simp [announced, message, binary, decoded, header]
          rcases scan_pending rfl continued with
            ⟨front, back, middle, rfl, within, some, reached, ended, rest⟩ |
            ⟨within, unreachable, last⟩
          · have shorter : back.length < (packet :: (front ++ back)).length := by
              rw [List.length_cons, List.length_append]
              omega
            obtain ⟨number, counted, law⟩ := inductionHypothesis back.length shorter ended rest rfl
            obtain ⟨largest, orderly⟩ := largest_sequence found within some
              (by simpa using reached)
            refine ⟨front.length + 1 + number, ?_, largest.trans (law.trans orderly.symm)⟩
            push_cast at counted ⊢
            omega
          · refine ⟨controls packets, ?_, largest_open found within ?_⟩
            · have sendable := boundary.sendable
              rw [last]
              dsimp only
              omega
            · simpa using unreachable
    · obtain ⟨other, same, moved⟩ := scan_control message boundary
      obtain rfl := Except.ok.inj (turned.symm.trans same)
      exact onward (announced_control message) moved

end Walk

/-- Whenever the loop does not throw, it gives the number of the law exactly when the packets
are orderly. -/
theorem packet_law_iff {packets : List EioPacket} {result : Int}
    (returned : getPacketNumberForNextSend true packets = .ok result) :
    (∃ number : Nat, result = number ∧ LargestSendable packets number) ↔ Orderly packets := by
  cases walked : scanFrom 0 Scan.initial packets with
  | error message => simp [getPacketNumberForNextSend, walked, bind, Except.bind] at returned
  | ok final =>
    have counted : final.lastSentPacketIdx + 1 = result := by
      simpa [getPacketNumberForNextSend, walked, bind, Except.bind, pure, Except.pure] using returned
    obtain ⟨number, reached, law⟩ := scan_boundary Scan.initial_atBoundary walked
    have same : result = number := by push_cast at reached; omega
    rw [← law]
    constructor
    · rintro ⟨other, named, largest⟩
      obtain rfl : other = number := by omega
      exact largest
    · exact fun largest => ⟨number, same, largest⟩

/-- An event, a binary event with a ping before its attachment, and one whose attachment is
still to come. -/
def pingedPackets : List EioPacket :=
  [textPacket "2[]".toList, textPacket "51-[]".toList, ⟨.ping, .absent⟩, attachment [0],
    textPacket "51-[]".toList]

theorem packet_law_pinged :
    (∃ number : Nat, (4 : Int) = number ∧ LargestSendable pingedPackets number) ↔
      Orderly pingedPackets :=
  packet_law_iff (by decide +kernel)

/-- With a ping after its header, a sequence is sent without its attachment. -/
theorem sequence_split :
    getPacketNumberForNextSend true [textPacket "51-[]".toList, ⟨.ping, .absent⟩] = .ok 1 ∧
      ¬LargestSendable [textPacket "51-[]".toList, ⟨.ping, .absent⟩] 1 := by
  refine ⟨by decide +kernel, fun largest => largest.complete (Or.inl ⟨.finite 1, ?_, ?_⟩)⟩
  · decide +kernel
  · intro number one
    cases one
    simp [attachmentsAfter]

end WebPubSub.Transport
