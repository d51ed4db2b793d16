import WebPubSub.Adapter.FastPath
import WebPubSub.Service.Requests

/-!
# From an operation of the adapter to the connections it reaches

A bulk operation of the adapter makes a service call, the caller makes an HTTP request of it,
`invokeAsync` a message of the tunnel, and the message protocol bytes. What is read from these
bytes is the call with its payload, its groups and its filter, so that the operation reaches the
connections that its filter selects: those of the recipient rule, except for the excepted members
of a requested room that is not the last.

A message is read while its encoding is shorter than 2^31 bytes.
-/

namespace WebPubSub.Service

open Adapter
open Tunnel (Packing TunnelMessage TunnelHttpRequestMessage)
open MsgPack (Bytes)

section Wire

variable (packing : Packing) (hosts : Url.HostParser)

/-- The bytes that a call is sent as. -/
def wire (hub : Text) (ackId : Json.Numeral) (call : Call) : Option Bytes :=
  (call.request hosts hub).bind (fun keyed =>
    Tunnel.getBytes packing ⟨none, .httpRequest (invokeMessage ackId keyed.request)⟩)

/-- The call that bytes mean, and the hub it is made to. -/
def readWire (bytes : Bytes) : Option (Text × Call) :=
  (Tunnel.readBytes packing bytes).bind (fun message =>
    match message.kind with
    | .httpRequest request => readCall hosts request
    | _ => none)

end Wire

section Reading

variable {packing : Packing} {hosts : Url.HostParser}

/-- No header of a request is named as the property that the text leaves out. -/
theorem stripped_invokeMessage (ackId : Json.Numeral) (request : HttpRequestLike) :
    Tunnel.stripped ⟨none, .httpRequest (invokeMessage ackId request)⟩ =
      ⟨none, .httpRequest (invokeMessage ackId request)⟩ := by
  apply (Tunnel.stripped_eq_iff _).mpr
  intro headers listed
  obtain rfl := Option.some.inj listed
  unfold headersOf
  split
  · simp [Tunnel.Headers.names]
  · simp [Tunnel.Headers.names]

/-- What is sent of a call is read as the call. -/
theorem readWire_wire (placeholder : Placeholder hosts) {hub : Text} (hubName : Url.Name hub)
    {call : Call} (named : ∀ name ∈ call.names, Url.Name name) {ackId : Json.Numeral}
    {bytes : Bytes} (sent : wire packing hosts hub ackId call = some bytes)
    (short : bytes.length < 2147483652) : readWire packing hosts bytes = some (hub, call.sent) := by
  obtain ⟨keyed, made, written⟩ := Option.bind_eq_some_iff.mp sent
  obtain ⟨encoded, packed, rfl⟩ := Option.map_eq_some_iff.mp written
  have length : (Tunnel.setUint32 encoded.length).length = 4 := rfl
  rw [List.length_append, length] at short
  have read : readCall hosts (invokeMessage ackId keyed.request) = some (hub, call.sent) := by
    have whole := readCall_request placeholder hubName call named ackId
    rwa [made, Option.bind_some] at whole
  rw [readWire, Tunnel.readBytes_short packing packed (by omega), stripped_invokeMessage,
    Option.bind_some]
  exact read

end Reading

section Bulk

variable (base64url : Base64Url) (nsp : Text) {Data : Type}
  (getSingleEioEncodedPayload : SioPacket Data → Option Text)

/-- The name of a group stands in a path as it is. -/
theorem name_getGroupName (room : Option Text) : Url.Name (getGroupName base64url nsp room) := by
  have started : ∃ rest, getGroupName base64url nsp room = '0' :: '~' :: rest := by
    cases room with
    | none => exact ⟨_, rfl⟩
    | some room =>
      rw [getGroupName]
      split
      · exact ⟨_, rfl⟩
      · exact ⟨_, rfl⟩
  have chars : ∀ char ∈ Url.lossy, char ∉ getGroupName base64url nsp room := by
    intro char foreign
    have outside : Url.lossy.all (fun char => decide (¬(char.isAlphanum = true ∨ char = '-' ∨
        char = '_') ∧ char ≠ '0' ∧ char ≠ '~')) = true := rfl
    obtain ⟨unsafeChar, zero, tilde⟩ := of_decide_eq_true (List.all_eq_true.mp outside char foreign)
    have absent := base64url.not_mem_encode unsafeChar
    cases room with
    | none => simp [getGroupName, absent, zero, tilde]
    | some room =>
      rw [getGroupName]
      split <;> simp [absent, zero, tilde]
  obtain ⟨rest, shape⟩ := started
  constructor
  · intro char listed foreign
    exact chars char foreign listed
  · rw [shape]
    simp
  · rw [shape]
    simp

/-- The calls of the adapter ask for the content type that is sent. -/
theorem sent_call {operation : BulkOperation Data} {opts : BroadcastOptions} {call : ServiceCall}
    (called : operation.call base64url nsp getSingleEioEncodedPayload opts = some call) :
    (Call.addressed call).sent = .addressed call ∧
      ∀ name ∈ (Call.addressed call).names, Url.Name name := by
  cases operation with
  | broadcast packet =>
    simp only [BulkOperation.call, Adapter.broadcast, Option.bind_eq_bind,
      Option.bind_eq_some_iff] at called
    obtain ⟨payload, -, called⟩ := called
    split at called
    · obtain rfl := Option.some.inj called
      refine ⟨rfl, ?_⟩
      intro name listed
      rw [List.mem_singleton.mp listed]
      exact name_getGroupName base64url nsp _
    · obtain rfl := Option.some.inj called
      exact ⟨rfl, fun _ listed => by cases listed⟩
  | broadcastWithAck packet =>
    simp only [BulkOperation.call, Adapter.broadcastWithAck, Option.bind_eq_bind,
      Option.bind_eq_some_iff] at called
    obtain ⟨payload, -, called⟩ := called
    obtain rfl := Option.some.inj called
    exact ⟨rfl, fun _ listed => by cases listed⟩
  | addSockets rooms =>
    obtain rfl := Option.some.inj called
    exact ⟨rfl, fun _ listed => by cases listed⟩
  | delSockets rooms =>
    obtain rfl := Option.some.inj called
    exact ⟨rfl, fun _ listed => by cases listed⟩

/-- A single room has no room before it, and its members outside the excepted rooms are the
recipients. -/
theorem reaches_iff {operation : BulkOperation Data} {opts : BroadcastOptions} {call : ServiceCall}
    (called : operation.call base64url nsp getSingleEioEncodedPayload opts = some call)
    (groups : Set Text) :
    (call.Reaches groups ↔ Recipient base64url nsp opts.rooms opts.except groups) ↔
      (∀ except ∈ excepted opts.except, ¬ InRoom base64url nsp groups except) ∨
        ∀ room ∈ (requested opts.rooms).dropLast, ¬ InRoom base64url nsp groups room := by
  by_cases single : operation.SingleRoom opts
  · cases operation with
    | broadcast packet =>
      have size : opts.rooms.size = 1 := single
      obtain ⟨room, rooms⟩ : ∃ room, opts.rooms.rooms = [room] := List.length_eq_one_iff.mp size
      simp only [BulkOperation.call, Adapter.broadcast, size, if_true, Option.bind_eq_bind,
        Option.bind_eq_some_iff, Option.pure_def, Option.some.injEq] at called
      obtain ⟨payload, -, rfl⟩ := called
      have alone : (requested opts.rooms).dropLast = [] := by
        simp [requested, size, rooms]
      have reached : (ServiceCall.groupSendToAll
          (getGroupName base64url nsp opts.rooms.rooms.head?) payload
          (buildODataFilterForExceptsOnly base64url nsp opts.except) "text/plain".toList).Reaches
            groups ↔ Recipient base64url nsp opts.rooms opts.except groups := by
        rw [ServiceCall.Reaches, exceptsOnly_admits, Recipient, rooms]
        simp [InRoom]
      rw [alone]
      simp only [List.not_mem_nil, false_implies, implies_true, or_true, iff_true]
      exact reached
    | _ => exact single.elim
  · rw [bulk_reaches_iff base64url nsp getSingleEioEncodedPayload operation opts call single called]
    exact selects_iff_recipient base64url nsp opts groups

/-- The bytes of a bulk operation mean its call, and it reaches a connection as the recipient rule
has it exactly when the connection is in no excepted room, or in no requested room before the
last. -/
theorem delivery_iff {hosts : Url.HostParser} (placeholder : Placeholder hosts) {hub : Text}
    (hubName : Url.Name hub) {packing : Packing} {operation : BulkOperation Data}
    {opts : BroadcastOptions} {call : ServiceCall}
    (called : operation.call base64url nsp getSingleEioEncodedPayload opts = some call)
    {ackId : Json.Numeral} {bytes : Bytes}
    (sent : wire packing hosts hub ackId (.addressed call) = some bytes)
    (short : bytes.length < 2147483652) :
    readWire packing hosts bytes = some (hub, .addressed call) ∧
      ∀ groups, (call.Reaches groups ↔ Recipient base64url nsp opts.rooms opts.except groups) ↔
        (∀ except ∈ excepted opts.except, ¬ InRoom base64url nsp groups except) ∨
          ∀ room ∈ (requested opts.rooms).dropLast, ¬ InRoom base64url nsp groups room := by
  obtain ⟨same, named⟩ := sent_call base64url nsp getSingleEioEncodedPayload called
  have read := readWire_wire placeholder hubName named sent short
  rw [same] at read
  exact ⟨read, reaches_iff base64url nsp getSingleEioEncodedPayload called⟩

end Bulk

theorem distinctRooms : [['a'], ['b']].Nodup := by decide

/-- A broadcast to the rooms `a` and `b`, not to the members of `c`. -/
def sampleOptions : BroadcastOptions :=
  ⟨⟨[['a'], ['b']], distinctRooms⟩, some (RoomSet.single ['c'])⟩

def sampleCall : ServiceCall :=
  .sendToAll "42".toList (buildODataFilter Base64Url.utf8 ['/'] sampleOptions.rooms
    sampleOptions.except) "text/plain".toList

def sampleWire : Bytes :=
  (wire .msgPack (fun _ host => some host) "chat".toList ⟨['1'], rfl⟩
    (.addressed sampleCall)).getD []

/-- The broadcast means its call, and reaches a member of `a` and `c` in spite of the rule. -/
theorem delivery_iff_sample :
    readWire .msgPack (fun _ host => some host) sampleWire =
        some ("chat".toList, .addressed sampleCall) ∧
      ∀ groups, (sampleCall.Reaches groups ↔
          Recipient Base64Url.utf8 ['/'] sampleOptions.rooms sampleOptions.except groups) ↔
        (∀ except ∈ excepted sampleOptions.except, ¬ InRoom Base64Url.utf8 ['/'] groups except) ∨
          ∀ room ∈ (requested sampleOptions.rooms).dropLast,
            ¬ InRoom Base64Url.utf8 ['/'] groups room :=
  @delivery_iff Base64Url.utf8 ['/'] Unit (fun _ => some "42".toList) (fun _ host => some host) rfl
    _ (by decide) .msgPack (.broadcast ⟨.event, ['/'], ()⟩) _ _ rfl ⟨['1'], rfl⟩ _
    (by decide +kernel) (by decide +kernel)

end WebPubSub.Service
