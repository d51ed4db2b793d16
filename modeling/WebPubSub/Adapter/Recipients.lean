import WebPubSub.Adapter.Filter

/-!
# Service calls of the adapter's bulk operations

`broadcast`, `broadcastWithAck`, `addSockets` and `delSockets` each make one
service call. A broadcast to a single room is sent to that room's group with a
filter for the exceptions only; every other call goes to the whole hub with the
filter of `_buildODataFilter`. The text given to the service decides the
recipients, and an empty filter is left out of the request, so it selects all.

With several rooms and some exceptions the intended rule and the filter part: the
denials are attached to the last room, since `and` binds tighter than `or`. The
exact condition for agreement is proved for every connection.
-/

namespace WebPubSub.Adapter

/-- A Socket.IO packet; its data is opaque to the adapter. -/
structure SioPacket (Data : Type) where
  type : SioPacketType
  nsp : Text
  data : Data

/-- The calls of `WebPubSubServiceCaller` that address a set of connections. -/
inductive ServiceCall where
  | groupSendToAll (group message filter contentType : Text)
  | sendToAll (message filter contentType : Text)
  | invoke (message filter contentType : Text)
  | addConnectionsToGroups (groups : List Text) (filter : Text)
  | removeConnectionsFromGroups (groups : List Text) (filter : Text)
deriving DecidableEq

/-- The filter a call carries. -/
def ServiceCall.filter : ServiceCall → Text
  | .groupSendToAll _ _ filter _ => filter
  | .sendToAll _ filter _ => filter
  | .invoke _ filter _ => filter
  | .addConnectionsToGroups _ filter => filter
  | .removeConnectionsFromGroups _ filter => filter

/-- The connections a call concerns. A call to a group starts from its members. -/
def ServiceCall.Reaches (groups : Set Text) : ServiceCall → Prop
  | .groupSendToAll group _ filter _ =>
      group ∈ groups ∧ (filter = [] ∨ Filter.Selects filter groups)
  | call => call.filter = [] ∨ Filter.Selects call.filter groups

section Operations

variable {Data : Type} (base64url : Base64Url) (nsp : Text)
  (getSingleEioEncodedPayload : SioPacket Data → Option Text)

/-- `broadcast`. A packet the encoder rejects is logged and not sent. -/
def broadcast (packet : SioPacket Data) (opts : BroadcastOptions) : Option ServiceCall := do
  let encodedPayload ← getSingleEioEncodedPayload { packet with nsp := nsp }
  if opts.rooms.size = 1 then
    let oDataFilter := buildODataFilterForExceptsOnly base64url nsp opts.except
    let encodedGroupName := getGroupName base64url nsp opts.rooms.rooms.head?
    pure (.groupSendToAll encodedGroupName encodedPayload oDataFilter "text/plain".toList)
  else
    let oDataFilter := buildODataFilter base64url nsp opts.rooms opts.except
    pure (.sendToAll encodedPayload oDataFilter "text/plain".toList)

/-- `broadcastWithAck`, up to its service call. -/
def broadcastWithAck (packet : SioPacket Data) (opts : BroadcastOptions) : Option ServiceCall := do
  let encodedPayload ← getSingleEioEncodedPayload { packet with nsp := nsp }
  let oDataFilter := buildODataFilter base64url nsp opts.rooms opts.except
  pure (.invoke encodedPayload oDataFilter "text/plain".toList)

/-- `addSockets`, up to its service call. -/
def addSockets (opts : BroadcastOptions) (rooms : List Text) : ServiceCall :=
  let oDataFilter := buildODataFilter base64url nsp opts.rooms opts.except
  let groupNames := rooms.map (fun room => getGroupName base64url nsp (some room))
  .addConnectionsToGroups groupNames oDataFilter

/-- `delSockets`, up to its service call. -/
def delSockets (opts : BroadcastOptions) (rooms : List Text) : ServiceCall :=
  let oDataFilter := buildODataFilter base64url nsp opts.rooms opts.except
  let groupNames := rooms.map (fun room => getGroupName base64url nsp (some room))
  .removeConnectionsFromGroups groupNames oDataFilter

/-- The operations on many connections, with their own arguments. -/
inductive BulkOperation (Data : Type) where
  | broadcast (packet : SioPacket Data)
  | broadcastWithAck (packet : SioPacket Data)
  | addSockets (rooms : List Text)
  | delSockets (rooms : List Text)

/-- The call an operation makes, if its packet can be encoded. -/
def BulkOperation.call (opts : BroadcastOptions) : BulkOperation Data → Option ServiceCall
  | .broadcast packet => Adapter.broadcast base64url nsp getSingleEioEncodedPayload packet opts
  | .broadcastWithAck packet =>
      Adapter.broadcastWithAck base64url nsp getSingleEioEncodedPayload packet opts
  | .addSockets rooms => some (Adapter.addSockets base64url nsp opts rooms)
  | .delSockets rooms => some (Adapter.delSockets base64url nsp opts rooms)

/-- A broadcast to exactly one room takes the path through that room's group. -/
def BulkOperation.SingleRoom (opts : BroadcastOptions) : BulkOperation Data → Prop
  | .broadcast _ => opts.rooms.size = 1
  | _ => False

/-- A built filter always names at least one group. -/
theorem buildODataFilter_ne_nil (rooms : RoomSet) (excepts : Option RoomSet) :
    buildODataFilter base64url nsp rooms excepts ≠ [] := by
  obtain ⟨first, rest, shape⟩ := List.exists_cons_of_ne_nil (requested_ne_nil rooms)
  rw [buildODataFilter_eq, shape, List.map_cons, intercalate_flatMap]
  simp [allowPiece]

/-- Off the single-room path every operation is addressed by the built filter. -/
theorem bulk_reaches_iff (operation : BulkOperation Data) (opts : BroadcastOptions)
    (call : ServiceCall) (general : ¬ operation.SingleRoom opts)
    (called : operation.call base64url nsp getSingleEioEncodedPayload opts = some call)
    (groups : Set Text) :
    call.Reaches groups ↔
      Filter.Selects (buildODataFilter base64url nsp opts.rooms opts.except) groups := by
  have nonempty := buildODataFilter_ne_nil base64url nsp opts.rooms opts.except
  cases operation with
  | broadcast packet =>
    have several : opts.rooms.size ≠ 1 := general
    simp only [BulkOperation.call, Adapter.broadcast, several, if_false, Option.bind_eq_bind,
      Option.bind_eq_some_iff, Option.pure_def, Option.some.injEq] at called
    obtain ⟨_, _, rfl⟩ := called
    simp [ServiceCall.Reaches, ServiceCall.filter, nonempty]
  | broadcastWithAck packet =>
    simp only [BulkOperation.call, Adapter.broadcastWithAck, Option.bind_eq_bind,
      Option.bind_eq_some_iff, Option.pure_def, Option.some.injEq] at called
    obtain ⟨_, _, rfl⟩ := called
    simp [ServiceCall.Reaches, ServiceCall.filter, nonempty]
  | addSockets rooms =>
    obtain rfl := Option.some.inj called
    simp [ServiceCall.Reaches, ServiceCall.filter, Adapter.addSockets, nonempty]
  | delSockets rooms =>
    obtain rfl := Option.some.inj called
    simp [ServiceCall.Reaches, ServiceCall.filter, Adapter.delSockets, nonempty]

/-- The recipient rule at one connection: the built filter selects it exactly when
it is an intended recipient, and every operation off the single-room path reaches
it exactly when the filter does. -/
def FollowsRecipientRule (opts : BroadcastOptions) (groups : Set Text) : Prop :=
  (Filter.Selects (buildODataFilter base64url nsp opts.rooms opts.except) groups ↔
      Recipient base64url nsp opts.rooms opts.except groups) ∧
    ∀ (operation : BulkOperation Data) (call : ServiceCall), ¬ operation.SingleRoom opts →
      operation.call base64url nsp getSingleEioEncodedPayload opts = some call →
      (call.Reaches groups ↔
        Filter.Selects (buildODataFilter base64url nsp opts.rooms opts.except) groups)

/-- The built filter and the intended rule agree at a connection exactly when the
connection is in none of the excepted rooms, or in none of the requested rooms
before the last one.

Outside all excepted rooms both sides ask for some requested room. In an excepted
room nobody should be reached, and the filter still reaches the connections of
the rooms before the last, which no denial restricts. -/
theorem selects_iff_recipient (opts : BroadcastOptions) (groups : Set Text) :
    (Filter.Selects (buildODataFilter base64url nsp opts.rooms opts.except) groups ↔
        Recipient base64url nsp opts.rooms opts.except groups) ↔
      (∀ except ∈ excepted opts.except, ¬ InRoom base64url nsp groups except) ∨
        ∀ room ∈ (requested opts.rooms).dropLast, ¬ InRoom base64url nsp groups room := by
  have someRoom : (∃ room ∈ requested opts.rooms, InRoom base64url nsp groups room) ↔
      (∃ room ∈ (requested opts.rooms).dropLast, InRoom base64url nsp groups room) ∨
        InRoom base64url nsp groups
          ((requested opts.rooms).getLast (requested_ne_nil opts.rooms)) := by
    conv_lhs => rw [← List.dropLast_append_getLast (requested_ne_nil opts.rooms)]
    simp [or_and_right, exists_or]
  rw [selects_buildODataFilter, recipient_requested, someRoom]
  generalize InRoom base64url nsp groups
    ((requested opts.rooms).getLast (requested_ne_nil opts.rooms)) = inLast
  by_cases denied : ∀ except ∈ excepted opts.except, ¬ InRoom base64url nsp groups except
  · exact ⟨fun _ => Or.inl denied, fun _ => by rw [and_iff_left denied, and_iff_left denied]⟩
  · constructor
    · intro agree
      refine Or.inr fun room member inside => denied ?_
      exact (agree.mp (Or.inl ⟨room, member, inside⟩)).2
    · rintro (outside | unreached)
      · exact absurd outside denied
      · constructor
        · rintro (⟨room, member, inside⟩ | ⟨-, outside⟩)
          · exact absurd inside (unreached room member)
          · exact absurd outside denied
        · exact fun reached => absurd reached.2 denied

/-- The recipient rule holds at a connection exactly when the connection is in
none of the excepted rooms, or in none of the requested rooms before the last. -/
theorem recipient_rule_iff (opts : BroadcastOptions) (groups : Set Text) :
    FollowsRecipientRule base64url nsp getSingleEioEncodedPayload opts groups ↔
      (∀ except ∈ excepted opts.except, ¬ InRoom base64url nsp groups except) ∨
        ∀ room ∈ (requested opts.rooms).dropLast, ¬ InRoom base64url nsp groups room := by
  refine (and_iff_left ?_).trans (selects_iff_recipient base64url nsp opts groups)
  intro operation call general called
  exact bulk_reaches_iff base64url nsp getSingleEioEncodedPayload operation opts call general
    called groups

end Operations

/-- A broadcast to rooms `a` and `b` except `c` reaches the members of `a` that
are also in `c`. -/
theorem excepted_member_reached :
    ¬ @FollowsRecipientRule Unit Base64Url.utf8 "/".toList (fun _ => some [])
      { rooms := ⟨["a".toList, "b".toList], by decide⟩, except := some ⟨["c".toList], by decide⟩ }
      {getGroupName Base64Url.utf8 "/".toList (some "a".toList),
        getGroupName Base64Url.utf8 "/".toList (some "c".toList)} := by
  rintro ⟨agree, -⟩
  have outside := (agree.mp ?_).2 "c".toList (by simp [excepted])
  · exact outside (Or.inr rfl)
  · rw [selects_buildODataFilter]
    exact Or.inl ⟨"a".toList, by simp [requested, RoomSet.size], Or.inl rfl⟩

end WebPubSub.Adapter
