import WebPubSub.Adapter.Recipients

/-!
# The broadcast to a single room

A broadcast to one room goes to the group of the room, with a filter for the exceptions
alone, which is empty without any. It reaches the connections that the general path would
reach, a send to the whole hub with the filter of `_buildODataFilter`: with a single room
the denials are attached to that room, so that no precedence comes between.
-/

namespace WebPubSub.Adapter

section FastPath

variable (base64url : Base64Url) (nsp : Text)

/-- The filter for the exceptions is a printed conjunction of denials. -/
theorem exceptsOnly_render {excepts : RoomSet} {first : Text} {rest : List Text}
    (visited : excepts.rooms = first :: rest) :
    buildODataFilterForExceptsOnly base64url nsp (some excepts) =
      (deny base64url nsp (.not (roomTest base64url nsp first)) rest).render 0 := by
  rw [render_deny_loose base64url nsp _ rfl, render_deny, render_denial]
  simp only [buildODataFilterForExceptsOnly]
  rw [joinLoop_eq, visited, List.map_cons, intercalate_flatMap, List.flatMap_map]

/-- Nobody outside the excepted rooms is kept out, and nobody inside is let in. -/
theorem exceptsOnly_admits (excepts : Option RoomSet) (groups : Set Text) :
    (buildODataFilterForExceptsOnly base64url nsp excepts = [] ∨
        Filter.Selects (buildODataFilterForExceptsOnly base64url nsp excepts) groups) ↔
      ∀ except ∈ excepted excepts, ¬ InRoom base64url nsp groups except := by
  cases visited : excepted excepts with
  | nil =>
    have empty : buildODataFilterForExceptsOnly base64url nsp excepts = [] := by
      cases excepts with
      | none => rfl
      | some excepts =>
        have none : excepts.rooms = [] := visited
        simp only [buildODataFilterForExceptsOnly]
        rw [joinLoop_eq, none]
        rfl
    simp [empty]
  | cons first rest =>
    obtain ⟨excepts, rfl⟩ : ∃ set, excepts = some set := by
      cases excepts with
      | none => cases visited
      | some set => exact ⟨set, rfl⟩
    have text : buildODataFilterForExceptsOnly base64url nsp (some excepts) =
        (deny base64url nsp (.not (roomTest base64url nsp first)) rest).render 0 :=
      exceptsOnly_render base64url nsp visited
    have written : buildODataFilterForExceptsOnly base64url nsp (some excepts) ≠ [] := by
      rw [text, render_deny_loose base64url nsp _ rfl, render_deny, render_denial]
      delta denyPiece
      simp
    rw [or_iff_right written, text, Filter.selects_render, holds_deny, List.forall_mem_cons]
    rfl

variable {Data : Type} (getSingleEioEncodedPayload : SioPacket Data → Option Text)

/-- A broadcast to a single room reaches the same connections of every population as a send
to all with the filter of the room and the exceptions. -/
theorem fast_path_agrees (packet : SioPacket Data) (room : Text) (except : Option RoomSet)
    {fast : ServiceCall}
    (called : broadcast base64url nsp getSingleEioEncodedPayload packet
      ⟨RoomSet.single room, except⟩ = some fast)
    {Connection : Type} (groups : Connection → Set Text) (message contentType : Text) :
    {connection | fast.Reaches (groups connection)} =
      {connection | (ServiceCall.sendToAll message
        (buildODataFilter base64url nsp (RoomSet.single room) except) contentType).Reaches
          (groups connection)} := by
  simp only [broadcast, Option.bind_eq_bind, Option.bind_eq_some_iff] at called
  obtain ⟨payload, -, sent⟩ := called
  rw [if_pos (by rfl)] at sent
  obtain rfl := Option.some.inj sent
  ext connection
  simp only [Set.mem_ofPred_eq, ServiceCall.Reaches, ServiceCall.filter]
  rw [exceptsOnly_admits, or_iff_right (buildODataFilter_ne_nil base64url nsp _ _),
    selects_buildODataFilter]
  simp [requested, RoomSet.size, RoomSet.single, InRoom]

end FastPath

/-- Two members of room `a`, one of whom is also in an excepted room. -/
def membersOfA (excepted : Bool) : Set Text :=
  if excepted then
    {getGroupName Base64Url.utf8 ['/'] (some ['a']),
      getGroupName Base64Url.utf8 ['/'] (some "it's".toList)}
  else {getGroupName Base64Url.utf8 ['/'] (some ['a'])}

theorem fast_path_agrees_excepts :
    {connection | (ServiceCall.groupSendToAll
        (getGroupName Base64Url.utf8 ['/'] (some ['a'])) "42".toList
        (buildODataFilterForExceptsOnly Base64Url.utf8 ['/']
          (some ⟨[['b'], "it's".toList], by decide⟩)) "text/plain".toList).Reaches
          (membersOfA connection)} =
      {connection | (ServiceCall.sendToAll "42".toList
        (buildODataFilter Base64Url.utf8 ['/'] (RoomSet.single ['a'])
          (some ⟨[['b'], "it's".toList], by decide⟩)) "text/plain".toList).Reaches
          (membersOfA connection)} :=
  fast_path_agrees Base64Url.utf8 ['/'] (fun _ : SioPacket Unit => some "42".toList)
    ⟨.event, ['/'], ()⟩ ['a'] (some ⟨[['b'], "it's".toList], by decide⟩) rfl membersOfA _ _

end WebPubSub.Adapter
