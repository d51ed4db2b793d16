import WebPubSub.Adapter.MembershipIdentities

/-!
# Sockets that have left

A disconnect takes its socket out of the namespace at once and queues a `delAll`
behind the operations that were called before. None of them can record the socket
any more, since `addAll` looks its connection up right before it would; and once the
`delAll` has run, the in-memory adapter has forgotten the socket for good. This
holds in every run, with bulk operations and further joins of the socket included.
-/

namespace WebPubSub.Adapter.Membership

/-- The update of one operation records no socket whose connection is gone. -/
theorem mem_sids_update {call : Call} {ok connected : Bool} {memory : InMemory} {id : Text}
    (inside : id ∈ (call.update super ok connected memory).sids)
    (gone : call.socket = some id → connected = false) : id ∈ memory.sids := by
  cases call with
  | addAll other rooms =>
    simp only [Call.update] at inside
    split at inside
    · rcases (super.mem_sids_addAll memory other rooms id).mp inside with rfl | before
      · have absent := gone rfl
        simp_all
      · exact before
    · exact inside
  | del other room =>
    simp only [Call.update] at inside
    split at inside
    · exact (super.mem_sids_del memory other room id).mp inside
    · exact inside
  | delAll other =>
    rw [Call.update, super.sids_delAll, AList.mem_erase] at inside
    exact inside.2
  | addSockets opts rooms => exact inside
  | delSockets opts rooms => exact inside

/-- A `delAll` of the socket that has not ended. -/
def Leaving (id : Text) (operations : List Operation) : Prop :=
  ∃ (number : Nat) (operation : Operation), operations[number]? = some operation ∧
    operation.call = .delAll id ∧ operation.phase.isFinished = false

namespace Leaving

variable {id : Text} {operations : List Operation}

theorem append (leaving : Leaving id operations) (more : List Operation) :
    Leaving id (operations ++ more) := by
  obtain ⟨number, operation, found, call, unfinished⟩ := leaving
  exact ⟨number, operation, Ledger.getElem?_append_of_some found more, call, unfinished⟩

/-- An operation that moves on without ending, or another one, leaves it so. -/
theorem set (leaving : Leaving id operations) {number : Nat} {old : Operation}
    (found : operations[number]? = some old) (entry : Operation) (same : entry.call = old.call)
    (continues : old.call = .delAll id → entry.phase.isFinished = false) :
    Leaving id (operations.set number entry) := by
  obtain ⟨position, operation, located, call, unfinished⟩ := leaving
  by_cases here : number = position
  · subst here
    obtain rfl : old = operation := Option.some.inj (found.symm.trans located)
    refine ⟨number, entry, ?_, same.trans call, continues call⟩
    rw [List.getElem?_set, if_pos rfl, if_pos (List.getElem?_eq_some_iff.mp found).1]
  · refine ⟨position, operation, ?_, call, unfinished⟩
    rw [List.getElem?_set, if_neg here]
    exact located

end Leaving

variable {super : InMemoryAdapter} {base64url : Base64Url} {nsp : Text}
  {getSingleEioEncodedPayload : SioPacket Unit → Option Text} {kept : List Text}

/-- A socket that has left is being forgotten or is forgotten. -/
def Departed (state : State) : Prop :=
  ∀ id, id ∈ state.known → id ∉ state.sockets →
    Leaving id state.operations ∨ id ∉ state.memory.sids

theorem departed_initial : Departed State.initial := by
  intro id known
  simp [State.initial] at known

theorem Departed.step {state next : State} {event : Event} {outputs : List Output}
    (departed : Departed state)
    (stepped : Step super base64url nsp getSingleEioEncodedPayload kept state event next outputs) :
    Departed next := by
  intro id known left
  cases stepped with
  | connect other eioSid newId single =>
    rw [AList.mem_insert, not_or] at left
    exact departed id ((AList.mem_insert _).mp known |>.resolve_left left.1) left.2
  | callSocket call other own =>
    rw [State.known_enter] at known
    rw [State.sockets_enter] at left
    rw [State.operations_enter, State.memory_enter]
    exact (departed id known left).imp_left (fun leaving => leaving.append _)
  | callBulk call request bulk asked =>
    rw [State.known_enter] at known
    rw [State.sockets_enter] at left
    rw [State.operations_enter, State.memory_enter]
    exact (departed id known left).imp_left (fun leaving => leaving.append _)
  | disconnect other present =>
    have before : id ∈ state.known := by simpa using known
    have entered : Leaving id (state.enter (.delAll other) .waiting).operations ∨
        id ∉ (state.enter (.delAll other) .waiting).memory.sids := by
      rw [State.operations_enter, State.memory_enter]
      by_cases own : id = other
      · subst own
        exact Or.inl ⟨state.operations.length, _, List.getElem?_concat_length, rfl, rfl⟩
      · have absent : id ∉ state.sockets := by simpa [own] using left
        exact (departed id before absent).imp_left (fun leaving => leaving.append _)
    exact entered
  | lockedAsks number operation other request found own waited turn asked =>
    refine (departed id known left).imp_left (fun leaving => leaving.set found _ ?_ ?_)
    · rfl
    · exact fun _ => rfl
  | lockedSilent number operation other found leaving waited turn =>
    refine (departed id known left).imp_left (fun leaving => leaving.set found _ ?_ ?_)
    · rfl
    · exact fun _ => rfl
  | lockedThrows number operation other found own waited turn staying unfound =>
    rw [State.known_finish] at known
    rw [State.sockets_finish] at left
    rw [State.operations_finish, State.memory_finish]
    refine (departed id known left).imp_left (fun leaving => leaving.set found _ ?_ ?_)
    · rfl
    · exact fun call => absurd call (staying id)
  | answered number ok operation request found called service effect =>
    refine (departed id known left).imp_left (fun leaving => leaving.set found _ ?_ ?_)
    · rfl
    · exact fun _ => rfl
  | resumed number ok operation found answer =>
    rw [State.known_enterAll, State.known_finish] at known
    rw [State.sockets_enterAll, State.sockets_finish] at left
    rw [State.operations_enterAll, State.operations_finish, State.memory_enterAll,
      State.memory_finish]
    by_cases leaving : operation.call = .delAll id
    · apply Or.inr
      rw [leaving, Call.update, super.sids_delAll]
      simp
    · apply (departed id known left).imp
      · intro pending
        apply Leaving.append
        apply pending.set found
        · rfl
        · exact fun call => absurd call leaving
      · intro unknown inside
        apply unknown
        apply mem_sids_update inside
        intro own
        simp [State.connected, own, left]

/-- In every reachable state, a socket that has left and whose operations have all
ended is recorded nowhere. -/
theorem forgotten {state : State}
    (reached : (machine super base64url nsp getSingleEioEncodedPayload kept).Reachable
      State.initial state) {id : Text} (known : id ∈ state.known) (left : id ∉ state.sockets)
    (settled : ∀ operation ∈ state.operations, operation.call.socket = some id →
      operation.phase.isFinished = true) :
    id ∉ state.memory.sids ∧ ∀ room sockets, state.memory.rooms.lookup room = some sockets →
      id ∉ sockets := by
  have invariant : Departed state ∧ state.memory.Consistent :=
    Machine.invariant_reachable _ (fun state => Departed state ∧ state.memory.Consistent)
      (fun _ _ _ _ held stepped =>
        have made := step_inv super base64url nsp getSingleEioEncodedPayload kept stepped
        ⟨held.1.step made, consistent_step kept held.2 made⟩)
      ⟨departed_initial, InMemory.consistent_empty⟩ reached
  obtain ⟨departed, consistent⟩ := invariant
  have unknown : id ∉ state.memory.sids := by
    rcases departed id known left with ⟨number, operation, found, call, unfinished⟩ | unknown
    · have ended := settled operation (List.mem_of_getElem? found) (by rw [call]; rfl)
      rw [unfinished] at ended
      contradiction
    · exact unknown
  exact ⟨unknown, fun room sockets found => InMemory.unmentioned consistent unknown found⟩

end WebPubSub.Adapter.Membership
