import WebPubSub.Sync.Protocol

/-!
# What one client and the host have of each other

The view of one client holds its socket, the document of the host and the messages on the
two sides of the host. Three stages lead a connected client to agreement: its Init is still
on the socket, the Init stands with the host, or both parties were told of each other's
documents. In the last stage the host has, or has coming, all that the client has, unless a
step 1 still asks the client for it; and the client has, or has coming, all that the host has.

Whatever a party says, it has; so a known document in a step 1 only grows out of date in one
direction, and the answer to it covers the rest.
-/

namespace WebPubSub.Sync

open UpdateDoc

variable {Doc : Type}

/-- One client, and the host with what is in flight on its side. -/
structure View (Doc : Type) where
  client : Client Doc
  host : Doc
  hostInbox : List (ControlMessage Doc)
  hostOutbox : List (HostMessage Doc)

def State.view (state : State Doc) (index : Nat) : View Doc :=
  ⟨state.clients index, state.host, state.hostInbox, state.hostOutbox⟩

/-- What is on its way to the client, whoever it is for. -/
def View.coming (view : View Doc) : List (HostMessage Doc) :=
  view.client.inbox ++ view.hostOutbox

section Payloads

variable [UpdateDoc Doc]

/-- The updates a message carries. -/
def SyncMessage.content : SyncMessage Doc → Doc
  | .step1 _ => ⊥
  | .step2 told => told
  | .update told => told

/-- What the sender of a message has. -/
def SyncMessage.payload : SyncMessage Doc → Doc
  | .step1 known => known
  | .step2 told => told
  | .update told => told

def ClientMessage.content : ClientMessage Doc → Doc
  | .joinGroup => ⊥
  | .sendToGroup _ message => message.content

def ClientMessage.payload : ClientMessage Doc → Doc
  | .joinGroup => ⊥
  | .sendToGroup _ message => message.payload

/-- The updates a message carries to one client. -/
def HostMessage.contentFor (index : Nat) (message : HostMessage Doc) : Doc :=
  if message.addresses index then message.message.content else ⊥

theorem SyncMessage.content_le (message : SyncMessage Doc) : message.content ≤ message.payload := by
  cases message with
  | step1 known => exact bot_le
  | step2 told => exact le_rfl
  | update told => exact le_rfl

/-- What the host has, or has coming, of this client and of the others. -/
def View.upstream (view : View Doc) : List Doc :=
  view.host :: (view.client.outbox.map ClientMessage.content ++
    view.hostInbox.map (fun control => control.message.content))

/-- What the client has, or has coming. -/
def View.downstream (index : Nat) (view : View Doc) : List Doc :=
  view.client.doc :: view.coming.map (HostMessage.contentFor index)

theorem View.upstream_le_iff {view : View Doc} {doc : Doc} :
    merged view.upstream ≤ doc ↔ view.host ≤ doc ∧
      (∀ message ∈ view.client.outbox, message.content ≤ doc) ∧
      ∀ control ∈ view.hostInbox, control.message.content ≤ doc := by
  simp only [merged_le_iff, View.upstream, List.forall_mem_cons, List.forall_mem_append,
    List.forall_mem_map]

theorem View.downstream_le_iff {index : Nat} {view : View Doc} {doc : Doc} :
    merged (view.downstream index) ≤ doc ↔ view.client.doc ≤ doc ∧
      ∀ message ∈ view.coming, message.contentFor index ≤ doc := by
  simp only [merged_le_iff, View.downstream, List.forall_mem_cons, List.forall_mem_map]

/-- The host has or gets what the client has, or asks for it. -/
def View.Asked (index : Nat) (view : View Doc) : Prop :=
  (∃ known, ⟨some index, .step1 known⟩ ∈ view.coming) ∨ view.client.doc ≤ merged view.upstream

/-- The client has or gets what the host has. -/
def View.Told (index : Nat) (view : View Doc) : Prop :=
  view.host ≤ merged (view.downstream index)

/-- How far a connected client has come. -/
inductive Greeting (index : Nat) (view : View Doc) : Prop where
  | announcing (known : Doc)
      (first : view.client.joined = true ∨ view.client.outbox.head? = some .joinGroup)
      (sent : .sendToGroup .init (.step1 known) ∈ view.client.outbox)
  | announced (known : Doc) (joined : view.client.joined = true)
      (standing : ⟨index, .init, .step1 known⟩ ∈ view.hostInbox)
  | exchanged (joined : view.client.joined = true) (asked : view.Asked index)
      (told : view.Told index)

/-- Both parties have what they said, and a connected client is on its way. -/
structure Linked (index : Nat) (view : View Doc) : Prop where
  outbox : ∀ message ∈ view.client.outbox, message.payload ≤ view.client.doc
  standing : ∀ control ∈ view.hostInbox, control.sender = index →
    control.message.payload ≤ view.client.doc
  coming : ∀ message ∈ view.coming, message.message.payload ≤ view.host
  unopened : view.client.socket = .absent ∨ view.client.socket = .connecting →
    view.client.outbox = []
  greeting : view.client.socket = .connected → Greeting index view

/-! ## Views of a changed state -/

omit [UpdateDoc Doc] in
@[simp]
theorem view_put_same (state : State Doc) (index : Nat) (client : Client Doc) :
    (state.put index client).view index = { state.view index with client := client } := by
  simp [State.view, State.put]

omit [UpdateDoc Doc] in
@[simp]
theorem view_put_other {index other : Nat} (apart : other ≠ index) (state : State Doc)
    (client : Client Doc) : (state.put index client).view other = state.view other := by
  simp [State.view, State.put, Function.update_of_ne apart]

/-- The view of a client that has posted: the messages are on its socket, if it is open. -/
def View.posted (view : View Doc) (client : Client Doc) (messages : List (ClientMessage Doc)) :
    View Doc :=
  { view with client := { client with
      outbox := client.outbox ++ if client.socket = .connected then messages else [] } }

omit [UpdateDoc Doc] in
theorem view_post_same (state : State Doc) (index : Nat) (client : Client Doc)
    (messages : List (ClientMessage Doc)) :
    (state.post index client messages).1.view index =
      (state.view index).posted client messages := by
  unfold State.post View.posted
  split
  · simp
  · simp

omit [UpdateDoc Doc] in
theorem view_post_other {index other : Nat} (apart : other ≠ index) (state : State Doc)
    (client : Client Doc) (messages : List (ClientMessage Doc)) :
    (state.post index client messages).1.view other = state.view other := by
  unfold State.post
  split
  · exact view_put_other apart state _
  · exact view_put_other apart state client

/-- A client comes no less far when its messages stay, no Init of it is taken, and what was
asked and told stays so. -/
theorem Greeting.carry {index : Nat} {view next : View Doc} (greeting : Greeting index view)
    (stays : view.client.outbox ⊆ next.client.outbox)
    (head : view.client.outbox.head? = some .joinGroup →
      next.client.outbox.head? = some .joinGroup)
    (joined : next.client.joined = view.client.joined)
    (standing : view.hostInbox ⊆ next.hostInbox)
    (asked : view.client.joined = true → view.Asked index → next.Asked index)
    (told : view.client.joined = true → view.Told index → next.Told index) :
    Greeting index next := by
  cases greeting with
  | announcing known first sent =>
    apply Greeting.announcing known
    · cases first with
      | inl member => exact Or.inl (joined.trans member)
      | inr heads => exact Or.inr (head heads)
    · exact stays sent
  | announced known member stands =>
    exact Greeting.announced known (joined.trans member) (standing stands)
  | exchanged member wasAsked wasTold =>
    exact Greeting.exchanged (joined.trans member) (asked member wasAsked) (told member wasTold)

/-! ## The client's own steps -/

/-- A real change is told in the message of its event. -/
theorem updateEvent_spec [DecidableLE Doc] (before after : Doc) :
    (∀ update ∈ updateEvent before after, update ≤ after) ∧
      ∀ whole, before ≤ whole → (∀ update ∈ updateEvent before after, update ≤ whole) →
        after ≤ whole := by
  unfold updateEvent
  split
  · rename_i covered
    constructor
    · intro update fired
      cases fired
    · intro whole had _
      exact covered.trans had
  · constructor
    · intro update fired
      cases fired
      exact missing_le after before
    · intro whole had told
      exact (le_missing after before).trans (sup_le had (told _ rfl))

section Own

variable {index : Nat} {view : View Doc} {client : Client Doc}
  {messages : List (ClientMessage Doc)}

/-- A client that has grown and has read some of its messages, with what it says. -/
structure Grows (index : Nat) (view : View Doc) (client : Client Doc)
    (messages : List (ClientMessage Doc)) : Prop where
  doc : view.client.doc ≤ client.doc
  inbox : client.inbox ⊆ view.client.inbox
  read : ∀ message ∈ view.client.inbox,
    message ∈ client.inbox ∨ message.contentFor index ≤ client.doc
  outbox : client.outbox = view.client.outbox
  joined : client.joined = view.client.joined
  socket : client.socket = view.client.socket
  said : ∀ message ∈ messages, message.payload ≤ client.doc

theorem Grows.coming (grows : Grows index view client messages) :
    (view.posted client messages).coming ⊆ view.coming := by
  intro message member
  cases List.mem_append.mp member with
  | inl here => exact List.mem_append_left _ (grows.inbox here)
  | inr there => exact List.mem_append_right _ there

/-- Nothing the host has coming is lost. -/
theorem Grows.upstream (grows : Grows index view client messages) :
    merged view.upstream ≤ merged (view.posted client messages).upstream := by
  obtain ⟨host, outbox, inbox⟩ := View.upstream_le_iff.mp
    (le_refl (merged (view.posted client messages).upstream))
  apply View.upstream_le_iff.mpr
  refine ⟨host, ?_, inbox⟩
  intro message member
  apply outbox
  rw [← grows.outbox] at member
  exact List.mem_append_left _ member

/-- What an open client says, the host has coming. -/
theorem View.upstream_said (connected : client.socket = .connected)
    {message : ClientMessage Doc} (said : message ∈ messages) :
    message.content ≤ merged (view.posted client messages).upstream := by
  obtain ⟨-, outbox, -⟩ := View.upstream_le_iff.mp
    (le_refl (merged (view.posted client messages).upstream))
  apply outbox
  simp [View.posted, connected, said]

/-- Nothing the client has or has coming is lost. -/
theorem Grows.downstream (grows : Grows index view client messages) :
    merged (view.downstream index) ≤ merged ((view.posted client messages).downstream index) := by
  obtain ⟨doc, coming⟩ := View.downstream_le_iff.mp
    (le_refl (merged ((view.posted client messages).downstream index)))
  apply View.downstream_le_iff.mpr
  constructor
  · exact grows.doc.trans doc
  · intro message member
    cases List.mem_append.mp member with
    | inl here =>
      cases grows.read message here with
      | inl left => exact coming message (List.mem_append_left _ left)
      | inr taken => exact taken.trans doc
    | inr there => exact coming message (List.mem_append_right _ there)

/-- A client that grows stays linked, once what it has to tell the host is told. -/
theorem Linked.posted (linked : Linked index view) (grows : Grows index view client messages)
    (asked : client.socket = .connected → view.Asked index →
      (view.posted client messages).Asked index) :
    Linked index (view.posted client messages) := by
  constructor
  · intro message member
    cases List.mem_append.mp member with
    | inl before =>
      rw [grows.outbox] at before
      exact (linked.outbox message before).trans grows.doc
    | inr added =>
      split at added
      · exact grows.said message added
      · cases added
  · intro control member own
    exact (linked.standing control member own).trans grows.doc
  · intro message member
    exact linked.coming message (grows.coming member)
  · intro unopened
    have closed : client.socket ≠ .connected := by
      cases unopened with
      | inl absent =>
        intro connected
        cases absent.symm.trans connected
      | inr connecting =>
        intro connected
        cases connecting.symm.trans connected
    have empty : view.client.outbox = [] := by
      apply linked.unopened
      rw [← grows.socket]
      exact unopened
    simp [View.posted, closed, grows.outbox, empty]
  · intro connected
    have was : view.client.socket = .connected := grows.socket.symm.trans connected
    have stays : client.socket = .connected := connected
    have outbox : (view.posted client messages).client.outbox =
        view.client.outbox ++ messages := by
      simp [View.posted, stays, grows.outbox]
    apply (linked.greeting was).carry
    · rw [outbox]
      exact List.subset_append_left _ _
    · intro head
      rw [outbox, List.head?_append, head, Option.some_or]
    · exact grows.joined
    · exact List.Subset.refl _
    · intro _
      exact asked connected
    · intro _ told
      exact told.trans grows.downstream

/-- The document of the client changes by an edit. -/
theorem Linked.edit [DecidableLE Doc] (linked : Linked index view) (change : Doc) :
    Linked index (view.posted (view.client.change (view.client.doc ⊔ change) .other).1
      (view.client.change (view.client.doc ⊔ change) .other).2) := by
  obtain ⟨fired, covers⟩ := updateEvent_spec view.client.doc
    (view.client.doc ⊔ change)
  have said : ∀ message ∈ (view.client.change (view.client.doc ⊔ change) .other).2,
      ∃ update ∈ updateEvent view.client.doc (view.client.doc ⊔ change),
        message = .sendToGroup .sync (.update update) := by
    intro message member
    simpa [Client.change, updateHandler] using member
  have grows : Grows index view (view.client.change (view.client.doc ⊔ change) .other).1
      (view.client.change (view.client.doc ⊔ change) .other).2 := by
    constructor
    · exact le_sup_left
    · exact List.Subset.refl _
    · intro message member
      exact Or.inl member
    · rfl
    · rfl
    · rfl
    · intro message member
      obtain ⟨update, real, rfl⟩ := said message member
      exact fired update real
  apply linked.posted grows
  intro connected asked
  cases asked with
  | inl pending => exact Or.inl pending
  | inr covered =>
    right
    apply covers
    · exact covered.trans grows.upstream
    · intro update real
      have message : .sendToGroup .sync (.update update) ∈
          (view.client.change (view.client.doc ⊔ change) .other).2 := by
        simp [Client.change, updateHandler, Option.mem_def.mp real]
      exact View.upstream_said connected message

/-- The timer repeats the step 1 of the client. -/
theorem Linked.resync (linked : Linked index view) :
    Linked index (view.posted view.client [.sendToGroup .sync (.step1 view.client.doc)]) := by
  have grows : Grows index view view.client [.sendToGroup .sync (.step1 view.client.doc)] := by
    constructor
    · exact le_rfl
    · exact List.Subset.refl _
    · intro message member
      exact Or.inl member
    · rfl
    · rfl
    · rfl
    · intro message member
      obtain rfl := List.mem_singleton.mp member
      exact le_rfl
  apply linked.posted grows
  intro _ asked
  cases asked with
  | inl pending => exact Or.inl pending
  | inr covered => exact Or.inr (covered.trans grows.upstream)

/-- What the client takes from the host is not told back. -/
theorem change_client_silent [DecidableLE Doc] (client : Client Doc) (doc : Doc) :
    client.change doc .client = ({ client with doc := doc }, []) := by
  simp [Client.change, updateHandler]

/-- A message of the host other than a step 1 has no answer. -/
theorem onmessage_update [DecidableLE Doc] {message : HostMessage Doc}
    (addressed : message.addresses index = true) {told : Doc}
    (carries : message.message = .step2 told ∨ message.message = .update told)
    (client : Client Doc) :
    client.onmessage index message = ({ client with doc := client.doc ⊔ told }, []) := by
  rcases carries with step2 | update
  · simp [Client.onmessage, addressed, step2, readSyncMessage, change_client_silent]
  · simp [Client.onmessage, addressed, update, readSyncMessage, change_client_silent]

theorem onmessage_step1 [DecidableLE Doc] {message : HostMessage Doc}
    (addressed : message.addresses index = true) {known : Doc}
    (asks : message.message = .step1 known) (client : Client Doc) :
    client.onmessage index message =
      (client, [.sendToGroup .sync (.step2 (missing client.doc known))]) := by
  simp [Client.onmessage, addressed, asks, readSyncMessage, change_client_silent]

theorem onmessage_ignored [DecidableLE Doc] {message : HostMessage Doc}
    (ignored : message.addresses index = false) (client : Client Doc) :
    client.onmessage index message = (client, []) := by
  simp [Client.onmessage, ignored]

/-- What a client takes from a message, and that it answers a step 1 only. -/
theorem onmessage_spec [DecidableLE Doc] (index : Nat) (client : Client Doc) (message : HostMessage Doc) :
    ∃ doc, (client.onmessage index message).1 = { client with doc := doc } ∧
      client.doc ≤ doc ∧ message.contentFor index ≤ doc ∧
      ∀ answer ∈ (client.onmessage index message).2, ∃ known, message.message = .step1 known ∧
        answer = .sendToGroup .sync (.step2 (missing client.doc known)) := by
  have updates (told : Doc) (addressed : message.addresses index = true)
      (carries : message.message = .step2 told ∨ message.message = .update told) :
      (client.onmessage index message).1 = { client with doc := client.doc ⊔ told } ∧
        client.doc ≤ client.doc ⊔ told ∧ message.contentFor index ≤ client.doc ⊔ told ∧
        ∀ answer ∈ (client.onmessage index message).2, ∃ known, message.message = .step1 known ∧
          answer = .sendToGroup .sync (.step2 (missing client.doc known)) := by
    rw [onmessage_update addressed carries]
    refine ⟨rfl, le_sup_left, ?_, ?_⟩
    · rcases carries with step2 | update
      · simp [HostMessage.contentFor, addressed, step2, SyncMessage.content]
      · simp [HostMessage.contentFor, addressed, update, SyncMessage.content]
    · intro answer member
      cases member
  cases addressed : message.addresses index with
  | false =>
    rw [onmessage_ignored addressed]
    refine ⟨client.doc, rfl, le_rfl, ?_, ?_⟩
    · simp [HostMessage.contentFor, addressed]
    · intro answer member
      cases member
  | true =>
    cases carried : message.message with
    | step1 known =>
      rw [onmessage_step1 addressed carried]
      refine ⟨client.doc, rfl, le_rfl, ?_, ?_⟩
      · simp [HostMessage.contentFor, carried, SyncMessage.content]
      · intro answer member
        exact ⟨known, rfl, List.mem_singleton.mp member⟩
    | step2 told => exact carried ▸ ⟨_, updates told addressed (Or.inl carried)⟩
    | update told => exact carried ▸ ⟨_, updates told addressed (Or.inr carried)⟩

/-- The client reads its next message. -/
theorem grows_read {message : HostMessage Doc} {rest : List (HostMessage Doc)}
    (inbox : view.client.inbox = message :: rest) {doc : Doc} (larger : view.client.doc ≤ doc)
    (taken : message.contentFor index ≤ doc)
    (said : ∀ message ∈ messages, message.payload ≤ doc) :
    Grows index view { view.client with inbox := rest, doc := doc } messages := by
  constructor
  · exact larger
  · rw [inbox]
    exact List.subset_cons_self message rest
  · intro other member
    rw [inbox] at member
    rcases List.mem_cons.mp member with rfl | later
    · exact Or.inr taken
    · exact Or.inl later
  · rfl
  · rfl
  · rfl
  · exact said

omit [UpdateDoc Doc] in
/-- A step 1 for the client is the message it reads or still coming. -/
theorem View.pending_read {message : HostMessage Doc} {rest : List (HostMessage Doc)}
    (inbox : view.client.inbox = message :: rest) {known : Doc}
    (pending : ⟨some index, .step1 known⟩ ∈ view.coming) :
    message = ⟨some index, .step1 known⟩ ∨ ⟨some index, .step1 known⟩ ∈ rest ++ view.hostOutbox := by
  simpa [View.coming, inbox, eq_comm] using pending

/-- The client takes updates the host has. -/
theorem Linked.receive_update (linked : Linked index view)
    {message : HostMessage Doc} {rest : List (HostMessage Doc)}
    (inbox : view.client.inbox = message :: rest) {told : Doc}
    (carries : message.message = .step2 told ∨ message.message = .update told) :
    Linked index (view.posted { view.client with
      inbox := rest, doc := view.client.doc ⊔ told } []) := by
  have content : message.message.content = told := by
    rcases carries with step2 | update
    · rw [step2, SyncMessage.content]
    · rw [update, SyncMessage.content]
  have heard : told ≤ view.host := by
    have member : message ∈ view.coming := by simp [View.coming, inbox]
    rw [← content]
    exact message.message.content_le.trans (linked.coming message member)
  have grows : Grows index view
      { view.client with inbox := rest, doc := view.client.doc ⊔ told } [] := by
    apply grows_read inbox le_sup_left
    · unfold HostMessage.contentFor
      split
      · rw [content]
        exact le_sup_right
      · exact bot_le
    · intro said member
      cases member
  apply linked.posted grows
  intro _ asked
  rcases asked with ⟨known, pending⟩ | covered
  · rcases View.pending_read inbox pending with rfl | later
    · rcases carries with step2 | update
      · cases step2
      · cases update
    · exact Or.inl ⟨known, later⟩
  · have host := (View.upstream_le_iff.mp grows.upstream).1
    exact Or.inr (sup_le (covered.trans grows.upstream) (heard.trans host))

/-- The client takes the next message of the host. -/
theorem Linked.receive [DecidableLE Doc] (linked : Linked index view)
    {message : HostMessage Doc} {rest : List (HostMessage Doc)}
    (inbox : view.client.inbox = message :: rest) :
    Linked index (view.posted ({ view.client with inbox := rest }.onmessage index message).1
      ({ view.client with inbox := rest }.onmessage index message).2) := by
  have heard : message.message.payload ≤ view.host := by
    apply linked.coming
    simp [View.coming, inbox]
  cases addressed : message.addresses index with
  | false =>
    rw [onmessage_ignored addressed]
    have grows : Grows index view { view.client with inbox := rest, doc := view.client.doc } [] :=
      grows_read inbox le_rfl (by simp [HostMessage.contentFor, addressed]) (by simp)
    apply linked.posted grows
    intro _ asked
    rcases asked with ⟨known, pending⟩ | covered
    · rcases View.pending_read inbox pending with rfl | later
      · simp [HostMessage.addresses] at addressed
      · exact Or.inl ⟨known, later⟩
    · exact Or.inr (covered.trans grows.upstream)
  | true =>
    cases carried : message.message with
    | step1 known =>
      rw [onmessage_step1 addressed carried]
      have grows : Grows index view { view.client with inbox := rest, doc := view.client.doc }
          [.sendToGroup .sync (.step2 (missing view.client.doc known))] := by
        apply grows_read inbox le_rfl
        · simp [HostMessage.contentFor, carried, SyncMessage.content]
        · intro said member
          obtain rfl := List.mem_singleton.mp member
          exact missing_le view.client.doc known
      apply linked.posted grows
      -- the answer covers what the host lacked when it asked
      intro connected _
      rw [carried] at heard
      have knows := heard.trans (View.upstream_le_iff.mp grows.upstream).1
      let answer : ClientMessage Doc := .sendToGroup .sync (.step2 (missing view.client.doc known))
      have answered : answer ∈ [answer] := List.mem_singleton_self answer
      exact Or.inr (le_merged_of_missing knows (View.upstream_said connected answered))
    | step2 told =>
      rw [onmessage_update addressed (Or.inl carried)]
      exact linked.receive_update inbox (Or.inl carried)
    | update told =>
      rw [onmessage_update addressed (Or.inr carried)]
      exact linked.receive_update inbox (Or.inr carried)

/-- A client that is not connected keeps what it said. -/
theorem Linked.disconnected (linked : Linked index view) (doc : client.doc = view.client.doc)
    (outbox : client.outbox ⊆ view.client.outbox) (inbox : client.inbox ⊆ view.client.inbox)
    (closed : client.socket ≠ .connected)
    (unopened : client.socket = .absent ∨ client.socket = .connecting →
      client.outbox = [] ∨ view.client.socket = .absent ∨ view.client.socket = .connecting) :
    Linked index { view with client := client } := by
  constructor
  · intro message member
    rw [doc]
    exact linked.outbox message (outbox member)
  · intro control member own
    rw [doc]
    exact linked.standing control member own
  · intro message member
    apply linked.coming
    cases List.mem_append.mp member with
    | inl here => exact List.mem_append_left _ (inbox here)
    | inr there => exact List.mem_append_right _ there
  · intro now
    cases unopened now with
    | inl empty => exact empty
    | inr before =>
      apply List.subset_nil.mp
      rw [← linked.unopened before]
      exact outbox
  · intro connected
    exact absurd connected closed

/-- `onopen`: the client joins and says Init. -/
theorem Linked.onopen (linked : Linked index view)
    (connecting : view.client.socket = .connecting) :
    Linked index (view.posted { view.client with socket := .connected } view.client.greeting) := by
  have empty : view.client.outbox = [] := linked.unopened (Or.inr connecting)
  have outbox : (view.posted { view.client with socket := .connected }
      view.client.greeting).client.outbox = view.client.greeting := by
    simp [View.posted, empty]
  constructor
  · intro message member
    rw [outbox] at member
    rcases List.mem_cons.mp member with rfl | later
    · exact bot_le
    · obtain rfl := List.mem_singleton.mp later
      exact le_rfl
  · exact linked.standing
  · exact linked.coming
  · intro unopened
    cases unopened with
    | inl absent => cases absent
    | inr still => cases still
  · intro _
    apply Greeting.announcing view.client.doc
    · right
      rw [outbox]
      rfl
    · rw [outbox]
      exact List.mem_cons_of_mem _ (List.mem_singleton_self _)

/-- The service takes the client into the group. -/
theorem Linked.join (linked : Linked index view) {rest : List (ClientMessage Doc)}
    (outbox : view.client.outbox = .joinGroup :: rest) :
    Linked index { view with client := { view.client with outbox := rest, joined := true } } := by
  constructor
  · intro message member
    apply linked.outbox
    rw [outbox]
    exact List.mem_cons_of_mem _ member
  · exact linked.standing
  · exact linked.coming
  · intro unopened
    have empty := linked.unopened unopened
    rw [outbox] at empty
    cases empty
  · intro connected
    cases linked.greeting connected with
    | announcing known first sent =>
      rw [outbox] at sent
      apply Greeting.announcing known
      · exact Or.inl rfl
      · exact (List.mem_cons.mp sent).resolve_left (by simp)
    | announced known joined standing => exact Greeting.announced known rfl standing
    | exchanged joined asked told =>
      apply Greeting.exchanged
      · exact rfl
      · cases asked with
        | inl pending => exact Or.inl pending
        | inr covered =>
          right
          apply covered.trans
          obtain ⟨host, later, inbox⟩ := View.upstream_le_iff.mp (le_refl (merged (View.upstream
            { view with client := { view.client with outbox := rest, joined := true } })))
          apply View.upstream_le_iff.mpr
          refine ⟨host, ?_, inbox⟩
          intro message member
          rw [outbox] at member
          rcases List.mem_cons.mp member with rfl | member
          · exact bot_le
          · exact later message member
      · exact told

/-- The service gives a message of the client to the host. -/
theorem Linked.deliver (linked : Linked index view) {type : MessageDataType}
    {message : SyncMessage Doc} {rest : List (ClientMessage Doc)}
    (outbox : view.client.outbox = .sendToGroup type message :: rest) :
    Linked index { view with
      client := { view.client with outbox := rest }
      hostInbox := view.hostInbox ++ [⟨index, type, message⟩] } := by
  constructor
  · intro other member
    apply linked.outbox
    rw [outbox]
    exact List.mem_cons_of_mem _ member
  · intro control member own
    cases List.mem_append.mp member with
    | inl before => exact linked.standing control before own
    | inr added =>
      obtain rfl := List.mem_singleton.mp added
      have said : .sendToGroup type message ∈ view.client.outbox := by simp [outbox]
      exact linked.outbox _ said
  · exact linked.coming
  · intro unopened
    have empty := linked.unopened unopened
    rw [outbox] at empty
    cases empty
  · intro connected
    cases linked.greeting connected with
    | announcing known first sent =>
      rw [outbox] at sent first
      have joined : view.client.joined = true := first.resolve_right (by simp)
      cases List.mem_cons.mp sent with
      | inl here =>
        cases here
        apply Greeting.announced known
        · exact joined
        · exact List.mem_append_right _ (List.mem_singleton_self _)
      | inr later => exact Greeting.announcing known (Or.inl joined) later
    | announced known joined standing =>
      exact Greeting.announced known joined (List.mem_append_left _ standing)
    | exchanged joined asked told =>
      apply Greeting.exchanged
      · exact joined
      · cases asked with
        | inl pending => exact Or.inl pending
        | inr covered =>
          right
          apply covered.trans
          apply merged_subset
          intro update member
          simp only [View.upstream, outbox, List.map_cons, List.map_append, List.map_nil,
            List.mem_cons, List.mem_append, ClientMessage.content] at member ⊢
          tauto
      · exact told

end Own

/-! ## Steps of the others -/

section Others

variable {index : Nat} {view : View Doc}

/-- The service gives a message of another client to the host. -/
theorem Linked.deliver_other (linked : Linked index view) {control : ControlMessage Doc}
    (other : control.sender ≠ index) :
    Linked index { view with hostInbox := view.hostInbox ++ [control] } := by
  constructor
  · exact linked.outbox
  · intro standing member own
    cases List.mem_append.mp member with
    | inl before => exact linked.standing standing before own
    | inr added =>
      obtain rfl := List.mem_singleton.mp added
      exact absurd own other
  · exact linked.coming
  · exact linked.unopened
  · intro connected
    apply (linked.greeting connected).carry
    · exact List.Subset.refl _
    · exact id
    · rfl
    · exact List.subset_append_left _ _
    · rintro - (pending | covered)
      · exact Or.inl pending
      · right
        apply covered.trans
        apply merged_subset
        intro update member
        simp only [View.upstream, List.map_append, List.mem_cons, List.mem_append] at member ⊢
        tauto
    · intro _ told
      exact told

/-- The service gives a message of the host to the members of the group. -/
theorem Linked.relayHost (linked : Linked index view) {message : HostMessage Doc}
    {rest : List (HostMessage Doc)} (hostOutbox : view.hostOutbox = message :: rest) :
    Linked index { view with
      client := if view.client.joined then
        { view.client with inbox := view.client.inbox ++ [message] } else view.client
      hostOutbox := rest } := by
  cases joins : view.client.joined with
  | false =>
    have coming : (View.coming { view with hostOutbox := rest }) ⊆ view.coming := by
      intro other member
      simp only [View.coming, hostOutbox, List.mem_append, List.mem_cons] at member ⊢
      tauto
    constructor
    · exact linked.outbox
    · exact linked.standing
    · intro other member
      exact linked.coming other (coming member)
    · exact linked.unopened
    · intro connected
      apply (linked.greeting connected).carry
      · exact List.Subset.refl _
      · exact id
      · rfl
      · exact List.Subset.refl _
      · intro joined
        simp [joins] at joined
      · intro joined
        simp [joins] at joined
  | true =>
    -- what comes to a member is the same, one message nearer
    have coming : View.coming { view with
        client := { view.client with inbox := view.client.inbox ++ [message] }
        hostOutbox := rest } = view.coming := by
      simp [View.coming, hostOutbox]
    constructor
    · exact linked.outbox
    · exact linked.standing
    · intro other member
      exact linked.coming other (coming ▸ member)
    · exact linked.unopened
    · intro connected
      apply (linked.greeting connected).carry
      · exact List.Subset.refl _
      · exact id
      · rfl
      · exact List.Subset.refl _
      · rintro - (⟨known, pending⟩ | covered)
        · exact Or.inl ⟨known, coming ▸ pending⟩
        · exact Or.inr covered
      · intro _ told
        unfold View.Told View.downstream at told ⊢
        rw [← coming] at told
        exact told

/-- What the host says as its document grows, and as it takes messages of its group. -/
structure HostSpeaks (before : Doc) (taken : List (ControlMessage Doc)) (after : Doc)
    (added : List (HostMessage Doc)) : Prop where
  larger : before ≤ after
  read : ∀ control ∈ taken, control.message.content ≤ after
  said : ∀ message ∈ added, message.message.payload ≤ after
  /-- Every member is told what is new. -/
  tells : ∀ index whole, before ≤ whole →
    (∀ message ∈ added, message.contentFor index ≤ whole) → after ≤ whole
  /-- An Init is answered by a step 1 and a step 2. -/
  answers : ∀ index known, ⟨index, .init, .step1 known⟩ ∈ taken →
    ⟨some index, .step1 before⟩ ∈ added ∧
      ⟨some index, .step2 (missing after known)⟩ ∈ added
  asks : ∀ message ∈ added, ∀ known, message.message = .step1 known → before ≤ known
  ordered : added.Pairwise (fun _ later => ∀ known, later.message ≠ .step1 known)

/-- A client stays linked as the host takes messages and says what follows. -/
theorem Linked.hosted (linked : Linked index view) {taken hostInbox : List (ControlMessage Doc)}
    {host : Doc} {added : List (HostMessage Doc)} (inbox : view.hostInbox = taken ++ hostInbox)
    (speaks : HostSpeaks view.host taken host added) :
    Linked index { view with
      host := host, hostInbox := hostInbox, hostOutbox := view.hostOutbox ++ added } := by
  have coming : View.coming { view with
      host := host, hostInbox := hostInbox, hostOutbox := view.hostOutbox ++ added } =
        view.coming ++ added := by
    simp [View.coming]
  obtain ⟨hasDoc, hasComing⟩ := View.downstream_le_iff.mp (le_refl (merged (View.downstream index
    { view with host := host, hostInbox := hostInbox, hostOutbox := view.hostOutbox ++ added })))
  rw [coming] at hasComing
  constructor
  · exact linked.outbox
  · intro control member own
    apply linked.standing control _ own
    rw [inbox]
    exact List.mem_append_right _ member
  · intro message member
    rw [coming] at member
    cases List.mem_append.mp member with
    | inl before => exact (linked.coming message before).trans speaks.larger
    | inr new => exact speaks.said message new
  · exact linked.unopened
  · intro connected
    cases linked.greeting connected with
    | announcing known first sent => exact Greeting.announcing known first sent
    | announced known joined standing =>
      rw [inbox] at standing
      cases List.mem_append.mp standing with
      | inl here =>
        -- the host answers this Init
        obtain ⟨step1, step2⟩ := speaks.answers index known here
        apply Greeting.exchanged
        · exact joined
        · left
          refine ⟨view.host, ?_⟩
          rw [coming]
          exact List.mem_append_right _ step1
        · have own : known ≤ view.client.doc :=
            linked.standing ⟨index, .init, .step1 known⟩
              (inbox ▸ List.mem_append_left _ here) rfl
          have told := hasComing _ (List.mem_append_right _ step2)
          simp only [HostMessage.contentFor, HostMessage.addresses, Option.all_some,
            beq_self_eq_true, if_true, SyncMessage.content] at told
          exact le_merged_of_missing (own.trans hasDoc) told
      | inr later => exact Greeting.announced known joined later
    | exchanged joined asked told =>
      apply Greeting.exchanged
      · exact joined
      · rcases asked with ⟨known, pending⟩ | covered
        · left
          refine ⟨known, ?_⟩
          rw [coming]
          exact List.mem_append_left _ pending
        · right
          apply covered.trans
          obtain ⟨whole, outbox, left⟩ := View.upstream_le_iff.mp (le_refl (merged (View.upstream
            { view with
              host := host, hostInbox := hostInbox, hostOutbox := view.hostOutbox ++ added })))
          apply View.upstream_le_iff.mpr
          refine ⟨speaks.larger.trans whole, outbox, ?_⟩
          intro control member
          rw [inbox] at member
          cases List.mem_append.mp member with
          | inl here => exact (speaks.read control here).trans whole
          | inr later => exact left control later
      · apply speaks.tells index
        · apply told.trans
          apply View.downstream_le_iff.mpr
          refine ⟨hasDoc, ?_⟩
          intro message member
          exact hasComing message (List.mem_append_left _ member)
        · intro message member
          exact hasComing message (List.mem_append_right _ member)

end Others

/-! ## What the host says -/

section Host

variable [DecidableLE Doc] {state : State Doc}

/-- The broadcast of a change tells every member what is new. -/
theorem hostSpeaks_change {before after : Doc} (larger : before ≤ after) :
    HostSpeaks before [] after ((updateEvent before after).toList.map broadcast) := by
  obtain ⟨fired, covers⟩ := updateEvent_spec before after
  constructor
  · exact larger
  · intro control member
    cases member
  · intro message member
    obtain ⟨update, real, rfl⟩ := List.mem_map.mp member
    exact fired update (Option.mem_toList.mp real)
  · intro index whole had told
    apply covers whole had
    intro update real
    have member : broadcast update ∈ (updateEvent before after).toList.map broadcast :=
      List.mem_map_of_mem (Option.mem_toList.mpr real)
    simpa [broadcast, HostMessage.contentFor, HostMessage.addresses, SyncMessage.content]
      using told _ member
  · intro index known member
    cases member
  · intro message member known asks
    obtain ⟨update, -, rfl⟩ := List.mem_map.mp member
    cases asks
  · cases updateEvent before after with
    | none => simp
    | some update => simp

/-- The answer of the host to a step 1. -/
theorem onClientSync_step1 (sender : Nat) (known : Doc) :
    state.onClientSync sender (.step1 known) =
      state.send sender (.step2 (missing state.host known)) := by
  simp [State.onClientSync, readSyncMessage, State.hostChange, updateEvent]

/-- The host takes updates and broadcasts what is new. -/
theorem onClientSync_update (sender : Nat) {message : SyncMessage Doc} {told : Doc}
    (carries : message = .step2 told ∨ message = .update told) :
    state.onClientSync sender message = state.hostChange (state.host ⊔ told) := by
  rcases carries with rfl | rfl
  · rfl
  · rfl

/-- What follows from a message of the sync type; the host asks nothing. -/
theorem onClientSync_speaks (state : State Doc) (sender : Nat) (message : SyncMessage Doc) :
    ∃ host added, state.onClientSync sender message =
        { state with host := host, hostOutbox := state.hostOutbox ++ added } ∧
      HostSpeaks state.host [⟨sender, .sync, message⟩] host added ∧
      (∀ said ∈ added, ∀ known, said.message ≠ .step1 known) ∧
      ∀ known, message = .step1 known → host = state.host ∧
        ⟨some sender, .step2 (missing state.host known)⟩ ∈ added := by
  have updates (told : Doc) (carries : message = .step2 told ∨ message = .update told) :
      ∃ host added, state.onClientSync sender message =
          { state with host := host, hostOutbox := state.hostOutbox ++ added } ∧
        HostSpeaks state.host [⟨sender, .sync, message⟩] host added ∧
        (∀ said ∈ added, ∀ known, said.message ≠ .step1 known) ∧
        ∀ known, message = .step1 known → host = state.host ∧
          ⟨some sender, .step2 (missing state.host known)⟩ ∈ added := by
    have content : message.content = told := by
      rcases carries with rfl | rfl
      · rfl
      · rfl
    have speaks := hostSpeaks_change (le_sup_left : state.host ≤ state.host ⊔ told)
    refine ⟨_, _, onClientSync_update sender carries, ?_, ?_, ?_⟩
    · refine { speaks with read := ?_, answers := ?_ }
      · intro control member
        obtain rfl := List.mem_singleton.mp member
        exact content.trans_le le_sup_right
      · intro index known member
        cases List.mem_singleton.mp member
    · intro said member known asks
      obtain ⟨update, -, rfl⟩ := List.mem_map.mp member
      cases asks
    · rintro known rfl
      rcases carries with step2 | update
      · cases step2
      · cases update
  cases message with
  | step1 known =>
    refine ⟨_, _, onClientSync_step1 sender known, ?_, ?_, ?_⟩
    · constructor
      · exact le_rfl
      · intro control member
        obtain rfl := List.mem_singleton.mp member
        exact bot_le
      · intro said member
        obtain rfl := List.mem_singleton.mp member
        exact missing_le state.host known
      · intro index whole had _
        exact had
      · intro index other member
        cases List.mem_singleton.mp member
      · intro said member other asks
        obtain rfl := List.mem_singleton.mp member
        cases asks
      · exact List.pairwise_singleton _ _
    · intro said member other asks
      obtain rfl := List.mem_singleton.mp member
      cases asks
    · rintro other same
      cases same
      exact ⟨rfl, List.mem_singleton_self _⟩
  | step2 told => exact updates told (Or.inl rfl)
  | update told => exact updates told (Or.inr rfl)

/-- What follows from any message of the group. -/
theorem hostOnmessage_speaks (state : State Doc) (control : ControlMessage Doc) :
    ∃ host added, state.hostOnmessage control =
        { state with host := host, hostOutbox := state.hostOutbox ++ added } ∧
      HostSpeaks state.host [control] host added := by
  obtain ⟨sender, type, message⟩ := control
  cases type with
  | sync =>
    obtain ⟨host, added, eq, speaks, -⟩ := onClientSync_speaks state sender message
    exact ⟨host, added, eq, speaks⟩
  | init =>
    let asking : HostMessage Doc := ⟨some sender, .step1 state.host⟩
    obtain ⟨host, added, eq, speaks, silent, answered⟩ :=
      onClientSync_speaks (state.onClientInit sender) sender message
    refine ⟨host, asking :: added, ?_, ?_⟩
    · refine Eq.trans eq ?_
      simp [State.onClientInit, State.send, asking]
    · constructor
      · exact speaks.larger
      · intro control member
        obtain rfl := List.mem_singleton.mp member
        exact speaks.read ⟨sender, .sync, message⟩ (List.mem_singleton_self _)
      · intro said member
        rcases List.mem_cons.mp member with rfl | later
        · exact speaks.larger
        · exact speaks.said said later
      · intro index whole had told
        apply speaks.tells index whole had
        intro said member
        exact told said (List.mem_cons_of_mem _ member)
      · intro index known member
        cases List.mem_singleton.mp member
        obtain ⟨rfl, step2⟩ := answered known rfl
        exact ⟨List.mem_cons_self, List.mem_cons_of_mem _ step2⟩
      · intro said member known asks
        rcases List.mem_cons.mp member with rfl | later
        · cases asks
          exact le_rfl
        · exact absurd asks (silent said later known)
      · apply List.pairwise_cons.mpr
        constructor
        · exact silent
        · exact speaks.ordered

end Host

end Payloads

end WebPubSub.Sync
