import WebPubSub.Sync.Exchange

/-!
# The documents converge

Every step of the protocol is, to one client, one of a few moves of its view. The moves
keep the client linked to the host; with nothing in flight, a linked client that is connected
was told all that the host has, and told the host all it has.

Nothing a client sends has a part in common with what it took before. An edit sends what is
new to its document. The answer to a step 1 leaves out what the host had when it asked, and
the host had all that comes to the client before its question.
-/

namespace WebPubSub.Sync

open UpdateDoc

variable {Doc : Type}

/-- The client that sends or takes a message. -/
def Output.owner : Output Doc → Nat
  | .sent index _ => index
  | .received index _ => index

/-- What one client sends and takes. -/
def ownOutputs (index : Nat) (outputs : List (Output Doc)) : List (Output Doc) :=
  outputs.filter (fun output => output.owner == index)

/-- No message is in flight. -/
structure State.Quiescent (state : State Doc) : Prop where
  outboxes : ∀ index, (state.clients index).outbox = []
  inboxes : ∀ index, (state.clients index).inbox = []
  hostInbox : state.hostInbox = []
  hostOutbox : state.hostOutbox = []

/-! ## The outputs of one client -/

theorem ownOutputs_append (index : Nat) (first second : List (Output Doc)) :
    ownOutputs index (first ++ second) = ownOutputs index first ++ ownOutputs index second :=
  List.filter_append first second

theorem ownOutputs_sent (index : Nat) (messages : List (ClientMessage Doc)) :
    ownOutputs index (messages.map (.sent index)) = messages.map (.sent index) := by
  simp [ownOutputs, Output.owner]

theorem ownOutputs_other {index other : Nat} (apart : index ≠ other)
    (messages : List (ClientMessage Doc)) :
    ownOutputs index (messages.map (.sent other)) = [] := by
  simp [ownOutputs, Output.owner, apart.symm]

/-- The messages a client posts, if its socket is open. -/
def sentBy (index : Nat) (client : Client Doc) (messages : List (ClientMessage Doc)) :
    List (Output Doc) :=
  if client.socket = .connected then messages.map (.sent index) else []

theorem post_outputs (state : State Doc) (index : Nat) (client : Client Doc)
    (messages : List (ClientMessage Doc)) :
    (state.post index client messages).2 = sentBy index client messages := by
  unfold State.post sentBy
  split
  · rfl
  · rfl

theorem sentBy_of_socket {index : Nat} {client other : Client Doc}
    (socket : client.socket = other.socket) (messages : List (ClientMessage Doc)) :
    sentBy index client messages = sentBy index other messages := by
  unfold sentBy
  rw [socket]

/-- Posting is seen by the client that posts, and by no other. -/
theorem ownOutputs_sentBy (index : Nat) (client : Client Doc)
    (messages : List (ClientMessage Doc)) :
    ownOutputs index (sentBy index client messages) = sentBy index client messages := by
  unfold sentBy
  split
  · exact ownOutputs_sent index messages
  · rfl

theorem ownOutputs_sentBy_other {index other : Nat} (apart : index ≠ other) (client : Client Doc)
    (messages : List (ClientMessage Doc)) :
    ownOutputs index (sentBy other client messages) = [] := by
  unfold sentBy
  split
  · exact ownOutputs_other apart messages
  · rfl

theorem mem_sentBy {index other : Nat} {client : Client Doc} {message : ClientMessage Doc}
    {messages : List (ClientMessage Doc)}
    (sent : .sent other message ∈ sentBy index client messages) : message ∈ messages := by
  unfold sentBy at sent
  split at sent
  · obtain ⟨posted, member, same⟩ := List.mem_map.mp sent
    cases same
    exact member
  · cases sent

/-! ## The moves of a view -/

section Steps

variable [UpdateDoc Doc] [DecidableLE Doc]

/-- What a step of the protocol can do to the view of one client. -/
inductive Move (index : Nat) (view : View Doc) : View Doc → List (Output Doc) → Prop where
  | still : Move index view view []
  | edit (change : Doc) : Move index view
      (view.posted (view.client.change (view.client.doc ⊔ change) .other).1
        (view.client.change (view.client.doc ⊔ change) .other).2)
      (sentBy index view.client (view.client.change (view.client.doc ⊔ change) .other).2)
  | resync : Move index view
      (view.posted view.client [.sendToGroup .sync (.step1 view.client.doc)])
      (sentBy index view.client [.sendToGroup .sync (.step1 view.client.doc)])
  | disconnected (client : Client Doc) (doc : client.doc = view.client.doc)
      (outbox : client.outbox ⊆ view.client.outbox)
      (inbox : client.inbox.Sublist view.client.inbox) (closed : client.socket ≠ .connected)
      (unopened : client.socket = .absent ∨ client.socket = .connecting →
        client.outbox = [] ∨ view.client.socket = .absent ∨ view.client.socket = .connecting) :
      Move index view { view with client := client } []
  | onopen (connecting : view.client.socket = .connecting) : Move index view
      (view.posted { view.client with socket := .connected } view.client.greeting)
      (view.client.greeting.map (.sent index))
  | join (rest : List (ClientMessage Doc)) (outbox : view.client.outbox = .joinGroup :: rest) :
      Move index view
        { view with client := { view.client with outbox := rest, joined := true } } []
  | deliver (type : MessageDataType) (message : SyncMessage Doc)
      (rest : List (ClientMessage Doc))
      (outbox : view.client.outbox = .sendToGroup type message :: rest) : Move index view
        { view with
          client := { view.client with outbox := rest }
          hostInbox := view.hostInbox ++ [⟨index, type, message⟩] } []
  | receive (message : HostMessage Doc) (rest : List (HostMessage Doc))
      (inbox : view.client.inbox = message :: rest) : Move index view
        (view.posted ({ view.client with inbox := rest }.onmessage index message).1
          ({ view.client with inbox := rest }.onmessage index message).2)
        ((if message.addresses index then [.received index message.message] else []) ++
          sentBy index view.client ({ view.client with inbox := rest }.onmessage index message).2)
  | deliverOther (control : ControlMessage Doc) (other : control.sender ≠ index) :
      Move index view { view with hostInbox := view.hostInbox ++ [control] } []
  | relayHost (message : HostMessage Doc) (rest : List (HostMessage Doc))
      (hostOutbox : view.hostOutbox = message :: rest) : Move index view
        { view with
          client := if view.client.joined then
            { view.client with inbox := view.client.inbox ++ [message] } else view.client
          hostOutbox := rest } []
  | hosted (taken hostInbox : List (ControlMessage Doc)) (host : Doc)
      (added : List (HostMessage Doc)) (inbox : view.hostInbox = taken ++ hostInbox)
      (speaks : HostSpeaks view.host taken host added) : Move index view
        { view with
          host := host, hostInbox := hostInbox, hostOutbox := view.hostOutbox ++ added } []

/-- A step that posts for one client is a move of this client alone. -/
theorem post_moves {state next : State Doc} {index : Nat} {client : Client Doc}
    {messages : List (ClientMessage Doc)} {outputs : List (Output Doc)}
    (own : Move index (state.view index) ((state.view index).posted client messages)
      (sentBy index client messages))
    (posted : some (state.post index client messages) = some (next, outputs)) (tested : Nat) :
    Move tested (state.view tested) (next.view tested) (ownOutputs tested outputs) := by
  have same : state.post index client messages = (next, outputs) := Option.some.inj posted
  obtain rfl : (state.post index client messages).1 = next := congrArg Prod.fst same
  obtain rfl : (state.post index client messages).2 = outputs := congrArg Prod.snd same
  rw [post_outputs]
  by_cases same : tested = index
  · subst same
    rw [view_post_same, ownOutputs_sentBy]
    exact own
  · rw [view_post_other same, ownOutputs_sentBy_other same]
    exact Move.still

/-- So is a step that replaces one client. -/
theorem put_moves (state : State Doc) (index : Nat) (client : Client Doc)
    (own : Move index (state.view index) { state.view index with client := client } [])
    (tested : Nat) :
    Move tested (state.view tested) ((state.put index client).view tested) [] := by
  by_cases same : tested = index
  · subst same
    rw [view_put_same]
    exact own
  · rw [view_put_other same]
    exact Move.still

/-- A relayed message of a client is seen by the client and stands with the host. -/
theorem relay_moves {state next : State Doc} {sender : Nat}
    (relayed : state.relay sender = some next) (index : Nat) :
    Move index (state.view index) (next.view index) [] := by
  simp only [State.relay] at relayed
  split at relayed
  · cases relayed
  · rename_i rest outbox
    cases relayed
    exact put_moves state sender _ (Move.join rest outbox) index
  · rename_i type message rest outbox
    cases relayed
    by_cases same : index = sender
    · subst same
      have own : Move index (state.view index) _ [] := Move.deliver type message rest outbox
      simpa [State.view, State.put] using own
    · have others : Move index (state.view index) _ [] :=
        Move.deliverOther ⟨sender, type, message⟩ (Ne.symm same)
      simpa [State.view, State.put, Function.update_of_ne same] using others

/-- A relayed message of the host is seen by every client. -/
theorem relayHost_moves {state next : State Doc} (relayed : state.relayHost = some next)
    (index : Nat) : Move index (state.view index) (next.view index) [] := by
  unfold State.relayHost at relayed
  split at relayed
  · cases relayed
  · rename_i message rest hostOutbox
    cases relayed
    exact Move.relayHost message rest hostOutbox

theorem hostReceives_moves {state next : State Doc} (received : state.hostReceives = some next)
    (index : Nat) : Move index (state.view index) (next.view index) [] := by
  unfold State.hostReceives at received
  split at received
  · cases received
  · rename_i control rest inbox
    cases received
    obtain ⟨host, added, eq, speaks⟩ :=
      hostOnmessage_speaks { state with hostInbox := rest } control
    rw [eq]
    exact Move.hosted [control] rest host added inbox speaks

theorem onmessage_socket {index : Nat} (client : Client Doc) (message : HostMessage Doc) :
    (client.onmessage index message).1.socket = client.socket := by
  unfold Client.onmessage
  split
  · rfl
  · rfl

theorem clientReceives_cons {state : State Doc} {index : Nat} {message : HostMessage Doc}
    {rest : List (HostMessage Doc)} (inbox : (state.clients index).inbox = message :: rest) :
    state.clientReceives index =
      let told := { state.clients index with inbox := rest }.onmessage index message
      some ((state.post index told.1 told.2).1,
        (if message.addresses index then [.received index message.message] else []) ++
          (state.post index told.1 told.2).2) := by
  simp only [State.clientReceives, inbox]
  split
  · rfl
  · rfl

/-- A message taken by a client is seen by this client alone. -/
theorem clientReceives_moves {state next : State Doc} {receiver : Nat}
    {outputs : List (Output Doc)}
    (received : state.clientReceives receiver = some (next, outputs)) (index : Nat) :
    Move index (state.view index) (next.view index) (ownOutputs index outputs) := by
  cases inbox : (state.clients receiver).inbox with
  | nil => simp [State.clientReceives, inbox] at received
  | cons message rest =>
    obtain ⟨rfl, rfl⟩ := Prod.mk.inj (Option.some.inj
      ((clientReceives_cons inbox).symm.trans received))
    rw [ownOutputs_append, post_outputs]
    by_cases same : index = receiver
    · subst same
      rw [view_post_same, ownOutputs_sentBy]
      have own : Move index (state.view index) _ _ := Move.receive message rest inbox
      have taken : ownOutputs index (if message.addresses index then
          [.received index message.message] else []) =
            if message.addresses index then [.received index message.message] else [] := by
        split
        · simp [ownOutputs, Output.owner]
        · rfl
      rw [taken, sentBy_of_socket (onmessage_socket _ message)]
      exact own
    · rw [view_post_other same, ownOutputs_sentBy_other same, List.append_nil]
      have taken : ownOutputs index (if message.addresses receiver then
          [.received receiver message.message] else []) = [] := by
        split
        · simp [ownOutputs, Output.owner, Ne.symm same]
        · rfl
      rw [taken]
      exact Move.still

/-- A step of the protocol is a move of the view of every client. -/
theorem step_moves {state next : State Doc} {event : Event Doc} {outputs : List (Output Doc)}
    (stepped : protocol.step state event = some (next, outputs)) (index : Nat) :
    Move index (state.view index) (next.view index) (ownOutputs index outputs) := by
  cases event with
  | edit sender change =>
    have own : Move sender (state.view sender) _ _ := Move.edit change
    exact post_moves own stepped index
  | hostEdit change =>
    cases stepped
    exact Move.hosted [] state.hostInbox _ _ rfl (hostSpeaks_change le_sup_left)
  | start sender =>
    simp only [protocol] at stepped
    split at stepped
    · rename_i absent
      cases stepped
      apply put_moves
      apply Move.disconnected
      · rfl
      · exact List.Subset.refl _
      · exact List.Sublist.refl _
      · simp
      · intro _
        exact Or.inr (Or.inl absent)
    · cases stepped
      exact Move.still
  | onopen sender =>
    simp only [protocol] at stepped
    split at stepped
    · rename_i connecting
      have own : Move sender (state.view sender) _ _ := Move.onopen connecting
      exact post_moves own stepped index
    · cases stepped
  | stop sender =>
    cases stepped
    apply put_moves
    unfold Client.stop
    split
    · exact Move.still
    · apply Move.disconnected
      · rfl
      · exact List.Subset.refl _
      · exact List.Sublist.refl _
      · simp
      · simp
  | onclose sender =>
    simp only [protocol] at stepped
    split at stepped
    · cases stepped
    · cases stepped
      apply put_moves
      apply Move.disconnected
      · rfl
      · exact List.nil_subset _
      · exact List.nil_sublist _
      · simp [Client.onclose]
      · intro _
        exact Or.inl rfl
  | resync sender =>
    have own : Move sender (state.view sender) _ _ := Move.resync
    exact post_moves own stepped index
  | relay sender =>
    obtain ⟨other, relayed, same⟩ := Option.map_eq_some_iff.mp stepped
    cases same
    exact relay_moves relayed index
  | relayHost =>
    obtain ⟨other, relayed, same⟩ := Option.map_eq_some_iff.mp stepped
    cases same
    exact relayHost_moves relayed index
  | hostReceives =>
    obtain ⟨other, received, same⟩ := Option.map_eq_some_iff.mp stepped
    cases same
    exact hostReceives_moves received index
  | clientReceives receiver => exact clientReceives_moves stepped index

end Steps

/-! ## The link to the host -/

variable [UpdateDoc Doc]

theorem initial_linked (documents : Nat → Doc) (host : Doc) (index : Nat) :
    Linked index ((State.initial documents host).view index) := by
  constructor
  · intro message member
    cases member
  · intro control member
    cases member
  · intro message member
    cases member
  · intro _
    rfl
  · intro connected
    cases connected

/-- Every move of its view keeps a client linked. -/
theorem Linked.move [DecidableLE Doc] {index : Nat} {view next : View Doc} {outputs : List (Output Doc)}
    (linked : Linked index view) (move : Move index view next outputs) : Linked index next := by
  cases move with
  | still => exact linked
  | edit change => exact linked.edit change
  | resync => exact linked.resync
  | disconnected client doc outbox inbox closed unopened =>
    exact linked.disconnected doc outbox inbox.subset closed unopened
  | onopen connecting => exact linked.onopen connecting
  | join rest outbox => exact linked.join outbox
  | deliver type message rest outbox => exact linked.deliver outbox
  | receive message rest inbox => exact linked.receive inbox
  | deliverOther control other => exact linked.deliver_other other
  | relayHost message rest hostOutbox => exact linked.relayHost hostOutbox
  | hosted taken hostInbox host added inbox speaks => exact linked.hosted inbox speaks

/-- With nothing in flight, a linked client that is connected has the host's document. -/
theorem Linked.agrees {state : State Doc} {index : Nat} (linked : Linked index (state.view index))
    (quiescent : state.Quiescent) (connected : (state.clients index).socket = .connected) :
    (state.clients index).doc = state.host := by
  have outbox : (state.view index).client.outbox = [] := quiescent.outboxes index
  have hostInbox : (state.view index).hostInbox = [] := quiescent.hostInbox
  have coming : (state.view index).coming = [] := by
    simp [View.coming, State.view, quiescent.inboxes index, quiescent.hostOutbox]
  cases linked.greeting connected with
  | announcing known first sent =>
    rw [outbox] at sent
    cases sent
  | announced known joined standing =>
    rw [hostInbox] at standing
    cases standing
  | exchanged joined asked told =>
    apply le_antisymm
    · rcases asked with ⟨known, pending⟩ | covered
      · rw [coming] at pending
        cases pending
      · apply covered.trans
        apply View.upstream_le_iff.mpr
        refine ⟨le_rfl, ?_, ?_⟩
        · rw [outbox]
          intro message member
          cases member
        · rw [hostInbox]
          intro control member
          cases member
    · apply told.trans
      apply View.downstream_le_iff.mpr
      refine ⟨le_rfl, ?_⟩
      rw [coming]
      intro message member
      cases member

/-! ## Nothing is sent back -/

/-- The updates a client took. -/
def receivedUpdates (outputs : List (Output Doc)) : List Doc :=
  outputs.filterMap (fun
    | .received _ message => some message.content
    | .sent _ _ => none)

theorem receivedUpdates_append (first second : List (Output Doc)) :
    receivedUpdates (first ++ second) = receivedUpdates first ++ receivedUpdates second :=
  List.filterMap_append

theorem receivedUpdates_sentBy (index : Nat) (client : Client Doc)
    (messages : List (ClientMessage Doc)) :
    receivedUpdates (sentBy index client messages) = [] := by
  unfold sentBy
  split
  · simp [receivedUpdates]
  · rfl

/-- What a client took, it has and the host had when it asked; so is what comes to the
client before a question of the host. -/
structure Heard (received : List Doc) (view : View Doc) : Prop where
  taken : ∀ update ∈ received, update ≤ view.client.doc
  held : ∀ update ∈ received, update ≤ view.host
  asked : ∀ update ∈ received, ∀ message ∈ view.coming, ∀ known,
    message.message = .step1 known → update ≤ known
  ordered : view.coming.Pairwise (fun earlier later => ∀ known,
    later.message = .step1 known → earlier.message.content ≤ known)

theorem initial_heard (documents : Nat → Doc) (host : Doc) (index : Nat) :
    Heard [] ((State.initial documents host).view index) := by
  constructor
  · intro update member
    cases member
  · intro update member
    cases member
  · intro update member
    cases member
  · exact List.Pairwise.nil

section Heard

variable {received : List Doc} {view next : View Doc}

/-- Growing documents and lost messages change nothing of this. -/
theorem Heard.mono (heard : Heard received view) (doc : view.client.doc ≤ next.client.doc)
    (host : view.host ≤ next.host) (coming : next.coming.Sublist view.coming) :
    Heard received next := by
  constructor
  · intro update member
    exact (heard.taken update member).trans doc
  · intro update member
    exact (heard.held update member).trans host
  · intro update member message comes
    exact heard.asked update member message (coming.subset comes)
  · exact heard.ordered.sublist coming

/-- A client takes an update it has, and which the host had when it asked. -/
theorem Heard.receive (heard : Heard received view) {update : Doc}
    (taken : update ≤ view.client.doc) (held : update ≤ view.host)
    (asked : ∀ message ∈ view.coming, ∀ known, message.message = .step1 known → update ≤ known) :
    Heard (received ++ [update]) view := by
  constructor
  · exact List.forall_mem_append.mpr ⟨heard.taken, List.forall_mem_singleton.mpr taken⟩
  · exact List.forall_mem_append.mpr ⟨heard.held, List.forall_mem_singleton.mpr held⟩
  · exact List.forall_mem_append.mpr ⟨heard.asked, List.forall_mem_singleton.mpr asked⟩
  · exact heard.ordered

/-- The host asks with all it has. -/
theorem Heard.hosted (heard : Heard received view)
    (coming : ∀ message ∈ view.coming, message.message.payload ≤ view.host)
    {taken hostInbox : List (ControlMessage Doc)} {host : Doc} {added : List (HostMessage Doc)}
    (speaks : HostSpeaks view.host taken host added) :
    Heard received { view with
      host := host, hostInbox := hostInbox, hostOutbox := view.hostOutbox ++ added } := by
  have queue : View.coming { view with
      host := host, hostInbox := hostInbox, hostOutbox := view.hostOutbox ++ added } =
        view.coming ++ added := by
    simp [View.coming]
  constructor
  · exact heard.taken
  · intro update member
    exact (heard.held update member).trans speaks.larger
  · intro update member message comes known asks
    rw [queue] at comes
    cases List.mem_append.mp comes with
    | inl before => exact heard.asked update member message before known asks
    | inr now => exact (heard.held update member).trans (speaks.asks message now known asks)
  · rw [queue]
    apply List.pairwise_append.mpr
    refine ⟨heard.ordered, ?_, ?_⟩
    · apply speaks.ordered.imp
      intro earlier later silent known asks
      exact absurd asks (silent known)
    · intro earlier before later now known asks
      have had := earlier.message.content_le.trans (coming earlier before)
      exact had.trans (speaks.asks later now known asks)

/-- What a client sends has no part of what it took before. -/
theorem Heard.apart [DecidableLE Doc] {index other : Nat} {outputs : List (Output Doc)}
    (heard : Heard received view) (move : Move index view next outputs)
    {message : ClientMessage Doc} (sent : .sent other message ∈ outputs) {update : Doc}
    (member : update ∈ received) : Disjoint update message.content := by
  cases move with
  | edit change =>
    have said := mem_sentBy sent
    simp only [Client.change, updateHandler, List.mem_flatMap, Option.mem_toList,
      reduceCtorEq, if_false, List.mem_singleton] at said
    obtain ⟨new, real, rfl⟩ := said
    unfold updateEvent at real
    split at real
    · cases real
    · cases real
      exact disjoint_missing (heard.taken update member)
  | resync =>
    obtain rfl := List.mem_singleton.mp (mem_sentBy sent)
    exact disjoint_bot_right
  | onopen connecting =>
    obtain ⟨greeting, said, same⟩ := List.mem_map.mp sent
    cases same
    rcases List.mem_cons.mp said with rfl | later
    · exact disjoint_bot_right
    · obtain rfl := List.mem_singleton.mp later
      exact disjoint_bot_right
  | receive taken rest inbox =>
    cases List.mem_append.mp sent with
    | inl took =>
      split at took
      · cases List.mem_singleton.mp took
      · cases took
    | inr answered =>
      obtain ⟨doc, -, -, -, answers⟩ :=
        onmessage_spec index { view.client with inbox := rest } taken
      obtain ⟨known, asks, rfl⟩ := answers message (mem_sentBy answered)
      have comes : taken ∈ view.coming := by simp [View.coming, inbox]
      exact disjoint_missing (heard.asked update member taken comes known asks)
  | still => cases sent
  | disconnected client doc outbox inbox closed unopened => cases sent
  | join rest outbox => cases sent
  | deliver type message rest outbox => cases sent
  | deliverOther control other => cases sent
  | relayHost message rest hostOutbox => cases sent
  | hosted taken hostInbox host added inbox speaks => cases sent

/-- A move in which the client takes nothing. -/
theorem Heard.quiet {outputs : List (Output Doc)} (heard : Heard received view)
    (none : receivedUpdates outputs = []) : Heard (received ++ receivedUpdates outputs) view := by
  rwa [none, List.append_nil]

/-- A move adds what the client takes to what it took. -/
theorem Heard.move [DecidableLE Doc] {index : Nat} {outputs : List (Output Doc)} (heard : Heard received view)
    (linked : Linked index view) (move : Move index view next outputs) :
    Heard (received ++ receivedUpdates outputs) next := by
  cases move with
  | still => exact heard.quiet rfl
  | edit change =>
    apply Heard.quiet _ (receivedUpdates_sentBy _ _ _)
    exact heard.mono le_sup_left le_rfl (List.Sublist.refl _)
  | resync =>
    apply Heard.quiet _ (receivedUpdates_sentBy _ _ _)
    exact heard.mono le_rfl le_rfl (List.Sublist.refl _)
  | disconnected client doc outbox inbox closed unopened =>
    apply Heard.quiet _ rfl
    exact heard.mono doc.ge le_rfl (List.Sublist.append_right inbox _)
  | onopen connecting =>
    have none : receivedUpdates (view.client.greeting.map (.sent index)) = [] := by
      simp [receivedUpdates]
    apply Heard.quiet _ none
    exact heard.mono le_rfl le_rfl (List.Sublist.refl _)
  | join rest outbox =>
    apply Heard.quiet _ rfl
    exact heard.mono le_rfl le_rfl (List.Sublist.refl _)
  | deliver type message rest outbox =>
    apply Heard.quiet _ rfl
    exact heard.mono le_rfl le_rfl (List.Sublist.refl _)
  | receive message rest inbox =>
    obtain ⟨doc, taken, larger, content, -⟩ :=
      onmessage_spec index { view.client with inbox := rest } message
    have queue : view.coming = message :: (rest ++ view.hostOutbox) := by
      simp [View.coming, inbox]
    have comes : message ∈ view.coming := by simp [queue]
    have ordered := heard.ordered
    rw [queue] at ordered
    have after : Heard received (view.posted
        ({ view.client with inbox := rest }.onmessage index message).1
        ({ view.client with inbox := rest }.onmessage index message).2) := by
      rw [taken]
      apply heard.mono
      · exact larger
      · exact le_rfl
      · rw [queue]
        exact List.sublist_cons_self _ _
    have received : receivedUpdates ((if message.addresses index then
        [.received index message.message] else []) ++ sentBy index view.client
          ({ view.client with inbox := rest }.onmessage index message).2) =
        if message.addresses index then [message.message.content] else [] := by
      rw [receivedUpdates_append, receivedUpdates_sentBy, List.append_nil]
      split
      · rfl
      · rfl
    rw [received]
    split
    · rename_i addressed
      rw [HostMessage.contentFor, if_pos addressed] at content
      apply after.receive
      · rw [taken]
        exact content
      · exact message.message.content_le.trans (linked.coming message comes)
      · rw [taken]
        intro later coming known asks
        exact (List.pairwise_cons.mp ordered).1 later coming known asks
    · rwa [List.append_nil]
  | deliverOther control other =>
    apply Heard.quiet _ rfl
    exact heard.mono le_rfl le_rfl (List.Sublist.refl _)
  | relayHost message rest hostOutbox =>
    apply Heard.quiet _ rfl
    cases joins : view.client.joined with
    | true =>
      apply heard.mono
      · exact le_rfl
      · exact le_rfl
      · simp [View.coming, hostOutbox]
    | false =>
      apply heard.mono
      · exact le_rfl
      · exact le_rfl
      · simp [View.coming, hostOutbox]
  | hosted taken hostInbox host added inbox speaks =>
    apply Heard.quiet _ rfl
    exact heard.hosted linked.coming speaks

end Heard

/-- A client never sends a part of what it took before. -/
def Unechoed (index : Nat) (outputs : List (Output Doc)) : Prop :=
  outputs.Pairwise (fun earlier later => ∀ taken sent, earlier = .received index taken →
    later = .sent index sent → Disjoint taken.content sent.content)

/-- Outputs without a message taken are in order. -/
theorem unechoed_of_sent {index : Nat} {outputs : List (Output Doc)}
    (sends : ∀ output ∈ outputs, ∀ taken, output ≠ .received index taken) :
    Unechoed index outputs := by
  apply List.pairwise_of_forall_mem_list
  intro earlier member later _ taken sent received
  exact absurd received (sends earlier member taken)

omit [UpdateDoc Doc] in
theorem sentBy_sends {index : Nat} {client : Client Doc} {messages : List (ClientMessage Doc)} :
    ∀ output ∈ sentBy index client messages, ∀ taken, output ≠ .received index taken := by
  intro output member taken received
  unfold sentBy at member
  split at member
  · obtain ⟨message, -, rfl⟩ := List.mem_map.mp member
    cases received
  · cases member

/-- In one step a client answers a step 1 only, which has no update to send back. -/
theorem Move.unechoed [DecidableLE Doc] {index : Nat} {view next : View Doc}
    {outputs : List (Output Doc)} (move : Move index view next outputs) :
    Unechoed index outputs := by
  cases move with
  | edit change => exact unechoed_of_sent sentBy_sends
  | resync => exact unechoed_of_sent sentBy_sends
  | onopen connecting =>
    apply unechoed_of_sent
    intro output member taken received
    obtain ⟨message, -, rfl⟩ := List.mem_map.mp member
    cases received
  | receive message rest inbox =>
    apply List.pairwise_append.mpr
    refine ⟨?_, unechoed_of_sent sentBy_sends, ?_⟩
    · split
      · exact List.pairwise_singleton _ _
      · exact List.Pairwise.nil
    · rintro earlier member later answered taken sent rfl rfl
      split at member
      · cases List.mem_singleton.mp member
        obtain ⟨doc, -, -, -, answers⟩ :=
          onmessage_spec index { view.client with inbox := rest } message
        obtain ⟨known, asks, -⟩ := answers sent (mem_sentBy answered)
        rw [asks]
        exact disjoint_bot_left
      · cases member
  | still => exact List.Pairwise.nil
  | disconnected client doc outbox inbox closed unopened => exact List.Pairwise.nil
  | join rest outbox => exact List.Pairwise.nil
  | deliver type message rest outbox => exact List.Pairwise.nil
  | deliverOther control other => exact List.Pairwise.nil
  | relayHost message rest hostOutbox => exact List.Pairwise.nil
  | hosted taken hostInbox host added inbox speaks => exact List.Pairwise.nil

/-! ## Runs -/

section Runs

variable [DecidableLE Doc]

/-- Every client is linked and remembers what it took, and sends nothing of it. -/
theorem run_heard (documents : Nat → Doc) (host : Doc) {events : List (Event Doc)}
    {state : State Doc} {outputs : List (Output Doc)}
    (ran : protocol.run (State.initial documents host) events = some (state, outputs))
    (index : Nat) :
    Linked index (state.view index) ∧
      Heard (receivedUpdates (ownOutputs index outputs)) (state.view index) ∧
      Unechoed index (ownOutputs index outputs) := by
  apply Machine.run_induction protocol (fun _ outputs state => Linked index (state.view index) ∧
    Heard (receivedUpdates (ownOutputs index outputs)) (state.view index) ∧
      Unechoed index (ownOutputs index outputs)) _ _ ran
  · refine ⟨initial_linked documents host index, initial_heard documents host index, ?_⟩
    exact List.Pairwise.nil
  · rintro before outputs state event next added - ⟨linked, heard, unechoed⟩ stepped
    have move := step_moves stepped index
    rw [ownOutputs_append]
    refine ⟨linked.move move, ?_, ?_⟩
    · rw [receivedUpdates_append]
      exact heard.move linked move
    · apply List.pairwise_append.mpr
      refine ⟨unechoed, move.unechoed, ?_⟩
      rintro earlier member later answered taken sent rfl rfl
      have took : taken.content ∈ receivedUpdates (ownOutputs index outputs) :=
        List.mem_filterMap.mpr ⟨_, member, rfl⟩
      exact heard.apart move answered took

/-- What a client takes other than a step 1 makes it send nothing. -/
theorem received_update_silent {state next : State Doc} {index : Nat}
    {outputs : List (Output Doc)}
    (stepped : protocol.step state (.clientReceives index) = some (next, outputs))
    {message : SyncMessage Doc} (taken : .received index message ∈ outputs)
    (tells : ∀ known, message ≠ .step1 known) (sent : ClientMessage Doc) :
    .sent index sent ∉ outputs := by
  intro answered
  have received : state.clientReceives index = some (next, outputs) := stepped
  cases inbox : (state.clients index).inbox with
  | nil => simp [State.clientReceives, inbox] at received
  | cons head rest =>
    obtain ⟨-, rfl⟩ := Prod.mk.inj (Option.some.inj
      ((clientReceives_cons inbox).symm.trans received))
    rw [post_outputs] at taken answered
    have same : message = head.message := by
      cases List.mem_append.mp taken with
      | inl here =>
        split at here
        · cases List.mem_singleton.mp here
          rfl
        · cases here
      | inr there => exact absurd rfl (sentBy_sends _ there message)
    cases List.mem_append.mp answered with
    | inl here =>
      split at here
      · cases List.mem_singleton.mp here
      · cases here
    | inr there =>
      obtain ⟨doc, -, -, -, answers⟩ :=
        onmessage_spec index { state.clients index with inbox := rest } head
      obtain ⟨known, asks, -⟩ := answers sent (mem_sentBy there)
      exact tells known (same.trans asks)

/-- In every run from any documents, the clients connected with nothing in flight have the
document of the host, no client sends a part of what it took before, and taking an update
makes a client send nothing. The Init of a connected client is then handled, since it is no
longer in flight. -/
theorem documents_converge (documents : Nat → Doc) (host : Doc) {events : List (Event Doc)}
    {state : State Doc} {outputs : List (Output Doc)}
    (ran : protocol.run (State.initial documents host) events = some (state, outputs)) :
    (state.Quiescent → ∀ index, (state.clients index).socket = .connected →
      (state.clients index).doc = state.host) ∧
    (∀ index, Unechoed index (ownOutputs index outputs)) ∧
    (∀ index next added, protocol.step state (.clientReceives index) = some (next, added) →
      ∀ message, .received index message ∈ added → (∀ known, message ≠ .step1 known) →
        ∀ sent, .sent index sent ∉ added) := by
  refine ⟨?_, ?_, ?_⟩
  · intro quiescent index connected
    obtain ⟨linked, -, -⟩ := run_heard documents host ran index
    exact linked.agrees quiescent connected
  · intro index
    obtain ⟨-, -, unechoed⟩ := run_heard documents host ran index
    exact unechoed
  · intro index next added stepped message taken tells sent
    exact received_update_silent stepped taken tells sent

/-- Two clients with documents of their own; the first edits, loses its socket with this
edit on it, edits again and returns. Every message is delivered. -/
def meeting : List (Event (Finset Nat)) :=
  [.start 0, .onopen 0, .start 1, .onopen 1, .edit 0 {4}, .relay 1, .relay 1, .relay 0,
    .relay 0, .onclose 0, .edit 0 {5}, .hostReceives, .relayHost, .relayHost, .start 0,
    .onopen 0, .relay 0, .relay 0, .clientReceives 1, .clientReceives 1, .relay 1,
    .hostReceives, .hostReceives, .hostReceives, .relayHost, .relayHost, .relayHost, .relayHost,
    .relayHost, .clientReceives 0, .clientReceives 0, .clientReceives 0, .clientReceives 0,
    .clientReceives 0, .clientReceives 1, .clientReceives 1, .clientReceives 1,
    .clientReceives 1, .clientReceives 1, .relay 0, .relay 0, .hostReceives, .hostReceives,
    .relayHost, .clientReceives 0, .clientReceives 1]

/-- The end of the meeting. -/
def metAt : Option (State (Finset Nat) × List (Output (Finset Nat))) :=
  protocol.run (State.initial (fun index => if index = 0 then {1} else {2, 3}) {9}) meeting

/-- Nothing happens to the other clients. -/
theorem metAt_others (index : Nat) : metAt.map (fun result =>
    ((result.1.clients (index + 2)).outbox, (result.1.clients (index + 2)).inbox)) =
      some ([], []) := by
  rfl

/-- Both clients of the meeting end with the updates of all three documents. -/
theorem documents_converge_meeting :
    ∃ state outputs, metAt = some (state, outputs) ∧
      (state.clients 0).doc = state.host ∧ (state.clients 1).doc = state.host ∧
      state.host = {1, 2, 3, 4, 5, 9} ∧ Unechoed 0 (ownOutputs 0 outputs) := by
  have completes : metAt.isSome = true := by decide +kernel
  have empty : metAt.all (fun result => result.1.hostInbox.isEmpty &&
      result.1.hostOutbox.isEmpty && (result.1.clients 0).outbox.isEmpty &&
      (result.1.clients 0).inbox.isEmpty && (result.1.clients 1).outbox.isEmpty &&
      (result.1.clients 1).inbox.isEmpty) = true := by decide +kernel
  have connected : metAt.all (fun result =>
      (result.1.clients 0).socket = .connected ∧ (result.1.clients 1).socket = .connected ∧
      result.1.host = {1, 2, 3, 4, 5, 9}) = true := by decide +kernel
  have others := metAt_others
  obtain ⟨⟨state, outputs⟩, ran⟩ := Option.isSome_iff_exists.mp completes
  rw [ran] at empty connected others
  simp only [Option.all_some, Bool.and_eq_true, List.isEmpty_iff, decide_eq_true_eq,
    Option.map_some, Option.some.injEq, Prod.mk.injEq] at empty connected others
  have quiescent : state.Quiescent := by
    constructor
    · intro index
      match index with
      | 0 => exact empty.1.1.1.2
      | 1 => exact empty.1.2
      | index + 2 => exact (others index).1
    · intro index
      match index with
      | 0 => exact empty.1.1.2
      | 1 => exact empty.2
      | index + 2 => exact (others index).2
    · exact empty.1.1.1.1.1
    · exact empty.1.1.1.1.2
  obtain ⟨agree, unechoed, -⟩ := documents_converge _ _ ran
  exact ⟨state, outputs, ran, agree quiescent 0 connected.1, agree quiescent 1 connected.2.1,
    connected.2.2, unechoed 0⟩

end Runs

end WebPubSub.Sync
