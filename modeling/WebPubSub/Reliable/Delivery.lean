import WebPubSub.Library.Machine
import WebPubSub.Library.Redelivery
import WebPubSub.Reliable.Messages

/-!
# Messages across reconnections

The client together with the service, as far as the specification of the subprotocol says what
the service does. It numbers the messages of a connection from one, starts a new connection with
the connected message, keeps a connection that is dropped, and after a recovery it sends what
was not acknowledged, perhaps with messages that were, and perhaps with a connected message.
A socket keeps the order, cuts messages into frames as it likes, and takes what is under way
with it when it ends. Acknowledgements are read by the service in any order, or never.

An attempt to connect that fails changes nothing. A recovery that is refused is one that
succeeds and ends with the status of a policy violation.
-/

namespace WebPubSub.Reliable

open Redelivery (numbered Underway)

/-! ## The system -/

/-- What the service keeps of a connection. -/
structure Connection where
  connectionId : Text
  reconnectionTokens : List Text
  log : List Body
  acknowledged : Nat

/-- The client, its connection, and what is under way on the socket in both directions. -/
structure System where
  client : Client
  connection : Option Connection
  down : List Sent
  up : List Nat

inductive Event where
  /-- A new connection is made. -/
  | opened (userId : Option Text) (connectionId reconnectionToken : Text)
  /-- A connection is recovered, from a position, and perhaps with another connected message. -/
  | recovered (position : Nat) (userId : Option Text) (again : Option Text)
  | post (body : Body)
  | notice (body : Body)
  /-- `Listen` reads the frames of a message. -/
  | listen (buffer : Bytes) (frames : List WebSocketReceiveResult)
  /-- The service reads an acknowledgement. -/
  | acknowledge (index : Nat)
  /-- `Listen` ends, for whatever reason. -/
  | drop (policyViolation : Bool)
  | handleReconnection
  | stop

namespace System

def initial : System := ⟨.initial, none, [], []⟩

def log (system : System) : List Body := (system.connection.map Connection.log).getD []

def acknowledged (system : System) : Nat := (system.connection.map Connection.acknowledged).getD 0

/-- What one turn of `Listen` leaves, and the texts that it hands over. -/
def afterListen (system : System) (down : List Sent) (turn : Client × Client.Outcome) :
    System × List Text :=
  match turn.2 with
  | .ended => ({ system with client := turn.1.endListen false, down := [] }, [])
  | .handled sequenceAck next =>
      ({ system with client := turn.1, down := down, up := system.up ++ sequenceAck.toList },
        next.toList)

end System

variable (written : Json → Text)

/-- The system, with the texts that the client hands over. -/
def machine : Machine System Event Text where
  step system event :=
    match event with
    | .opened userId connectionId reconnectionToken =>
        if system.client.phase = .created ∨ system.client.phase = .reconnecting .uri then
          some ({
            client := system.client.connected
            connection := some ⟨connectionId, [reconnectionToken], [], 0⟩
            down := [.connected userId connectionId reconnectionToken]
            up := [] }, [])
        else none
    | .recovered position userId again =>
        match system.client.phase, system.connection with
        | .reconnecting (.recovery connectionId reconnectionToken), some connection =>
            if connection.connectionId = connectionId ∧
                reconnectionToken ∈ connection.reconnectionTokens ∧
                position ≤ connection.acknowledged then
              some ({ system with
                client := system.client.connected
                connection := some { connection with
                  reconnectionTokens := connection.reconnectionTokens ++ again.toList }
                down := again.toList.map (Sent.connected userId connectionId) ++
                  ((numbered connection.log).drop position).map
                    (fun entry => .message entry.1 entry.2) }, [])
            else none
        | _, _ => none
    | .post body =>
        system.connection.map (fun connection =>
          ({ system with
            connection := some { connection with log := connection.log ++ [body] }
            down :=
              if system.client.phase = .listening then
                system.down ++ [.message body (connection.log.length + 1)]
              else system.down }, []))
    | .notice body =>
        if system.client.phase = .listening then
          some ({ system with down := system.down ++ [.notice body] }, [])
        else none
    | .listen buffer frames =>
        match system.client.phase, system.down with
        | .listening, sent :: down =>
            if Frames buffer frames sent.text then
              (system.client.listen written buffer frames).map (system.afterListen down)
            else none
        | _, _ => none
    | .acknowledge index =>
        match system.up[index]?, system.connection with
        | some sequenceId, some connection =>
            some ({ system with
              connection := some { connection with
                acknowledged := max connection.acknowledged sequenceId }
              up := system.up.eraseIdx index }, [])
        | _, _ => none
    | .drop policyViolation =>
        if system.client.phase = .listening then
          some ({ system with client := system.client.endListen policyViolation, down := [] }, [])
        else none
    | .handleReconnection =>
        if system.client.phase = .ended then
          some ({ system with client := system.client.handleReconnection }, [])
        else none
    | .stop => some ({ system with client := system.client.stop }, [])

/-! ## The invariant -/

namespace Client

/-- Two clients that have read the same. -/
structure Alike (client other : Client) : Prop where
  latestSequenceId : other.latestSequenceId = client.latestSequenceId
  initialized : other.initialized = client.initialized
  connectionId : other.connectionId = client.connectionId
  reconnectionToken : other.reconnectionToken = client.reconnectionToken

theorem alike_endListen (client : Client) (policyViolation : Bool) :
    client.Alike (client.endListen policyViolation) := ⟨rfl, rfl, rfl, rfl⟩

theorem alike_stop (client : Client) : client.Alike client.stop := ⟨rfl, rfl, rfl, rfl⟩

theorem alike_cancel (cache : List (Nat × Nat)) (client : Client) :
    client.Alike (cache.foldl (fun client entry => client.complete entry.2 .cancelled) client) := by
  induction cache generalizing client with
  | nil => exact ⟨rfl, rfl, rfl, rfl⟩
  | cons entry cache inductionHypothesis =>
    obtain ⟨latest, initialized, id, token⟩ :=
      inductionHypothesis (client.complete entry.2 .cancelled)
    exact ⟨latest, initialized, id, token⟩

theorem alike_handleReconnection (client : Client) : client.Alike client.handleReconnection := by
  obtain ⟨latest, initialized, id, token⟩ := alike_cancel client.cache client
  exact ⟨latest, initialized, id, token⟩

theorem Alike.buildReconnectionUri {client other : Client} (alike : client.Alike other) :
    other.buildReconnectionUri = client.buildReconnectionUri := by
  simp only [Client.buildReconnectionUri, alike.connectionId, alike.reconnectionToken]

end Client

namespace System

/-- What holds between the client, the service and the socket. -/
structure Consistent (system : System) : Prop where
  acknowledged : system.acknowledged ≤ system.client.latestSequenceId
  inside : system.client.latestSequenceId ≤ system.log.length
  waiting : ∀ sequenceId ∈ system.up, sequenceId ≤ system.client.latestSequenceId
  fresh : system.client.initialized = false → system.client.latestSequenceId = 0 ∧
    system.client.connectionId = none ∧ system.client.reconnectionToken = none
  known : system.client.initialized = true → ∃ connection, system.connection = some connection ∧
    system.client.connectionId = some connection.connectionId ∧
      ∃ token ∈ connection.reconnectionTokens, system.client.reconnectionToken = some token
  created : system.client.phase = .created → system.client.initialized = false
  target : ∀ target, system.client.phase = .reconnecting target →
    target = system.client.buildReconnectionUri
  started : system.client.phase = .listening → system.client.initialized = false →
    ∃ connection, system.connection = some connection ∧
      ∃ userId, ∃ token ∈ connection.reconnectionTokens, ∃ rest,
        system.down = .connected userId connection.connectionId token :: rest
  underway : system.client.phase = .listening →
    Underway system.log system.client.latestSequenceId (system.down.filterMap Sent.numbered?)

/-- The texts of the messages up to the number that the client has reached. -/
def taken (system : System) : List Text :=
  ((numbered system.log).take system.client.latestSequenceId).map
    (fun entry => (Sent.message entry.1 entry.2).text)

variable {system : System}

theorem consistent_initial : initial.Consistent where
  acknowledged := Nat.le_refl _
  inside := Nat.le_refl _
  waiting := fun _ listed => absurd listed List.not_mem_nil
  fresh := fun _ => ⟨rfl, rfl, rfl⟩
  known := fun known => absurd known (by decide)
  created := fun _ => rfl
  target := fun _ phase => absurd phase (by simp [initial, Client.initial])
  started := fun phase => absurd phase (by decide)
  underway := fun phase => absurd phase (by decide)

/-- A change of the client outside what it has read. Where it still listens, the same is under
way. -/
theorem Consistent.change (consistent : system.Consistent) {client : Client}
    (alike : system.client.Alike client) {down : List Sent}
    (created : client.phase = .created → system.client.phase = .created)
    (target : ∀ target, client.phase = .reconnecting target →
      target = system.client.buildReconnectionUri)
    (listening : client.phase = .listening →
      system.client.phase = .listening ∧ down = system.down) :
    ({ system with client := client, down := down } : System).Consistent where
  acknowledged := alike.latestSequenceId ▸ consistent.acknowledged
  inside := alike.latestSequenceId ▸ consistent.inside
  waiting := alike.latestSequenceId ▸ consistent.waiting
  fresh := by
    intro fresh
    obtain ⟨latest, id, token⟩ := consistent.fresh (alike.initialized ▸ fresh)
    exact ⟨alike.latestSequenceId.trans latest, alike.connectionId.trans id,
      alike.reconnectionToken.trans token⟩
  known := by
    intro known
    obtain ⟨connection, standing, id, token, listed, given⟩ :=
      consistent.known (alike.initialized ▸ known)
    exact ⟨connection, standing, alike.connectionId.trans id, token, listed,
      alike.reconnectionToken.trans given⟩
  created := fun phase => alike.initialized.trans (consistent.created (created phase))
  target := fun other phase => alike.buildReconnectionUri ▸ target other phase
  started := by
    intro phase fresh
    obtain ⟨before, rfl⟩ := listening phase
    exact consistent.started before (alike.initialized ▸ fresh)
  underway := by
    intro phase
    obtain ⟨before, rfl⟩ := listening phase
    exact alike.latestSequenceId ▸ consistent.underway before

/-- A change that leaves the phase. -/
theorem Consistent.keep (consistent : system.Consistent) {client : Client}
    (alike : system.client.Alike client) (phase : client.phase = system.client.phase) :
    ({ system with client := client } : System).Consistent :=
  consistent.change alike (fun created => phase ▸ created)
    (fun target reconnecting => consistent.target target (phase ▸ reconnecting))
    (fun listening => ⟨phase ▸ listening, rfl⟩)

/-- The end of `Listen`. -/
theorem Consistent.drop (consistent : system.Consistent) (policyViolation : Bool) :
    ({ system with client := system.client.endListen policyViolation, down := [] } :
      System).Consistent :=
  consistent.change (system.client.alike_endListen policyViolation)
    (fun created => absurd created (by simp [Client.endListen]))
    (fun _ reconnecting => absurd reconnecting (by simp [Client.endListen]))
    (fun listening => absurd listening (by simp [Client.endListen]))

theorem Consistent.handleReconnection (consistent : system.Consistent) :
    ({ system with client := system.client.handleReconnection } : System).Consistent := by
  have shape : system.client.handleReconnection.phase =
      if system.client.disableReconnection then .finished
      else .reconnecting system.client.buildReconnectionUri := rfl
  refine consistent.change system.client.alike_handleReconnection ?_ ?_ ?_
  · intro created
    rw [shape] at created
    split at created <;> cases created
  · intro target reconnecting
    rw [shape] at reconnecting
    split at reconnecting
    · cases reconnecting
    · exact (Phase.reconnecting.inj reconnecting).symm
  · intro listening
    rw [shape] at listening
    split at listening <;> cases listening

/-- A client that has read the connected message reconnects by recovering. -/
theorem Consistent.fresh_of_uri (consistent : system.Consistent)
    (uri : system.client.buildReconnectionUri = .uri) : system.client.initialized = false := by
  cases initialized : system.client.initialized with
  | false => rfl
  | true =>
    obtain ⟨connection, -, id, token, -, given⟩ := consistent.known initialized
    rw [Client.buildReconnectionUri, id, given] at uri
    cases uri

theorem Consistent.initialized_of_recovery (consistent : system.Consistent) {id token : Text}
    (recovery : system.client.buildReconnectionUri = .recovery id token) :
    system.client.initialized = true := by
  cases initialized : system.client.initialized with
  | true => rfl
  | false =>
    obtain ⟨-, id, -⟩ := consistent.fresh initialized
    rw [Client.buildReconnectionUri, id] at recovery
    cases recovery

theorem Consistent.opened (consistent : system.Consistent)
    (fresh : system.client.initialized = false) (userId : Option Text)
    (connectionId reconnectionToken : Text) :
    ({ client := system.client.connected
       connection := some ⟨connectionId, [reconnectionToken], [], 0⟩
       down := [.connected userId connectionId reconnectionToken]
       up := [] } : System).Consistent := by
  obtain ⟨latest, id, token⟩ := consistent.fresh fresh
  have none : system.client.connected.latestSequenceId = 0 := latest
  exact {
    acknowledged := Nat.zero_le _
    inside := none.le
    waiting := fun _ listed => absurd listed List.not_mem_nil
    fresh := fun _ => ⟨none, id, token⟩
    known := fun known => absurd (fresh.symm.trans known) (by decide)
    created := fun phase => absurd phase (by simp [Client.connected])
    target := fun _ phase => absurd phase (by simp [Client.connected])
    started := fun _ _ =>
      ⟨_, rfl, userId, reconnectionToken, List.mem_singleton.mpr rfl, [], rfl⟩
    underway := by
      intro _
      show Underway [] system.client.connected.latestSequenceId []
      exact ⟨0, Nat.zero_le _, rfl⟩ }

/-- The messages that are sent again. -/
theorem filterMap_resent (again : List Sent) (noted : again.filterMap Sent.numbered? = [])
    (entries : List (Body × Nat)) :
    (again ++ entries.map (fun entry => Sent.message entry.1 entry.2)).filterMap Sent.numbered? =
      entries := by
  rw [List.filterMap_append, noted, List.filterMap_map]
  exact List.filterMap_some

theorem Consistent.recovered (consistent : system.Consistent)
    (initialized : system.client.initialized = true) {connection : Connection}
    (standing : system.connection = some connection) {position : Nat}
    (behind : position ≤ connection.acknowledged) (userId again : Option Text) (id : Text) :
    ({ system with
       client := system.client.connected
       connection := some { connection with
         reconnectionTokens := connection.reconnectionTokens ++ again.toList }
       down := again.toList.map (Sent.connected userId id) ++
         ((numbered connection.log).drop position).map
           (fun entry => .message entry.1 entry.2) } : System).Consistent := by
  have acknowledged : connection.acknowledged ≤ system.client.latestSequenceId := by
    simpa [System.acknowledged, standing] using consistent.acknowledged
  have inside : system.client.latestSequenceId ≤ connection.log.length := by
    simpa [System.log, standing] using consistent.inside
  obtain ⟨known, found, idGiven, token, listed, tokenGiven⟩ := consistent.known initialized
  obtain rfl : known = connection := Option.some.inj (found.symm.trans standing)
  exact {
    acknowledged := acknowledged
    inside := inside
    waiting := consistent.waiting
    fresh := fun fresh => absurd (fresh.symm.trans initialized) (by decide)
    known := fun _ => ⟨_, rfl, idGiven, token, List.mem_append_left _ listed, tokenGiven⟩
    created := fun phase => absurd phase (by simp [Client.connected])
    target := fun _ phase => absurd phase (by simp [Client.connected])
    started := fun _ fresh => absurd (fresh.symm.trans initialized) (by decide)
    underway := by
      intro _
      rw [filterMap_resent _ (by cases again <;> rfl)]
      exact Underway.start (behind.trans acknowledged) }

theorem Consistent.post (consistent : system.Consistent) {connection : Connection}
    (standing : system.connection = some connection) (body : Body) :
    ({ system with
       connection := some { connection with log := connection.log ++ [body] }
       down :=
         if system.client.phase = .listening then
           system.down ++ [.message body (connection.log.length + 1)]
         else system.down } : System).Consistent := by
  have inside : system.client.latestSequenceId ≤ connection.log.length := by
    simpa [System.log, standing] using consistent.inside
  exact {
    acknowledged := by simpa [System.acknowledged, standing] using consistent.acknowledged
    inside := by
      simp only [System.log, Option.map_some, Option.getD_some, List.length_append,
        List.length_singleton]
      omega
    waiting := consistent.waiting
    fresh := consistent.fresh
    known := by
      intro initialized
      obtain ⟨known, found, given⟩ := consistent.known initialized
      obtain rfl : known = connection := Option.some.inj (found.symm.trans standing)
      exact ⟨_, rfl, given⟩
    created := consistent.created
    target := consistent.target
    started := by
      intro phase fresh
      obtain ⟨known, found, userId, token, listed, rest, down⟩ := consistent.started phase fresh
      obtain rfl : known = connection := Option.some.inj (found.symm.trans standing)
      exact ⟨_, rfl, userId, token, listed, _, (if_pos phase).trans (by rw [down]; rfl)⟩
    underway := by
      intro phase
      have underway := consistent.underway phase
      simp only [System.log, standing, Option.map_some, Option.getD_some] at underway
      have sent := underway.post inside body
      simpa [System.log, if_pos phase, Sent.numbered?] using sent }

theorem Consistent.notice (consistent : system.Consistent) (body : Body) :
    ({ system with down := system.down ++ [.notice body] } : System).Consistent where
  acknowledged := consistent.acknowledged
  inside := consistent.inside
  waiting := consistent.waiting
  fresh := consistent.fresh
  known := consistent.known
  created := consistent.created
  target := consistent.target
  started := by
    intro phase fresh
    obtain ⟨connection, standing, userId, token, listed, rest, down⟩ :=
      consistent.started phase fresh
    refine ⟨connection, standing, userId, token, listed, rest ++ [.notice body], ?_⟩
    show system.down ++ [.notice body] = _
    rw [down]
    rfl
  underway := by
    intro phase
    have unnumbered : [Sent.notice body].filterMap Sent.numbered? = [] := rfl
    show Underway _ _ ((system.down ++ [Sent.notice body]).filterMap Sent.numbered?)
    rw [List.filterMap_append, unnumbered, List.append_nil]
    exact consistent.underway phase

theorem Consistent.acknowledge (consistent : system.Consistent) {connection : Connection}
    (standing : system.connection = some connection) {index sequenceId : Nat}
    (waits : system.up[index]? = some sequenceId) :
    ({ system with
       connection := some { connection with
         acknowledged := max connection.acknowledged sequenceId }
       up := system.up.eraseIdx index } : System).Consistent := by
  have known (initialized : system.client.initialized = true) :
      system.client.connectionId = some connection.connectionId ∧
        ∃ token ∈ connection.reconnectionTokens,
          system.client.reconnectionToken = some token := by
    obtain ⟨known, found, given⟩ := consistent.known initialized
    obtain rfl : known = connection := Option.some.inj (found.symm.trans standing)
    exact given
  exact {
    acknowledged := by
      have before : connection.acknowledged ≤ system.client.latestSequenceId := by
        simpa [System.acknowledged, standing] using consistent.acknowledged
      exact Nat.max_le.mpr ⟨before, consistent.waiting _ (List.mem_of_getElem? waits)⟩
    inside := by simpa [System.log, standing] using consistent.inside
    waiting := fun _ listed => consistent.waiting _ (List.mem_of_mem_eraseIdx listed)
    fresh := consistent.fresh
    known := fun initialized => ⟨_, rfl, known initialized⟩
    created := consistent.created
    target := consistent.target
    started := by
      intro phase fresh
      obtain ⟨other, found, userId, token, listed, rest, down⟩ := consistent.started phase fresh
      obtain rfl : other = connection := Option.some.inj (found.symm.trans standing)
      exact ⟨_, rfl, userId, token, listed, rest, down⟩
    underway := by simpa [System.log, standing] using consistent.underway }

/-- The first message of a connection. -/
theorem Consistent.listen_connected (consistent : system.Consistent)
    (listening : system.client.phase = .listening) (fresh : system.client.initialized = false)
    {sent : Sent} {down : List Sent} (head : system.down = sent :: down) :
    (system.afterListen down (system.client.handle written sent.text)).1.Consistent ∧
      (system.afterListen down (system.client.handle written sent.text)).1.taken =
        system.taken ++
          (system.afterListen down (system.client.handle written sent.text)).2.filter
            isNumbered := by
  obtain ⟨connection, standing, userId, token, listed, rest, shape⟩ :=
    consistent.started listening fresh
  obtain ⟨rfl, rfl⟩ := List.cons.inj (head.symm.trans shape)
  have silent : isNumbered (Sent.connected userId connection.connectionId token).text = false :=
    Sent.isNumbered_text _
  rw [Client.handle_connected fresh]
  constructor
  · exact {
      acknowledged := consistent.acknowledged
      inside := consistent.inside
      waiting := by
        intro sequenceId waits
        exact consistent.waiting sequenceId (by simpa [afterListen] using waits)
      fresh := fun fresh => absurd fresh (by simp [afterListen])
      known := fun _ => ⟨connection, standing, rfl, token, listed, rfl⟩
      created := fun phase => absurd (phase.symm.trans listening) (by decide)
      target := fun _ phase => absurd (phase.symm.trans listening) (by simp)
      started := fun _ fresh => absurd fresh (by simp [afterListen])
      underway := by
        intro _
        have underway := consistent.underway listening
        rw [head] at underway
        exact underway }
  · simp [afterListen, silent, taken, log]

/-- A message that is not new was read. -/
theorem Consistent.read (consistent : system.Consistent)
    (known : system.client.initialized = true) {down : List Sent} {up : List Nat}
    (waiting : ∀ sequenceId ∈ up, sequenceId ≤ system.client.latestSequenceId)
    (underway : Underway system.log system.client.latestSequenceId
      (down.filterMap Sent.numbered?)) :
    ({ system with down := down, up := up } : System).Consistent :=
  { consistent with
    waiting := waiting
    started := fun _ fresh => absurd (fresh.symm.trans known) (by decide)
    underway := fun _ => underway }

/-- The client reads the first message that it was not handed. -/
theorem Consistent.take (consistent : system.Consistent)
    (listening : system.client.phase = .listening) (known : system.client.initialized = true)
    {down : List Sent} {sequenceId : Nat} (later : system.client.latestSequenceId < sequenceId)
    (inside : sequenceId ≤ system.log.length)
    (underway : Underway system.log sequenceId (down.filterMap Sent.numbered?)) :
    ({ system with
       client := { system.client with latestSequenceId := sequenceId }
       down := down
       up := system.up ++ [sequenceId] } : System).Consistent where
  acknowledged := consistent.acknowledged.trans later.le
  inside := inside
  waiting := by
    intro other waits
    rcases List.mem_append.mp waits with before | same
    · exact (consistent.waiting other before).trans later.le
    · exact (List.mem_singleton.mp same).le
  fresh fresh := absurd (fresh.symm.trans known) (by decide)
  known := consistent.known
  created phase := absurd (phase.symm.trans listening) (by decide)
  target _ phase := absurd (phase.symm.trans listening) (by simp)
  started _ fresh := absurd (fresh.symm.trans known) (by decide)
  underway _ := underway

/-- A later message. -/
theorem Consistent.listen_known (consistent : system.Consistent)
    (listening : system.client.phase = .listening) (known : system.client.initialized = true)
    {sent : Sent} {down : List Sent} (head : system.down = sent :: down) :
    (system.afterListen down (system.client.handle written sent.text)).1.Consistent ∧
      (system.afterListen down (system.client.handle written sent.text)).1.taken =
        system.taken ++
          (system.afterListen down (system.client.handle written sent.text)).2.filter
            isNumbered := by
  have underway := consistent.underway listening
  have numbers := sent.isNumbered_text
  rw [Client.handle_sent known]
  rw [head, List.filterMap_cons] at underway
  cases numbering : sent.numbered? with
  | none =>
    rw [numbering] at underway numbers
    have silent : isNumbered sent.text = false := numbers
    constructor
    · refine consistent.read known (fun sequenceId waits => ?_) underway
      exact consistent.waiting sequenceId (by simpa [afterListen] using waits)
    · simp [afterListen, silent, taken, log]
  | some entry =>
    obtain ⟨body, sequenceId⟩ := entry
    rw [numbering] at underway numbers
    have loud : isNumbered sent.text = true := numbers
    obtain ⟨continues, within, first⟩ := underway.next
    obtain rfl : sent = .message body sequenceId := by
      cases sent with
      | message other number =>
        obtain ⟨rfl, rfl⟩ := Prod.mk.inj (Option.some.inj numbering)
        rfl
      | connected userId id token => cases numbering
      | notice other => cases numbering
    by_cases small : sequenceId < ulongSize
    · by_cases later : system.client.latestSequenceId < sequenceId
      · obtain ⟨next, here⟩ := first later
        simp only [if_pos small, if_pos later]
        constructor
        · rw [Nat.max_eq_right later.le] at continues
          exact consistent.take listening known later within continues
        · have grown := Redelivery.take_next here
          rw [← next] at grown
          show ((numbered system.log).take sequenceId).map _ = _
          rw [grown]
          simp [afterListen, loud, taken]
      · simp only [if_pos small, if_neg later]
        constructor
        · rw [Nat.max_eq_left (Nat.not_lt.mp later)] at continues
          refine consistent.read known (fun other waits => ?_) continues
          rcases List.mem_append.mp waits with before | same
          · exact consistent.waiting other before
          · exact (List.mem_singleton.mp same).le
        · simp [afterListen, taken, log]
    · simp only [if_neg small]
      constructor
      · exact consistent.drop false
      · simp [afterListen, taken, log, Client.endListen]

end System

variable {written} {system next : System} {event : Event} {added : List Text}

/-- What `Listen` reads is the first message that is under way. -/
theorem step_listen {buffer : Bytes} {frames : List WebSocketReceiveResult}
    (stepped : (machine written).step system (.listen buffer frames) = some (next, added)) :
    ∃ sent down, system.client.phase = .listening ∧ system.down = sent :: down ∧
      system.afterListen down (system.client.handle written sent.text) = (next, added) := by
  simp only [machine] at stepped
  split at stepped
  · rename_i sent down listening head
    obtain ⟨cut, moved⟩ := Option.ite_none_right_eq_some.mp stepped
    rw [Client.listen_frames cut, Option.map_some] at moved
    exact ⟨sent, down, listening, head, Option.some.inj moved⟩
  · cases stepped

/-- One step keeps the invariant, and hands over the numbered messages that the client has
newly reached. -/
theorem step_taken (consistent : system.Consistent)
    (stepped : (machine written).step system event = some (next, added)) :
    next.Consistent ∧ next.taken = system.taken ++ added.filter isNumbered := by
  cases event with
  | opened userId connectionId reconnectionToken =>
    obtain ⟨allowed, moved⟩ := Option.ite_none_right_eq_some.mp stepped
    obtain ⟨rfl, rfl⟩ := Prod.mk.inj (Option.some.inj moved)
    have fresh : system.client.initialized = false := by
      rcases allowed with created | reconnecting
      · exact consistent.created created
      · exact consistent.fresh_of_uri (consistent.target _ reconnecting).symm
    have none : system.client.latestSequenceId = 0 := (consistent.fresh fresh).1
    refine ⟨consistent.opened fresh userId connectionId reconnectionToken, ?_⟩
    simp [System.taken, none, Client.connected]
  | recovered position userId again =>
    simp only [machine] at stepped
    split at stepped
    · rename_i connectionId reconnectionToken connection phase standing
      obtain ⟨⟨-, -, behind⟩, moved⟩ := Option.ite_none_right_eq_some.mp stepped
      obtain ⟨rfl, rfl⟩ := Prod.mk.inj (Option.some.inj moved)
      have known : system.client.initialized = true :=
        consistent.initialized_of_recovery (consistent.target _ phase).symm
      refine ⟨consistent.recovered known standing behind userId again connectionId, ?_⟩
      simp [System.taken, System.log, standing, Client.connected]
    · cases stepped
  | post body =>
    obtain ⟨connection, standing, moved⟩ := Option.map_eq_some_iff.mp stepped
    obtain ⟨rfl, rfl⟩ := Prod.mk.inj moved
    have inside : system.client.latestSequenceId ≤ connection.log.length := by
      simpa [System.log, standing] using consistent.inside
    refine ⟨consistent.post standing body, ?_⟩
    simp [System.taken, System.log, standing, Redelivery.take_append inside]
  | notice body =>
    obtain ⟨-, moved⟩ := Option.ite_none_right_eq_some.mp stepped
    obtain ⟨rfl, rfl⟩ := Prod.mk.inj (Option.some.inj moved)
    exact ⟨consistent.notice body, by simp [System.taken, System.log]⟩
  | listen buffer frames =>
    obtain ⟨sent, down, listening, head, after⟩ := step_listen stepped
    cases initialized : system.client.initialized with
    | false =>
      have result := consistent.listen_connected written listening initialized head
      rwa [after] at result
    | true =>
      have result := consistent.listen_known written listening initialized head
      rwa [after] at result
  | acknowledge index =>
    simp only [machine] at stepped
    split at stepped
    · rename_i sequenceId connection waits standing
      obtain ⟨rfl, rfl⟩ := Prod.mk.inj (Option.some.inj stepped)
      exact ⟨consistent.acknowledge standing waits, by simp [System.taken, System.log, standing]⟩
    · cases stepped
  | drop policyViolation =>
    obtain ⟨-, moved⟩ := Option.ite_none_right_eq_some.mp stepped
    obtain ⟨rfl, rfl⟩ := Prod.mk.inj (Option.some.inj moved)
    exact ⟨consistent.drop policyViolation, by simp [System.taken, System.log, Client.endListen]⟩
  | handleReconnection =>
    obtain ⟨-, moved⟩ := Option.ite_none_right_eq_some.mp stepped
    obtain ⟨rfl, rfl⟩ := Prod.mk.inj (Option.some.inj moved)
    have alike := system.client.alike_handleReconnection
    exact ⟨consistent.handleReconnection,
      by simp [System.taken, System.log, alike.latestSequenceId]⟩
  | stop =>
    obtain ⟨rfl, rfl⟩ := Prod.mk.inj (Option.some.inj stepped)
    exact ⟨consistent.keep system.client.alike_stop rfl,
      by simp [System.taken, System.log, Client.stop]⟩

theorem run_taken {events : List Event} {received : List Text}
    (ran : (machine written).run .initial events = some (system, received)) :
    system.Consistent ∧ received.filter isNumbered = system.taken :=
  Machine.run_induction (machine written)
    (fun _ received system => system.Consistent ∧ received.filter isNumbered = system.taken)
    ⟨System.consistent_initial, rfl⟩
    (fun _ outputs system _ next added _ held stepped => by
      obtain ⟨consistent, grown⟩ := step_taken held.1 stepped
      exact ⟨consistent, by rw [List.filter_append, held.2, grown]⟩)
    ran

/-- Whatever is dropped, recovered and sent again, the numbered messages that were handed over
are the messages of the connection up to some number, each once and in order. The service has
discarded none that was not handed over, and when nothing is under way on a socket none is
missing. -/
theorem received_once {events : List Event} {received : List Text}
    (ran : (machine written).run .initial events = some (system, received)) :
    received.filter isNumbered =
        ((numbered system.log).take system.client.latestSequenceId).map
          (fun entry => (Sent.message entry.1 entry.2).text) ∧
      system.acknowledged ≤ system.client.latestSequenceId ∧
      system.client.latestSequenceId ≤ system.log.length ∧
      (system.client.phase = .listening → system.down = [] →
        system.client.latestSequenceId = system.log.length) := by
  obtain ⟨consistent, shown⟩ := run_taken ran
  refine ⟨shown, consistent.acknowledged, consistent.inside, ?_⟩
  intro listening quiet
  have underway := consistent.underway listening
  rw [quiet] at underway
  exact Nat.le_antisymm consistent.inside underway.done

/-- A message in one frame. -/
def Sent.whole (sent : Sent) : List WebSocketReceiveResult := [⟨Utf8.encode sent.text, .text, true⟩]

/-- The second of two messages is lost, and after a recovery the first is sent again. -/
def resending : List Event :=
  let body : Body := ⟨[("data".toList, .string "x".toList)], rfl, by decide, by decide⟩
  let read (sent : Sent) : Event := .listen (Utf8.encode sent.text) sent.whole
  [.opened none "c".toList "t".toList, read (.connected none "c".toList "t".toList), .post body,
    .post body, read (.message body 1), .drop false, .handleReconnection, .recovered 0 none none,
    read (.message body 1), .acknowledge 0, .drop false]

theorem received_once_resending :
    ∃ system received, (machine Json.stringify).run .initial resending = some (system, received) ∧
      received.filter isNumbered =
          ((numbered system.log).take system.client.latestSequenceId).map
            (fun entry => (Sent.message entry.1 entry.2).text) ∧
        system.acknowledged ≤ system.client.latestSequenceId ∧
        system.client.latestSequenceId ≤ system.log.length ∧
        (system.client.phase = .listening → system.down = [] →
          system.client.latestSequenceId = system.log.length) := by
  have completed : ((machine Json.stringify).run .initial resending).isSome = true := by
    decide +kernel
  obtain ⟨⟨system, received⟩, ran⟩ := Option.isSome_iff_exists.mp completed
  exact ⟨system, received, ran, received_once ran⟩

/-! ## Catching up -/

/-- The socket is open and `Stop` has not disposed it, or a connection that the client knows can
be recovered. -/
def System.Live (system : System) : Prop :=
  (system.client.phase = .listening ∧ system.client.disableReconnection = false) ∨
    system.client.initialized = true ∧
      ((∃ target, system.client.phase = .reconnecting target) ∨
        system.client.phase = .ended ∧ system.client.disableReconnection = false)

/-- One message is read and handled. -/
theorem listen_next (consistent : system.Consistent)
    (listening : system.client.phase = .listening) (small : system.log.length < ulongSize)
    {sent : Sent} {down : List Sent} (head : system.down = sent :: down) :
    ∃ event next added, (machine written).step system event = some (next, added) ∧
      next.client.phase = .listening ∧ next.down = down ∧ next.log = system.log := by
  have bytes : sent.whole.flatMap WebSocketReceiveResult.written = Utf8.encode sent.text :=
    List.append_nil _
  have cut : Frames (Utf8.encode sent.text) sent.whole sent.text :=
    ⟨bytes, rfl, by simp [Sent.whole]⟩
  have step : (machine written).step system (.listen (Utf8.encode sent.text) sent.whole) =
      some (system.afterListen down (system.client.handle written sent.text)) := by
    simp only [machine, listening, head, if_pos cut, Client.listen_frames cut, Option.map_some]
  refine ⟨_, _, _, step, ?_⟩
  cases initialized : system.client.initialized with
  | false =>
    obtain ⟨connection, -, userId, token, -, rest, shape⟩ :=
      consistent.started listening initialized
    obtain ⟨rfl, rfl⟩ := List.cons.inj (head.symm.trans shape)
    rw [Client.handle_connected initialized]
    exact ⟨listening, rfl, rfl⟩
  | true =>
    rw [Client.handle_sent initialized]
    cases numbering : sent.numbered? with
    | none => exact ⟨listening, rfl, rfl⟩
    | some entry =>
      have underway := consistent.underway listening
      rw [head, List.filterMap_cons, numbering] at underway
      have within : entry.2 ≤ system.log.length := underway.next.2.1
      simp only [if_pos (within.trans_lt small)]
      by_cases later : system.client.latestSequenceId < entry.2
      · rw [if_pos later]
        exact ⟨listening, rfl, rfl⟩
      · rw [if_neg later]
        exact ⟨listening, rfl, rfl⟩

theorem run_step {final : System} {events : List Event} {more : List Text}
    (stepped : (machine written).step system event = some (next, added))
    (ran : (machine written).run next events = some (final, more)) :
    (machine written).run system (event :: events) = some (final, added ++ more) :=
  Machine.run_append_of_run _ (Machine.run_single _ stepped) ran

/-- What is under way is read, one message after another. -/
theorem listen_all (consistent : system.Consistent)
    (listening : system.client.phase = .listening) (small : system.log.length < ulongSize) :
    ∃ events final added, (machine written).run system events = some (final, added) ∧
      final.log = system.log ∧ final.client.latestSequenceId = system.log.length := by
  generalize under : system.down = down
  induction down generalizing system with
  | nil =>
    have underway := consistent.underway listening
    rw [under] at underway
    exact ⟨[], system, [], rfl, rfl, Nat.le_antisymm consistent.inside underway.done⟩
  | cons sent down inductionHypothesis =>
    obtain ⟨event, next, added, stepped, still, rest, log⟩ :=
      listen_next consistent listening small under
    obtain ⟨events, final, more, ran, kept, reached⟩ :=
      inductionHypothesis (step_taken consistent stepped).1 still (log ▸ small) rest
    exact ⟨event :: events, final, added ++ more, run_step stepped ran,
      kept.trans log, reached.trans (congrArg List.length log)⟩

/-- A connection that the client knows is recovered. -/
theorem recover (consistent : system.Consistent) (known : system.client.initialized = true)
    {target : Target} (reconnecting : system.client.phase = .reconnecting target) :
    ∃ event next added, (machine written).step system event = some (next, added) ∧
      next.client.phase = .listening ∧ next.log = system.log := by
  obtain ⟨connection, standing, id, token, listed, given⟩ := consistent.known known
  have recovery : target = .recovery connection.connectionId token := by
    rw [consistent.target target reconnecting, Client.buildReconnectionUri, id, given]
  have accepted :
      True ∧ token ∈ connection.reconnectionTokens ∧ 0 ≤ connection.acknowledged :=
    ⟨trivial, listed, Nat.zero_le _⟩
  have stepped : (machine written).step system (.recovered 0 none none) = some ({ system with
      client := system.client.connected
      connection := some { connection with
        reconnectionTokens := connection.reconnectionTokens ++ [] }
      down := ((numbered connection.log).drop 0).map
        (fun entry => .message entry.1 entry.2) }, []) := by
    simp only [machine, reconnecting, recovery, standing]
    exact if_pos accepted
  exact ⟨_, _, _, stepped, rfl, by simp [System.log, standing]⟩

/-- The client reconnects and reads what is sent again. -/
theorem catch_up_reconnecting (consistent : system.Consistent)
    (known : system.client.initialized = true) {target : Target}
    (reconnecting : system.client.phase = .reconnecting target)
    (small : system.log.length < ulongSize) :
    ∃ later final added, (machine written).run system later = some (final, added) ∧
      final.log = system.log ∧ final.client.latestSequenceId = system.log.length := by
  obtain ⟨event, next, added, stepped, listening, same⟩ := recover consistent known reconnecting
  obtain ⟨later, final, more, continued, kept, reached⟩ :=
    listen_all (step_taken consistent stepped).1 listening (same ▸ small)
  exact ⟨event :: later, final, added ++ more, run_step stepped continued,
    kept.trans same, reached.trans (congrArg List.length same)⟩

/-- A system that is live reaches the end of its log. -/
theorem catch_up (consistent : system.Consistent) (live : system.Live)
    (small : system.log.length < ulongSize) :
    ∃ later final added, (machine written).run system later = some (final, added) ∧
      final.log = system.log ∧ final.client.latestSequenceId = system.log.length := by
  rcases live with ⟨listening, -⟩ | ⟨known, ⟨target, reconnecting⟩ | ⟨ended, enabled⟩⟩
  · exact listen_all consistent listening small
  · exact catch_up_reconnecting consistent known reconnecting small
  · have stepped : (machine written).step system .handleReconnection =
        some ({ system with client := system.client.handleReconnection }, []) := if_pos ended
    have remembered : system.client.handleReconnection.initialized = true :=
      system.client.alike_handleReconnection.initialized.trans known
    have reconnecting : system.client.handleReconnection.phase =
        .reconnecting system.client.buildReconnectionUri := by
      simp [Client.handleReconnection, enabled]
    obtain ⟨later, final, added, continued, kept, reached⟩ :=
      catch_up_reconnecting (step_taken consistent stepped).1 remembered reconnecting small
    exact ⟨.handleReconnection :: later, final, [] ++ added, run_step stepped continued,
      kept, reached⟩

/-- From every reachable system that is live, the client can still be handed every message of
the log, and by then it was handed each exactly once. -/
theorem received_all {events : List Event} {received : List Text}
    (ran : (machine written).run .initial events = some (system, received)) (live : system.Live)
    (small : system.log.length < ulongSize) :
    ∃ later final added, (machine written).run system later = some (final, added) ∧
      final.log = system.log ∧
      (received ++ added).filter isNumbered =
        (numbered system.log).map (fun entry => (Sent.message entry.1 entry.2).text) := by
  obtain ⟨later, final, added, continued, kept, reached⟩ :=
    catch_up (run_taken ran).1 live small
  refine ⟨later, final, added, continued, kept, ?_⟩
  rw [(run_taken (Machine.run_append_of_run _ ran continued)).2, System.taken, kept, reached,
    List.take_of_length_le (Redelivery.length_numbered _).le]

theorem received_all_resending :
    ∃ system received, (machine Json.stringify).run .initial resending = some (system, received) ∧
      ∃ later final added, (machine Json.stringify).run system later = some (final, added) ∧
        final.log = system.log ∧
        (received ++ added).filter isNumbered =
          (numbered system.log).map (fun entry => (Sent.message entry.1 entry.2).text) := by
  have completed : ((machine Json.stringify).run .initial resending).any (fun reached =>
      reached.1.client.phase = .ended ∧ reached.1.client.initialized = true ∧
        reached.1.client.disableReconnection = false ∧
          reached.1.log.length < ulongSize) = true := by
    decide +kernel
  obtain ⟨⟨system, received⟩, ran, standing⟩ := (Option.any_eq_true _ _).mp completed
  obtain ⟨ended, known, enabled, small⟩ := of_decide_eq_true standing
  exact ⟨system, received, ran, received_all ran (Or.inr ⟨known, Or.inr ⟨ended, enabled⟩⟩) small⟩

end WebPubSub.Reliable
