import WebPubSub.Library.Replay
import WebPubSub.Traffic.View

/-!
# The traffic view agrees with the table

From the read of the snapshot on, the snapshot brought up to date with the changes made since
is the table. The browser replays what is emitted after the answer, so nothing is lost and
nothing is taken twice as long as the answer falls between the messages of the changes before
its read and those after it, the messages come in the order of the changes wherever this order
matters, and no change that matters is handled between the arrival of the answer and its
assignment.
-/

namespace WebPubSub.Traffic

/-- The rows the browser is to show: all but those the snapshot had no room for. -/
def State.shown (state : State) : List HttpHistoryItem :=
  (state.repo.rows.filter (fun row => row.id ∉ state.hidden)).map HttpDataModel.item

/-- The snapshot is assigned, every message after it has arrived, and no change waits for its
message. -/
structure State.Drained (state : State) : Prop where
  ready : state.client.ready = true
  assigned : state.serverModel = none
  channel : state.channel = []
  unsent : state.unsent = []

/-- The browser shows the rows of the table, newest first and each once. -/
structure State.Agrees (state : State) : Prop where
  items : state.client.trafficHistory = state.shown
  distinct : (state.client.trafficHistory.map HttpHistoryItem.id).Nodup

/-! ## The order of two changes -/

/-- The order of two changes can make a difference to the browser. -/
def conflicts : Emitted → Emitted → Bool
  | .updateTraffic first, .updateTraffic second => first.id = second.id && first ≠ second
  | .addTraffic added, .updateTraffic item => added.id = item.id
  | .updateTraffic item, .addTraffic added => added.id = item.id
  | .updateTraffic _, .clearTraffic => false
  | .clearTraffic, .updateTraffic _ => false
  | .clearTraffic, .clearTraffic => false
  | .addTraffic _, .addTraffic _ => true
  | .addTraffic _, .clearTraffic => true
  | .clearTraffic, .addTraffic _ => true

/-- Two updates of different items. -/
theorem updates_commute {first second : HttpHistoryItem} (apart : first.id ≠ second.id) :
    Replay.Commutes handle (.updateTraffic first) (.updateTraffic second) := by
  intro trafficHistory
  simp only [handle, List.map_map]
  apply List.map_congr_left
  intro item _
  by_cases isFirst : item.id = first.id
  · have notSecond : item.id ≠ second.id := fun same => apart (isFirst.symm.trans same)
    simp [isFirst, apart]
  · by_cases isSecond : item.id = second.id
    · simp [isSecond, apart.symm]
    · simp [isFirst, isSecond]

/-- A new item and the update of another. -/
theorem add_update_commute {added item : HttpHistoryItem} (apart : added.id ≠ item.id) :
    Replay.Commutes handle (.addTraffic added) (.updateTraffic item) := by
  intro trafficHistory
  simp [handle, apart]

theorem commutes_of_not_conflicts {first second : Emitted}
    (free : conflicts first second = false) : Replay.Commutes handle first second := by
  cases first with
  | addTraffic added =>
    cases second with
    | updateTraffic item => exact add_update_commute (by simpa [conflicts] using free)
    | addTraffic other => cases free
    | clearTraffic => cases free
  | updateTraffic item =>
    cases second with
    | addTraffic added =>
      intro trafficHistory
      exact (add_update_commute (by simpa [conflicts] using free) trafficHistory).symm
    | updateTraffic other =>
      by_cases apart : item.id = other.id
      · have same : item = other := by simpa [conflicts, apart] using free
        subst same
        intro trafficHistory
        rfl
      · exact updates_commute apart
    | clearTraffic =>
      intro trafficHistory
      rfl
  | clearTraffic =>
    cases second with
    | addTraffic added => cases free
    | updateTraffic item =>
      intro trafficHistory
      rfl
    | clearTraffic =>
      intro trafficHistory
      rfl

/-! ## The condition -/

/-- The changes before the read of the snapshot that still wait for their message. -/
def State.older (state : State) : List Emitted :=
  (state.unsent.filter (fun change => !change.fresh)).map Change.emitted

/-- The changes after the read of the snapshot that still wait for their message. -/
def State.newer (state : State) : List Emitted :=
  (state.unsent.filter Change.fresh).map Change.emitted

/-- No earlier change that still waits conflicts with the one at a place. -/
def State.inOrder (state : State) (index : Nat) : Bool :=
  match state.unsent[index]? with
  | some change =>
    (state.unsent.take index).all (fun earlier => !conflicts earlier.emitted change.emitted)
  | none => true

/-- The changes the snapshot has and the browser is yet to hear of do to it what the changes
do that it lacks and the browser has heard of. Commonly there are none of either. -/
def State.balanced (state : State) : Bool :=
  match state.snapshot with
  | .taken trafficHistory =>
    state.older.foldl handle trafficHistory = state.early.foldl handle trafficHistory
  | _ => true

/-- The changes handled since the answer arrived would leave it as it is. Commonly there are
none. -/
def State.undisturbed (state : State) : Bool :=
  match state.serverModel with
  | some trafficHistory => state.overwritten.foldl handle trafficHistory = trafficHistory
  | none => true

/-- Once the table was read, no message overtakes a conflicting one, the snapshot is sent when
it is balanced, and it is assigned while it is undisturbed. -/
def Timely (state : State) : Event → Prop
  | .emit index => state.snapshot = .waiting ∨ state.inOrder index = true
  | .reply => state.balanced = true
  | .assign => state.undisturbed = true
  | _ => True

instance (state : State) (event : Event) : Decidable (Timely state event) := by
  cases event <;> unfold Timely <;> infer_instance

/-! ## What a step keeps -/

/-- The items whose rows are known: those handled, and those about to be. -/
def State.Pending (state : State) (item : HttpHistoryItem) : Prop :=
  item ∈ state.handled ∨ ∃ change ∈ state.unsent, change.emitted = .addTraffic item

/-- What the browser would show if it had assigned the answer when it arrived. -/
def State.view (state : State) : List HttpHistoryItem :=
  match state.serverModel with
  | some trafficHistory => state.overwritten.foldl handle trafficHistory
  | none => state.client.trafficHistory

/-- A message, with the answer assigned when it arrives. -/
def arrive (trafficHistory : List HttpHistoryItem) : Message → List HttpHistoryItem
  | .emitted emitted => handle trafficHistory emitted
  | .currentModel snapshot => snapshot

/-- What the browser would show after all that is on its way. -/
def State.arriving (state : State) : List HttpHistoryItem :=
  state.channel.foldl arrive state.view

/-- The snapshot, or what the browser is about to show, is the table after the changes that
are still to come. -/
structure Mirrors (state : State) : Prop where
  /-- The items of handled requests are those of their rows. -/
  items : ∀ item, state.Pending item → item.id < state.repo.nextId ∧
    ∀ row ∈ state.repo.rows, row.id = item.id → newItem row.id row.request = item
  hidden : ∀ id ∈ state.hidden, id < state.repo.nextId
  /-- The changes before the read come first. -/
  sorted : state.unsent.Pairwise (fun earlier later => earlier.fresh = true → later.fresh = true)
  waiting : state.snapshot = .waiting → state.early = [] ∧
    ∀ change ∈ state.unsent, change.fresh = false
  taken : ∀ trafficHistory, state.snapshot = .taken trafficHistory →
    (state.early ++ state.newer).foldl handle trafficHistory = state.shown
  replied : state.snapshot = .replied →
    (state.unsent.map Change.emitted).foldl handle state.arriving = state.shown
  answered : state.client.ready = true ∨ state.serverModel.isSome = true ∨
    (∃ trafficHistory, .currentModel trafficHistory ∈ state.channel) → state.snapshot = .replied

theorem initial_mirrors (repo : DataRepo) : Mirrors (State.initial repo) := by
  constructor
  · rintro item (handled | ⟨change, waits, -⟩)
    · cases handled
    · cases waits
  · intro id hidden
    cases hidden
  · exact List.Pairwise.nil
  · intro _
    refine ⟨rfl, ?_⟩
    intro change waits
    cases waits
  · intro trafficHistory taken
    cases taken
  · intro replied
    cases replied
  · rintro (ready | arrived | ⟨trafficHistory, coming⟩)
    · cases ready
    · cases arrived
    · cases coming

/-- The ids of the rows that are shown are distinct. -/
theorem shown_distinct (state : State) : (state.shown.map HttpHistoryItem.id).Nodup := by
  have ids : state.shown.map HttpHistoryItem.id =
      (state.repo.rows.filter (fun row => row.id ∉ state.hidden)).map HttpDataModel.id := by
    rw [State.shown, List.map_map]
    rfl
  rw [ids, List.Nodup, List.pairwise_map]
  apply List.Pairwise.filter
  apply state.repo.ordered.imp
  intro newer older descends same
  exact absurd same.symm (Nat.ne_of_lt descends)

/-- A drained state that mirrors the table agrees with it. -/
theorem Mirrors.agrees {state : State} (mirrors : Mirrors state) (drained : state.Drained) :
    state.Agrees := by
  have items : state.client.trafficHistory = state.shown := by
    have replied := mirrors.replied (mirrors.answered (Or.inl drained.ready))
    rw [drained.unsent, State.arriving, drained.channel, State.view, drained.assigned] at replied
    exact replied
  constructor
  · exact items
  · rw [items]
    exact shown_distinct state

section Steps

variable {state : State}

/-! ## Changes of the table -/

theorem pending_change {repo : DataRepo} {emitted : Emitted} {item : HttpHistoryItem}
    (pending : (state.change repo emitted).Pending item) :
    state.Pending item ∨ emitted = .addTraffic item := by
  rcases pending with handled | ⟨change, waits, adds⟩
  · exact Or.inl (Or.inl handled)
  · cases List.mem_append.mp waits with
    | inl before => exact Or.inl (Or.inr ⟨change, before, adds⟩)
    | inr added =>
      obtain rfl := List.mem_singleton.mp added
      exact Or.inr adds

/-- A change whose message does to the browser what it does to the table. -/
theorem Mirrors.change (mirrors : Mirrors state) {repo : DataRepo} {emitted : Emitted}
    (shows : (state.change repo emitted).shown = handle state.shown emitted)
    (items : ∀ item, (state.change repo emitted).Pending item → item.id < repo.nextId ∧
      ∀ row ∈ repo.rows, row.id = item.id → newItem row.id row.request = item)
    (grows : state.repo.nextId ≤ repo.nextId) : Mirrors (state.change repo emitted) := by
  constructor
  · exact items
  · intro id hidden
    exact (mirrors.hidden id hidden).trans_le grows
  · apply List.pairwise_append.mpr
    refine ⟨mirrors.sorted, List.pairwise_singleton _ _, ?_⟩
    intro earlier waits later added fresh
    obtain rfl := List.mem_singleton.mp added
    apply decide_eq_true
    intro waiting
    rw [(mirrors.waiting waiting).2 earlier waits] at fresh
    cases fresh
  · intro waiting
    obtain ⟨early, stale⟩ := mirrors.waiting waiting
    refine ⟨early, ?_⟩
    intro change waits
    cases List.mem_append.mp waits with
    | inl before => exact stale change before
    | inr added =>
      obtain rfl := List.mem_singleton.mp added
      exact decide_eq_false (not_not_intro waiting)
  · intro trafficHistory taken
    have was : state.snapshot = .taken trafficHistory := taken
    have newer : (state.change repo emitted).newer = state.newer ++ [emitted] := by
      simp [State.newer, State.change, was]
    rw [newer, ← List.append_assoc, List.foldl_append, shows]
    have before := mirrors.taken trafficHistory was
    exact congrArg (fun shown => handle shown emitted) before
  · intro replied
    have was : state.snapshot = .replied := replied
    rw [shows]
    have before := mirrors.replied was
    simp only [State.change, List.map_append, List.foldl_append, List.map_cons, List.map_nil]
    exact congrArg (fun shown => handle shown emitted) before
  · exact mirrors.answered

/-- A new row is shown first. -/
theorem Mirrors.addTraffic (mirrors : Mirrors state) (request : HttpRequestDetail) :
    Mirrors (state.change (state.repo.insertData request)
      (.addTraffic (newItem state.repo.nextId request))) := by
  apply mirrors.change
  · have visible : state.repo.nextId ∉ state.hidden := by
      intro hidden
      exact Nat.lt_irrefl _ (mirrors.hidden _ hidden)
    simp [State.shown, State.change, DataRepo.insertData, visible, handle, newItem]
  · intro item pending
    cases pending_change pending with
    | inl before =>
      obtain ⟨bounded, rows⟩ := mirrors.items item before
      refine ⟨Nat.lt_succ_of_lt bounded, ?_⟩
      intro row member same
      rcases List.mem_cons.mp member with rfl | older
      · exact absurd same.symm (Nat.ne_of_lt bounded)
      · exact rows row older same
    | inr adds =>
      cases adds
      refine ⟨Nat.lt_succ_self _, ?_⟩
      intro row member same
      rcases List.mem_cons.mp member with rfl | older
      · rfl
      · exact absurd same (Nat.ne_of_lt (state.repo.bounded row older))
  · exact Nat.le_succ _

/-- The item of an updated row is the one that is emitted. -/
theorem updated_item {row : HttpDataModel} {item : HttpHistoryItem}
    (known : row.id = item.id → newItem row.id row.request = item)
    (response : HttpResponseDetail) :
    (DataRepo.updated item.id response row).item =
      if row.item.id = item.id then item.respond response else row.item := by
  have sameId : row.item.id = row.id := rfl
  rw [sameId, DataRepo.updated]
  split
  · rename_i same
    rw [← known same]
    rfl
  · rfl

/-- The row of a handled request gets its response. -/
theorem Mirrors.updateTraffic (mirrors : Mirrors state) {item : HttpHistoryItem}
    (handled : item ∈ state.handled) (response : HttpResponseDetail) :
    Mirrors (state.change (state.repo.updateData item.id response)
      (.updateTraffic (item.respond response))) := by
  obtain ⟨-, rows⟩ := mirrors.items item (Or.inl handled)
  apply mirrors.change
  · have sameId : (item.respond response).id = item.id := rfl
    simp only [State.shown, State.change, DataRepo.updateData, handle, List.map_map, sameId,
      List.filter_map, Function.comp_def, DataRepo.updated_id]
    apply List.map_congr_left
    intro row member
    exact updated_item (rows row (List.mem_of_mem_filter member)) response
  · intro other pending
    cases pending_change pending with
    | inl before =>
      obtain ⟨bounded, others⟩ := mirrors.items other before
      refine ⟨bounded, ?_⟩
      intro row member same
      obtain ⟨old, stored, rfl⟩ := List.mem_map.mp member
      rw [DataRepo.updated_id] at same ⊢
      have request : (DataRepo.updated item.id response old).request = old.request := by
        unfold DataRepo.updated
        split
        · rfl
        · rfl
      rw [request]
      exact others old stored same
    | inr adds => cases adds
  · exact Nat.le_refl _

theorem Mirrors.clearTrafficHistory (mirrors : Mirrors state) :
    Mirrors (state.change state.repo.clearData .clearTraffic) := by
  apply mirrors.change
  · rfl
  · intro item pending
    cases pending_change pending with
    | inl before =>
      refine ⟨(mirrors.items item before).1, ?_⟩
      intro row member
      cases member
    | inr adds => cases adds
  · exact Nat.le_refl _

/-! ## Messages -/

/-- The changes before the read wait in front of those after it. -/
theorem Mirrors.unsent_split (mirrors : Mirrors state) :
    state.unsent.map Change.emitted = state.older ++ state.newer := by
  have split (changes : List Change) (sorted : changes.Pairwise
      (fun earlier later => earlier.fresh = true → later.fresh = true)) :
      changes = changes.filter (fun change => !change.fresh) ++ changes.filter Change.fresh := by
    induction changes with
    | nil => rfl
    | cons change changes inductionHypothesis =>
      obtain ⟨follows, later⟩ := List.pairwise_cons.mp sorted
      cases fresh : change.fresh with
      | true =>
        have all : ∀ other ∈ changes, other.fresh = true :=
          fun other member => follows other member fresh
        have none : changes.filter (fun change => !change.fresh) = [] := by
          apply List.filter_eq_nil_iff.mpr
          intro other member
          simp [all other member]
        simp [fresh, none, List.filter_eq_self.mpr all]
      | false =>
        simp only [List.filter_cons, fresh, Bool.not_false, if_true, Bool.false_eq_true, if_false,
          List.cons_append]
        exact congrArg (List.cons change) (inductionHypothesis later)
  rw [State.older, State.newer, ← List.map_append, ← split state.unsent mirrors.sorted]

/-- The change at a place, and what waits before and after it. -/
theorem unsent_at {index : Nat} {change : Change} (standing : state.unsent[index]? = some change) :
    ∃ before after, state.unsent = before ++ change :: after ∧
      state.unsent.eraseIdx index = before ++ after ∧ state.unsent.take index = before := by
  obtain ⟨bounded, same⟩ := List.getElem?_eq_some_iff.mp standing
  refine ⟨state.unsent.take index, state.unsent.drop (index + 1), ?_, ?_, rfl⟩
  · rw [← same, List.cons_getElem_drop_succ, List.take_append_drop]
  · exact List.eraseIdx_eq_take_drop_succ _ _

/-- A change in order commutes with all that waits before it. -/
theorem emit_commutes {index : Nat} {change : Change} {first changes : List Change}
    (standing : state.unsent[index]? = some change) (prior : state.unsent.take index = first)
    (timely : Timely state (.emit index)) (asked : state.snapshot ≠ .waiting)
    (before : changes ⊆ first) : ∀ earlier ∈ changes.map Change.emitted,
      Replay.Commutes handle earlier change.emitted := by
  intro earlier emitted
  obtain ⟨other, waits, rfl⟩ := List.mem_map.mp emitted
  have ordered := timely.resolve_left asked
  simp only [State.inOrder, standing, prior, List.all_eq_true, Bool.not_eq_true'] at ordered
  exact commutes_of_not_conflicts (ordered other (before waits))

/-- Before the answer a message only goes from the newer changes to the early ones. -/
theorem emit_early {index : Nat} {change : Change}
    (standing : state.unsent[index]? = some change) (timely : Timely state (.emit index))
    {trafficHistory : List HttpHistoryItem} (taken : state.snapshot = .taken trafficHistory) :
    ((state.emit index change).early ++ (state.emit index change).newer).foldl handle
        trafficHistory = (state.early ++ state.newer).foldl handle trafficHistory := by
  obtain ⟨first, after, unsent, erased, prior⟩ := unsent_at standing
  have asked : state.snapshot ≠ .waiting := by simp [taken]
  have newer : state.newer = (first.filter Change.fresh).map Change.emitted ++
      ([change].filter Change.fresh).map Change.emitted ++
        (after.filter Change.fresh).map Change.emitted := by
    have joined : change :: after = [change] ++ after := rfl
    rw [State.newer, unsent, joined, List.filter_append, List.filter_append, List.map_append,
      List.map_append, List.append_assoc]
  have left : (state.emit index change).newer = (first.filter Change.fresh).map Change.emitted ++
      (after.filter Change.fresh).map Change.emitted := by
    simp [State.newer, State.emit, erased]
  rw [left, newer]
  cases fresh : change.fresh with
  | true =>
    have early : (state.emit index change).early = state.early ++ [change.emitted] := by
      simp [State.emit, taken, fresh]
    have kept : first.filter Change.fresh ⊆ first := List.filter_subset_self first
    have commutes := emit_commutes standing prior timely asked kept
    have moved := Replay.foldl_commute handle commutes
      ((after.filter Change.fresh).map Change.emitted) (state.early.foldl handle trafficHistory)
    rw [early, List.append_assoc, List.foldl_append, List.singleton_append, ← moved,
      ← List.foldl_append]
    simp [fresh]
  | false =>
    have early : (state.emit index change).early = state.early := by
      simp [State.emit, taken, fresh]
    simp [early, fresh]

/-- After the answer a message in order does to the browser what it did among those that
wait. -/
theorem emit_arriving {index : Nat} {change : Change}
    (standing : state.unsent[index]? = some change) (timely : Timely state (.emit index))
    (replied : state.snapshot = .replied) :
    ((state.emit index change).unsent.map Change.emitted).foldl handle
        (state.emit index change).arriving =
      (state.unsent.map Change.emitted).foldl handle state.arriving := by
  obtain ⟨first, after, unsent, erased, prior⟩ := unsent_at standing
  have asked : state.snapshot ≠ .waiting := by simp [replied]
  have arriving : (state.emit index change).arriving = handle state.arriving change.emitted := by
    rw [State.arriving, State.arriving, State.emit, List.foldl_append]
    rfl
  have left : (state.emit index change).unsent = first ++ after := erased
  have commutes := emit_commutes standing prior timely asked (List.Subset.refl first)
  have moved := Replay.foldl_commute handle commutes (after.map Change.emitted) state.arriving
  rw [arriving, left, unsent, List.map_append, List.map_append, List.map_cons, moved]
  rfl

/-- The message of a change in order is emitted. -/
theorem Mirrors.emit (mirrors : Mirrors state) {index : Nat} {change : Change}
    (standing : state.unsent[index]? = some change) (timely : Timely state (.emit index)) :
    Mirrors (state.emit index change) := by
  have member : change ∈ state.unsent := List.mem_of_getElem? standing
  constructor
  · intro item pending
    apply mirrors.items
    rcases pending with handled | ⟨other, waits, adds⟩
    · simp only [State.emit] at handled
      split at handled
      · rename_i added emits
        rcases List.mem_cons.mp handled with rfl | before
        · exact Or.inr ⟨change, member, emits⟩
        · exact Or.inl before
      · exact Or.inl handled
    · exact Or.inr ⟨other, List.mem_of_mem_eraseIdx waits, adds⟩
  · exact mirrors.hidden
  · exact mirrors.sorted.sublist (List.eraseIdx_sublist _ _)
  · intro waiting
    have was : state.snapshot = .waiting := waiting
    obtain ⟨early, stale⟩ := mirrors.waiting was
    constructor
    · simp [State.emit, was, early]
    · intro other waits
      exact stale other (List.mem_of_mem_eraseIdx waits)
  · intro trafficHistory taken
    have was : state.snapshot = .taken trafficHistory := taken
    exact (emit_early standing timely was).trans (mirrors.taken trafficHistory was)
  · intro replied
    have was : state.snapshot = .replied := replied
    exact (emit_arriving standing timely was).trans (mirrors.replied was)
  · rintro (ready | arrived | ⟨trafficHistory, coming⟩)
    · exact mirrors.answered (Or.inl ready)
    · exact mirrors.answered (Or.inr (Or.inl arrived))
    · cases List.mem_append.mp coming with
      | inl before => exact mirrors.answered (Or.inr (Or.inr ⟨trafficHistory, before⟩))
      | inr now => cases List.mem_singleton.mp now

/-- The rows of the snapshot are those that are shown. -/
theorem taken_shown (repo : DataRepo) :
    getHttpHistory repo = (repo.rows.filter (fun row =>
      row.id ∉ (repo.rows.drop historyLimit).map HttpDataModel.id)).map HttpDataModel.item := by
  have parts := repo.ordered
  rw [← List.take_append_drop historyLimit repo.rows] at parts
  obtain ⟨-, -, across⟩ := List.pairwise_append.mp parts
  have kept : (repo.rows.take historyLimit).filter (fun row =>
      row.id ∉ (repo.rows.drop historyLimit).map HttpDataModel.id) =
        repo.rows.take historyLimit := by
    apply List.filter_eq_self.mpr
    intro newer taken
    apply decide_eq_true
    intro hidden
    obtain ⟨older, left, same⟩ := List.mem_map.mp hidden
    exact absurd same (Nat.ne_of_lt (across newer taken older left))
  have dropped : (repo.rows.drop historyLimit).filter (fun row =>
      row.id ∉ (repo.rows.drop historyLimit).map HttpDataModel.id) = [] := by
    apply List.filter_eq_nil_iff.mpr
    intro row left
    simp only [decide_eq_true_eq, not_not]
    exact List.mem_map_of_mem left
  have whole : repo.rows.filter (fun row =>
      row.id ∉ (repo.rows.drop historyLimit).map HttpDataModel.id) =
        repo.rows.take historyLimit := by
    calc repo.rows.filter _
        = (repo.rows.take historyLimit ++ repo.rows.drop historyLimit).filter _ := by
          rw [List.take_append_drop]
      _ = repo.rows.take historyLimit := by
          rw [List.filter_append, kept, dropped, List.append_nil]
  rw [whole]
  rfl

/-- The read of the snapshot. -/
theorem Mirrors.getCurrentModel (mirrors : Mirrors state) (waiting : state.snapshot = .waiting) :
    Mirrors { state with
      snapshot := .taken (getHttpHistory state.repo)
      hidden := (state.repo.rows.drop historyLimit).map HttpDataModel.id } := by
  obtain ⟨early, stale⟩ := mirrors.waiting waiting
  constructor
  · exact mirrors.items
  · intro id hidden
    obtain ⟨row, member, rfl⟩ := List.mem_map.mp hidden
    exact state.repo.bounded row (List.mem_of_mem_drop member)
  · exact mirrors.sorted
  · intro still
    cases still
  · intro trafficHistory taken
    cases taken
    have none : state.newer = [] := by
      simp only [State.newer, List.map_eq_nil_iff, List.filter_eq_nil_iff]
      intro change waits
      simp [stale change waits]
    have nothing : (state.early ++ state.newer).foldl handle (getHttpHistory state.repo) =
        getHttpHistory state.repo := by
      rw [early, none]
      rfl
    exact nothing.trans (taken_shown state.repo)
  · intro replied
    cases replied
  · intro answered
    have replied := mirrors.answered answered
    rw [waiting] at replied
    cases replied

/-- The answer, once it is balanced. -/
theorem Mirrors.reply (mirrors : Mirrors state) {trafficHistory : List HttpHistoryItem}
    (taken : state.snapshot = .taken trafficHistory) (balanced : state.balanced = true) :
    Mirrors { state with
      snapshot := .replied
      channel := state.channel ++ [.currentModel trafficHistory] } := by
  constructor
  · exact mirrors.items
  · exact mirrors.hidden
  · exact mirrors.sorted
  · intro waiting
    cases waiting
  · intro other still
    cases still
  · intro _
    have same : state.older.foldl handle trafficHistory =
        state.early.foldl handle trafficHistory := by
      simpa [State.balanced, taken] using balanced
    have arriving : State.arriving { state with
        snapshot := .replied
        channel := state.channel ++ [.currentModel trafficHistory] } = trafficHistory := by
      rw [State.arriving, List.foldl_append]
      rfl
    rw [arriving]
    have split := mirrors.unsent_split
    calc (state.unsent.map Change.emitted).foldl handle trafficHistory
        = state.newer.foldl handle (state.older.foldl handle trafficHistory) := by
          rw [split, List.foldl_append]
      _ = (state.early ++ state.newer).foldl handle trafficHistory := by
          rw [same, List.foldl_append]
      _ = state.shown := mirrors.taken trafficHistory taken
  · intro _
    rfl

/-- A message on its way or taken comes to the same. -/
theorem arriving_receive {message : Message} {rest : List Message}
    (channel : state.channel = message :: rest) :
    (state.receive rest message).arriving = state.arriving := by
  have view : (state.receive rest message).view = arrive state.view message := by
    cases message with
    | emitted emitted =>
      cases arrived : state.serverModel with
      | none => simp [State.view, State.receive, arrive, arrived]
      | some trafficHistory => simp [State.view, State.receive, arrive, arrived]
    | currentModel trafficHistory => rfl
  have left : (state.receive rest message).channel = rest := by
    cases message <;> rfl
  rw [State.arriving, view, left, State.arriving, channel, List.foldl_cons]

/-- The browser takes a message. -/
theorem Mirrors.receive (mirrors : Mirrors state) {message : Message} {rest : List Message}
    (channel : state.channel = message :: rest) : Mirrors (state.receive rest message) := by
  have arriving := arriving_receive channel
  have answered : (state.receive rest message).client.ready = true ∨
      (state.receive rest message).serverModel.isSome = true ∨
      (∃ trafficHistory, .currentModel trafficHistory ∈ (state.receive rest message).channel) →
        state.snapshot = .replied := by
    intro answered
    apply mirrors.answered
    cases message with
    | emitted emitted =>
      rcases answered with ready | arrived | ⟨trafficHistory, coming⟩
      · exact Or.inl ready
      · exact Or.inr (Or.inl arrived)
      · refine Or.inr (Or.inr ⟨trafficHistory, ?_⟩)
        rw [channel]
        exact List.mem_cons_of_mem _ coming
    | currentModel trafficHistory =>
      refine Or.inr (Or.inr ⟨trafficHistory, ?_⟩)
      rw [channel]
      exact List.mem_cons_self
  -- Nothing but the channel and the browser changes.
  cases message <;> exact ⟨mirrors.items, mirrors.hidden, mirrors.sorted, mirrors.waiting,
    mirrors.taken, fun replied => arriving ▸ mirrors.replied replied, answered⟩

/-- The answer is assigned while it is undisturbed. -/
theorem Mirrors.assign (mirrors : Mirrors state) {trafficHistory : List HttpHistoryItem}
    (arrived : state.serverModel = some trafficHistory) (undisturbed : state.undisturbed = true) :
    Mirrors (state.assign trafficHistory) := by
  have same : state.overwritten.foldl handle trafficHistory = trafficHistory := by
    simpa [State.undisturbed, arrived] using undisturbed
  have arriving : (state.assign trafficHistory).arriving = state.arriving := by
    simp [State.arriving, State.view, State.assign, arrived, same]
  have replied : state.snapshot = .replied := by
    apply mirrors.answered
    simp [arrived]
  exact ⟨mirrors.items, mirrors.hidden, mirrors.sorted, mirrors.waiting, mirrors.taken,
    fun _ => arriving ▸ mirrors.replied replied, fun _ => replied⟩

/-- A step that meets the condition keeps the mirror. -/
theorem Mirrors.step (mirrors : Mirrors state) {event : Event} {next : State}
    {outputs : List Unit} (timely : Timely state event)
    (stepped : traffic.step state event = some (next, outputs)) : Mirrors next := by
  cases event with
  | addTraffic request =>
    cases stepped
    exact mirrors.addTraffic request
  | updateTraffic id response =>
    obtain ⟨item, found, same⟩ := Option.map_eq_some_iff.mp stepped
    cases same
    have named : item.id = id := by simpa using List.find?_some found
    rw [← named]
    exact mirrors.updateTraffic (List.mem_of_find?_eq_some found) response
  | clearTrafficHistory =>
    cases stepped
    exact mirrors.clearTrafficHistory
  | emit index =>
    obtain ⟨change, standing, same⟩ := Option.map_eq_some_iff.mp stepped
    cases same
    exact mirrors.emit standing timely
  | getCurrentModel =>
    simp only [traffic] at stepped
    split at stepped
    · rename_i waiting
      cases stepped
      exact mirrors.getCurrentModel waiting
    · cases stepped
  | reply =>
    simp only [traffic] at stepped
    split at stepped
    · rename_i trafficHistory taken
      cases stepped
      exact mirrors.reply taken timely
    · cases stepped
  | receive =>
    simp only [traffic] at stepped
    split at stepped
    · cases stepped
    · rename_i message rest channel
      cases stepped
      exact mirrors.receive channel
  | assign =>
    obtain ⟨trafficHistory, arrived, same⟩ := Option.map_eq_some_iff.mp stepped
    cases same
    exact mirrors.assign arrived timely

/-! ## Snapshots that do not fit -/

/-- Every message in front of the answer arrives, and the answer. -/
theorem receive_answer (earlier : List Message) {trafficHistory : List HttpHistoryItem}
    (channel : state.channel = earlier ++ [.currentModel trafficHistory]) :
    ∃ events final outputs, traffic.run state events = some (final, outputs) ∧
      final.channel = [] ∧ final.serverModel = some trafficHistory ∧
      final.unsent = state.unsent ∧ final.shown = state.shown := by
  induction earlier generalizing state with
  | nil =>
    have stepped : traffic.step state .receive =
        some (state.receive [] (.currentModel trafficHistory), []) := by
      simp [traffic, channel]
    exact ⟨[.receive], _, [], (Machine.run_cons_iff traffic _ _ _ _ _).mpr
      ⟨_, _, _, stepped, rfl, rfl⟩, rfl, rfl, rfl, rfl⟩
  | cons message earlier inductionHypothesis =>
    let rest := earlier ++ [.currentModel trafficHistory]
    have stepped : traffic.step state .receive = some (state.receive rest message, []) := by
      simp [traffic, channel, rest]
    have left : (state.receive rest message).channel = rest := by
      cases message <;> rfl
    obtain ⟨events, final, outputs, ran, empty, arrived, unsent, shown⟩ :=
      inductionHypothesis left
    refine ⟨.receive :: events, final, [] ++ outputs, ?_, empty, arrived, ?_, ?_⟩
    · exact (Machine.run_cons_iff traffic _ _ _ _ _).mpr ⟨_, _, _, stepped, ran, rfl⟩
    · rw [unsent]
      cases message <;> rfl
    · rw [shown]
      cases message <;> rfl

/-- Once the answer is assigned, every message that waits is emitted and arrives in its turn. -/
theorem emit_receive_all (ready : state.client.ready = true)
    (assigned : state.serverModel = none) (channel : state.channel = []) :
    ∃ events final outputs, traffic.run state events = some (final, outputs) ∧
      final.Drained ∧ final.shown = state.shown ∧ final.client.trafficHistory =
        (state.unsent.map Change.emitted).foldl handle state.client.trafficHistory := by
  induction waiting : state.unsent generalizing state with
  | nil => exact ⟨[], state, [], rfl, ⟨ready, assigned, channel, waiting⟩, rfl, rfl⟩
  | cons change rest inductionHypothesis =>
    have emitted : traffic.step state (.emit 0) = some (state.emit 0 change, []) := by
      simp [traffic, waiting]
    have coming : (state.emit 0 change).channel = [.emitted change.emitted] := by
      simp [State.emit, channel]
    let next := (state.emit 0 change).receive [] (.emitted change.emitted)
    have received : traffic.step (state.emit 0 change) .receive = some (next, []) := by
      simp [traffic, coming, next]
    have left : next.unsent = rest := by simp [next, State.receive, State.emit, waiting]
    obtain ⟨events, final, outputs, ran, drained, shown, arrived⟩ :=
      @inductionHypothesis next ready assigned rfl left
    refine ⟨.emit 0 :: .receive :: events, final, [] ++ ([] ++ outputs), ?_, drained, shown,
      arrived⟩
    have after := (Machine.run_cons_iff traffic _ _ _ _ _).mpr ⟨_, _, _, received, ran, rfl⟩
    exact (Machine.run_cons_iff traffic _ _ _ _ _).mpr ⟨_, _, _, emitted, after, rfl⟩

/-- A snapshot that is sent unbalanced, with no newer change on its way to make up for it,
leaves the browser with other items than the table once all messages have arrived. -/
theorem Mirrors.unbalanced (mirrors : Mirrors state) {trafficHistory : List HttpHistoryItem}
    (taken : state.snapshot = .taken trafficHistory) (newer : state.newer = [])
    (unbalanced : ¬ Timely state .reply) :
    ∃ events final outputs, traffic.run state (.reply :: events) = some (final, outputs) ∧
      final.Drained ∧ ¬ final.Agrees := by
  let sent : State := { state with
    snapshot := .replied
    channel := state.channel ++ [.currentModel trafficHistory] }
  have replied : traffic.step state .reply = some (sent, []) := by
    simp [traffic, taken, sent]
  obtain ⟨receives, arrived, first, receiving, channel, answer, unsent, shown⟩ :=
    @receive_answer sent state.channel trafficHistory rfl
  have assigned : traffic.step arrived .assign = some (arrived.assign trafficHistory, []) := by
    simp [traffic, answer]
  obtain ⟨others, final, second, running, drained, same, items⟩ :=
    @emit_receive_all (arrived.assign trafficHistory) rfl rfl channel
  have continued := (Machine.run_cons_iff traffic _ _ _ _ _).mpr
    ⟨_, _, _, assigned, running, rfl⟩
  have ran := Machine.run_append_of_run traffic receiving continued
  refine ⟨receives ++ .assign :: others, final, [] ++ (first ++ ([] ++ second)), ?_, drained, ?_⟩
  · exact (Machine.run_cons_iff traffic _ _ _ _ _).mpr ⟨_, _, _, replied, ran, rfl⟩
  · intro agrees
    apply unbalanced
    have older : (arrived.assign trafficHistory).unsent.map Change.emitted = state.older := by
      have split := mirrors.unsent_split
      rw [newer, List.append_nil] at split
      exact (congrArg (List.map Change.emitted) unsent).trans split
    have table := mirrors.taken trafficHistory taken
    rw [newer, List.append_nil] at table
    have equal : state.older.foldl handle trafficHistory =
        state.early.foldl handle trafficHistory := by
      calc state.older.foldl handle trafficHistory
          = final.client.trafficHistory := by rw [items, older]; rfl
        _ = arrived.shown := by rw [agrees.items, same]; rfl
        _ = state.shown := shown
        _ = state.early.foldl handle trafficHistory := table.symm
    simp [Timely, State.balanced, taken, equal]

/-- A snapshot that is assigned after a change that matters was handled, with nothing on its way
to make up for it, leaves the browser with other items than the table. -/
theorem Mirrors.disturbed (mirrors : Mirrors state) {trafficHistory : List HttpHistoryItem}
    (arrived : state.serverModel = some trafficHistory) (channel : state.channel = [])
    (unsent : state.unsent = []) (disturbed : ¬ Timely state .assign) :
    ∃ final, traffic.step state .assign = some (final, []) ∧ final.Drained ∧ ¬ final.Agrees := by
  have replied : state.snapshot = .replied := by
    apply mirrors.answered
    simp [arrived]
  have table := mirrors.replied replied
  simp only [unsent, List.map_nil, List.foldl_nil, State.arriving, channel, State.view,
    arrived] at table
  refine ⟨state.assign trafficHistory, ?_, ⟨rfl, rfl, channel, unsent⟩, ?_⟩
  · simp [traffic, arrived]
  · intro agrees
    apply disturbed
    have equal : state.overwritten.foldl handle trafficHistory = trafficHistory :=
      table.trans agrees.items.symm
    simp [Timely, State.undisturbed, arrived, equal]

end Steps

/-- In every run whose messages come in order from the read of the snapshot on, and whose
snapshot is sent when it is balanced and assigned while it is undisturbed, the browser agrees with
the table in every drained state. A snapshot sent or assigned otherwise after such a run, with
nothing on its way to make up for it, ends in a drained state in which it does not. -/
theorem traffic_agrees (repo : DataRepo) {events : List Event} {state : State}
    {outputs : List Unit} (timely : traffic.Meets Timely (State.initial repo) events)
    (ran : traffic.run (State.initial repo) events = some (state, outputs)) :
    (state.Drained → state.Agrees) ∧
      (∀ trafficHistory, state.snapshot = .taken trafficHistory → state.newer = [] →
        ¬ Timely state .reply → ∃ later final added,
          traffic.run state (.reply :: later) = some (final, added) ∧ final.Drained ∧
            ¬ final.Agrees) ∧
      ∀ trafficHistory, state.serverModel = some trafficHistory → state.channel = [] →
        state.unsent = [] → ¬ Timely state .assign → ∃ final,
          traffic.step state .assign = some (final, []) ∧ final.Drained ∧ ¬ final.Agrees := by
  have mirrors : Mirrors state := by
    apply Machine.run_induction_meets traffic (fun _ _ state => Mirrors state) _ _ timely ran
    · exact initial_mirrors repo
    · intro before outputs state event next added _ mirrors meets stepped
      exact mirrors.step meets stepped
  refine ⟨mirrors.agrees, ?_, ?_⟩
  · intro trafficHistory taken newer unbalanced
    exact mirrors.unbalanced taken newer unbalanced
  · intro trafficHistory arrived channel unsent disturbed
    exact mirrors.disturbed arrived channel unsent disturbed

/-- A proxied request. -/
def proxied : HttpRequestDetail where
  tracingId := none
  methodName := ['G', 'E', 'T']
  url := ['/']
  requestRaw := []
  requestAt := 0

/-- A table of one row. -/
def oneRow : DataRepo where
  rows := [⟨1, proxied, none⟩]
  nextId := 2
  ordered := List.pairwise_singleton _ _
  bounded := List.forall_mem_singleton.mpr Nat.one_lt_two

/-- A request before the read, its response while the answer waits, and one between the read
and the answer that is answered after a clear of the table. -/
def answeredInTime : List Event :=
  [.addTraffic proxied, .emit 0, .getCurrentModel, .addTraffic proxied,
    .updateTraffic 2 ⟨some 200, some [], none⟩, .reply, .emit 1, .receive, .emit 0, .receive,
    .assign, .receive, .receive, .clearTrafficHistory, .emit 0, .addTraffic proxied, .emit 0,
    .updateTraffic 4 ⟨some 404, none, none⟩, .emit 0, .receive, .receive, .receive]

theorem traffic_agrees_in_time : ∃ state outputs,
    traffic.run (State.initial oneRow) answeredInTime = some (state, outputs) ∧
      state.Agrees ∧ state.client.trafficHistory.map HttpHistoryItem.id = [4] := by
  have timely : traffic.Meets Timely (State.initial oneRow) answeredInTime := by decide +kernel
  have completes : (traffic.run (State.initial oneRow) answeredInTime).isSome = true := by
    decide +kernel
  have ends : (traffic.run (State.initial oneRow) answeredInTime).all (fun result =>
      result.1.client.ready && result.1.serverModel.isNone && result.1.channel.isEmpty &&
        result.1.unsent.isEmpty &&
          result.1.client.trafficHistory.map HttpHistoryItem.id = [4]) = true := by decide +kernel
  obtain ⟨⟨state, outputs⟩, ran⟩ := Option.isSome_iff_exists.mp completes
  simp only [ran, Option.all_some, Bool.and_eq_true, Option.isNone_iff_eq_none,
    List.isEmpty_iff, decide_eq_true_eq] at ends
  obtain ⟨⟨⟨⟨ready, assigned⟩, channel⟩, unsent⟩, ids⟩ := ends
  exact ⟨state, outputs, ran,
    (traffic_agrees oneRow timely ran).1 ⟨ready, assigned, channel, unsent⟩, ids⟩

/-- A row that is in the snapshot and is added after it is shown twice; one that is added
between the read and the answer is lost, and so is one whose message is handled before the answer
is assigned; and one whose message comes after that of a clear is shown although it was deleted. -/
theorem traffic_disagrees :
    (∃ state outputs, traffic.run (State.initial oneRow) [.addTraffic proxied, .getCurrentModel,
        .reply, .emit 0, .receive, .assign, .receive] = some (state, outputs) ∧ state.Drained ∧
      state.client.trafficHistory.map HttpHistoryItem.id = [2, 2, 1]) ∧
    (∃ state outputs, traffic.run (State.initial oneRow) [.getCurrentModel, .addTraffic proxied,
        .emit 0, .reply, .receive, .receive, .assign] = some (state, outputs) ∧ state.Drained ∧
      state.client.trafficHistory.map HttpHistoryItem.id = [1] ∧
      state.shown.map HttpHistoryItem.id = [2, 1]) ∧
    (∃ state outputs, traffic.run (State.initial oneRow) [.getCurrentModel, .reply,
        .addTraffic proxied, .emit 0, .receive, .receive, .assign] = some (state, outputs) ∧
      state.Drained ∧ state.client.trafficHistory.map HttpHistoryItem.id = [1] ∧
      state.shown.map HttpHistoryItem.id = [2, 1]) ∧
    ∃ state outputs, traffic.run (State.initial oneRow) [.getCurrentModel, .reply, .receive,
        .assign, .addTraffic proxied, .clearTrafficHistory, .emit 1, .emit 0, .receive,
        .receive] = some (state, outputs) ∧ state.Drained ∧
      state.client.trafficHistory.map HttpHistoryItem.id = [2] ∧ state.shown = [] := by
  refine ⟨?_, ?_, ?_, ?_⟩
  · exact ⟨_, _, rfl, ⟨rfl, rfl, rfl, rfl⟩, rfl⟩
  · exact ⟨_, _, rfl, ⟨rfl, rfl, rfl, rfl⟩, rfl, rfl⟩
  · exact ⟨_, _, rfl, ⟨rfl, rfl, rfl, rfl⟩, rfl, rfl⟩
  · exact ⟨_, _, rfl, ⟨rfl, rfl, rfl, rfl⟩, rfl, rfl⟩

end WebPubSub.Traffic
