/-!
# The body iterator

`AsyncIterator` of `server-proxies/src/utils.ts` and one consumer that iterates it
with `for await`. The producer adds items, closes and fails; it may be ahead of the
consumer, which then finds items waiting, or behind it, in which case the consumer's
`next` waits until the producer resolves it. A resolved `next` goes on later, so the
producer may act again in between.
-/

namespace WebPubSub.Tunnel

/-- The fields of an iterator. `resolveCurrent` tells whether a waiting `next` has left
its resolver. -/
structure AsyncIterator (Item : Type) where
  items : List Item
  isClosed : Bool
  resolveCurrent : Bool
  errorToThrow : Option (List Char)
deriving DecidableEq, Repr

/-- What a turn of `next` comes to. -/
inductive Next (Item : Type) where
  | value (item : Item)
  | done
  | threw (error : List Char)
  | waits
deriving DecidableEq, Repr

namespace AsyncIterator

variable {Item : Type}

def empty : AsyncIterator Item := ⟨[], false, false, none⟩

/-- `add`, which throws on a closed iterator. -/
def add (iterator : AsyncIterator Item) (item : Item) : Option (AsyncIterator Item) :=
  if iterator.isClosed then none
  else some { iterator with items := iterator.items ++ [item], resolveCurrent := false }

/-- `error`. -/
def error (iterator : AsyncIterator Item) (err : List Char) : AsyncIterator Item :=
  { iterator with errorToThrow := some err, resolveCurrent := false }

/-- `close`. -/
def close (iterator : AsyncIterator Item) : AsyncIterator Item :=
  { iterator with isClosed := true, resolveCurrent := false }

/-- `next`, up to its `await`. -/
def next (iterator : AsyncIterator Item) : AsyncIterator Item × Next Item :=
  match iterator.errorToThrow, iterator.items with
  | some err, _ => (iterator, .threw err)
  | none, item :: items => ({ iterator with items := items }, .value item)
  | none, [] =>
    if iterator.isClosed then (iterator, .done)
    else ({ iterator with resolveCurrent := true }, .waits)

/-- `next` after its promise was resolved. -/
def resume (iterator : AsyncIterator Item) : AsyncIterator Item × Next Item :=
  match iterator.errorToThrow, iterator.items with
  | some err, _ => (iterator, .threw err)
  | none, item :: items => ({ iterator with items := items }, .value item)
  | none, [] => (iterator, .done)

section Turns

variable {iterator : AsyncIterator Item} {item : Item} {items : List Item}

theorem next_item (intact : iterator.errorToThrow = none)
    (queued : iterator.items = item :: items) :
    iterator.next = ({ iterator with items := items }, .value item) := by
  simp [next, intact, queued]

theorem next_closed (intact : iterator.errorToThrow = none) (queued : iterator.items = [])
    (closed : iterator.isClosed = true) : iterator.next = (iterator, .done) := by
  simp [next, intact, queued, closed]

theorem next_open (intact : iterator.errorToThrow = none) (queued : iterator.items = [])
    (opened : iterator.isClosed = false) :
    iterator.next = ({ iterator with resolveCurrent := true }, .waits) := by
  simp [next, intact, queued, opened]

theorem resume_item (intact : iterator.errorToThrow = none)
    (queued : iterator.items = item :: items) :
    iterator.resume = ({ iterator with items := items }, .value item) := by
  simp [resume, intact, queued]

theorem resume_empty (intact : iterator.errorToThrow = none) (queued : iterator.items = []) :
    iterator.resume = (iterator, .done) := by
  simp [resume, intact, queued]

end Turns

end AsyncIterator

/-- How an iteration ended. -/
inductive Ending where
  | finished
  | failed (error : List Char)
deriving DecidableEq, Repr

/-- An iterator with its only consumer: whether a `next` of the consumer is waiting, the
items it got so far, and how its iteration ended. -/
structure Iteration (Item : Type) where
  iterator : AsyncIterator Item
  awaiting : Bool
  yielded : List Item
  ended : Option Ending
deriving DecidableEq, Repr

namespace Iteration

variable {Item : Type}

def empty : Iteration Item := ⟨.empty, false, [], none⟩

/-- The producer acts on the iterator. -/
def produce (iteration : Iteration Item) (iterator : AsyncIterator Item) : Iteration Item :=
  { iteration with iterator := iterator }

/-- The consumer receives what its `next` came to. -/
def take (iteration : Iteration Item) : AsyncIterator Item × Next Item → Iteration Item
  | (iterator, .value item) => { iteration with
      iterator := iterator, awaiting := false, yielded := iteration.yielded ++ [item] }
  | (iterator, .done) => { iteration with
      iterator := iterator, awaiting := false, ended := some .finished }
  | (iterator, .threw error) => { iteration with
      iterator := iterator, awaiting := false, ended := some (.failed error) }
  | (iterator, .waits) => { iteration with iterator := iterator, awaiting := true }

/-- The consumer calls `next`, unless one is waiting or the iteration has ended. -/
def ask (iteration : Iteration Item) : Option (Iteration Item) :=
  if iteration.awaiting = false ∧ iteration.ended = none then
    some (iteration.take iteration.iterator.next)
  else none

/-- The waiting `next` goes on, once it was resolved. -/
def wake (iteration : Iteration Item) : Option (Iteration Item) :=
  if iteration.awaiting = true ∧ iteration.iterator.resolveCurrent = false then
    some (iteration.take iteration.iterator.resume)
  else none

/-- The consumer never closes an iterator. -/
theorem ask_isClosed {iteration next : Iteration Item} (asked : iteration.ask = some next) :
    next.iterator.isClosed = iteration.iterator.isClosed := by
  simp only [ask, Option.ite_none_right_eq_some, Option.some.injEq] at asked
  obtain ⟨-, rfl⟩ := asked
  unfold AsyncIterator.next
  split
  · rfl
  · rfl
  · split <;> rfl

theorem wake_isClosed {iteration next : Iteration Item} (woken : iteration.wake = some next) :
    next.iterator.isClosed = iteration.iterator.isClosed := by
  simp only [wake, Option.ite_none_right_eq_some, Option.some.injEq] at woken
  obtain ⟨-, rfl⟩ := woken
  unfold AsyncIterator.resume
  split <;> rfl

end Iteration

section Accounting

variable {Item : Type}

/-- The state of an iteration to which a list of items was added, and which was closed or
not, and which nobody made fail: every item was yielded or is still in the queue, a
waiting `next` that was not resolved has nothing to take, one that was resolved has,
and a finished iteration has taken everything. -/
structure Iteration.Fed (iteration : Iteration Item) (added : List Item) (closed : Bool) :
    Prop where
  kept : iteration.yielded ++ iteration.iterator.items = added
  closing : iteration.iterator.isClosed = closed
  intact : iteration.iterator.errorToThrow = none
  asleep : iteration.iterator.resolveCurrent = true →
    iteration.awaiting = true ∧ iteration.iterator.items = [] ∧ closed = false
  awake : iteration.awaiting = true → iteration.iterator.resolveCurrent = false →
    iteration.iterator.items ≠ [] ∨ closed = true
  atEnd : ∀ ending ∈ iteration.ended, ending = .finished ∧ iteration.awaiting = false ∧
    iteration.iterator.items = [] ∧ closed = true

variable {iteration next : Iteration Item} {added : List Item} {closed : Bool}

theorem empty_fed : (Iteration.empty : Iteration Item).Fed [] false :=
  ⟨rfl, rfl, rfl, by simp [Iteration.empty, AsyncIterator.empty],
    by simp [Iteration.empty], by simp [Iteration.empty]⟩

/-- An item added to an open iteration is accounted for. -/
theorem add_fed (fed : iteration.Fed added false) (item : Item) :
    ∃ iterator, iteration.iterator.add item = some iterator ∧
      (iteration.produce iterator).Fed (added ++ [item]) false := by
  have opened : iteration.iterator.isClosed = false := fed.closing
  refine ⟨{ iteration.iterator with
    items := iteration.iterator.items ++ [item], resolveCurrent := false },
    by simp [AsyncIterator.add, opened], ?_, opened, fed.intact, ?_, ?_, ?_⟩
  · simp [Iteration.produce, ← fed.kept]
  · simp [Iteration.produce]
  · simp [Iteration.produce]
  · intro ending member
    obtain ⟨-, -, -, impossible⟩ := fed.atEnd ending member
    cases impossible

/-- Closing keeps the account. -/
theorem close_fed (fed : iteration.Fed added closed) :
    (iteration.produce iteration.iterator.close).Fed added true := by
  refine ⟨fed.kept, rfl, fed.intact, ?_, ?_, ?_⟩
  · simp [Iteration.produce, AsyncIterator.close]
  · simp
  · intro ending member
    obtain ⟨finished, idle, taken, -⟩ := fed.atEnd ending member
    exact ⟨finished, idle, taken, rfl⟩

/-- An item taken off the queue is yielded. -/
theorem take_value_fed {item : Item} {items : List Item} (fed : iteration.Fed added closed)
    (running : iteration.ended = none) (queued : iteration.iterator.items = item :: items) :
    (iteration.take ({ iteration.iterator with items := items }, .value item)).Fed
      added closed := by
  refine ⟨?_, fed.closing, fed.intact, ?_, ?_, ?_⟩
  · simp [Iteration.take, ← fed.kept, queued]
  · intro waiting
    obtain ⟨-, nothing, -⟩ := fed.asleep waiting
    simp [queued] at nothing
  · simp [Iteration.take]
  · simp [Iteration.take, running]

/-- The end is received when everything was taken and the producer has closed. -/
theorem take_done_fed (fed : iteration.Fed added closed)
    (taken : iteration.iterator.items = []) (ended : closed = true) :
    (iteration.take (iteration.iterator, .done)).Fed added closed := by
  refine ⟨fed.kept, fed.closing, fed.intact, ?_, ?_, ?_⟩
  · intro waiting
    obtain ⟨-, -, impossible⟩ := fed.asleep waiting
    simp [ended] at impossible
  · simp [Iteration.take]
  · simp [Iteration.take, taken, ended]

/-- A call of `next` by the consumer keeps the account: it takes an item, or meets the
end, or waits for a producer that has not closed. -/
theorem ask_fed (fed : iteration.Fed added closed) (asked : iteration.ask = some next) :
    next.Fed added closed := by
  simp only [Iteration.ask, Option.ite_none_right_eq_some, Option.some.injEq] at asked
  obtain ⟨⟨idle, running⟩, rfl⟩ := asked
  cases queued : iteration.iterator.items with
  | cons item items =>
    rw [AsyncIterator.next_item fed.intact queued]
    exact take_value_fed fed running queued
  | nil =>
    cases closing : iteration.iterator.isClosed with
    | true =>
      rw [AsyncIterator.next_closed fed.intact queued closing]
      exact take_done_fed fed queued (fed.closing ▸ closing)
    | false =>
      have opened : closed = false := fed.closing ▸ closing
      rw [AsyncIterator.next_open fed.intact queued closing]
      refine ⟨fed.kept, fed.closing, fed.intact, ?_, ?_, ?_⟩
      · exact fun _ => ⟨rfl, queued, opened⟩
      · simp [Iteration.take]
      · simp [Iteration.take, running]

/-- So does the continuation of a resolved `next`, which finds an item or the end. -/
theorem wake_fed (fed : iteration.Fed added closed) (woken : iteration.wake = some next) :
    next.Fed added closed := by
  simp only [Iteration.wake, Option.ite_none_right_eq_some, Option.some.injEq] at woken
  obtain ⟨⟨waiting, resolved⟩, rfl⟩ := woken
  have running : iteration.ended = none := by
    cases finished : iteration.ended with
    | none => rfl
    | some ending =>
      obtain ⟨-, idle, -⟩ := fed.atEnd ending finished
      simp [waiting] at idle
  cases queued : iteration.iterator.items with
  | cons item items =>
    rw [AsyncIterator.resume_item fed.intact queued]
    exact take_value_fed fed running queued
  | nil =>
    have ended : closed = true :=
      (fed.awake waiting resolved).resolve_left (by simp [queued])
    rw [AsyncIterator.resume_empty fed.intact queued]
    exact take_done_fed fed queued ended

/-- Once the producer has closed, the consumer can always go on, and comes to the end after
it has taken what is left. -/
theorem Iteration.Fed.proceeds (fed : iteration.Fed added true)
    (running : iteration.ended = none) : ∃ next,
      (iteration.ask = some next ∨ iteration.wake = some next) ∧
        (next.ended = some .finished ∨
          next.ended = none ∧ next.iterator.items.length < iteration.iterator.items.length) := by
  cases waiting : iteration.awaiting with
  | true =>
    have resolved : iteration.iterator.resolveCurrent = false := by
      cases unresolved : iteration.iterator.resolveCurrent with
      | false => rfl
      | true => simpa using (fed.asleep unresolved).2.2
    refine ⟨iteration.take iteration.iterator.resume,
      Or.inr (by simp [Iteration.wake, waiting, resolved]), ?_⟩
    cases queued : iteration.iterator.items with
    | nil => simp [AsyncIterator.resume_empty fed.intact queued, Iteration.take]
    | cons item items =>
      simp [AsyncIterator.resume_item fed.intact queued, Iteration.take, running]
  | false =>
    refine ⟨iteration.take iteration.iterator.next,
      Or.inl (by simp [Iteration.ask, waiting, running]), ?_⟩
    cases queued : iteration.iterator.items with
    | nil => simp [AsyncIterator.next_closed fed.intact queued fed.closing, Iteration.take]
    | cons item items =>
      simp [AsyncIterator.next_item fed.intact queued, Iteration.take, running]

end Accounting

end WebPubSub.Tunnel
