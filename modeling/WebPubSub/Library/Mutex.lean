import Mathlib.Data.List.Basic

/-!
# A mutex with a queue

Tickets stand for those who ask for the mutex. A free mutex is handed out at
once; otherwise the ticket waits. A release hands the mutex to the first ticket
that waits. The holder followed by those who wait is one queue: to ask appends to
it and to release drops its head.
-/

universe u

/-- Who holds the mutex and who waits for it, in order. Nobody waits for a free
mutex. -/
structure Mutex (Ticket : Type u) where
  holder : Option Ticket
  waiting : List Ticket
  idle : holder = none → waiting = []
deriving DecidableEq

namespace Mutex

variable {Ticket : Type u}

/-- A new mutex is free. -/
def free : Mutex Ticket := ⟨none, [], fun _ => rfl⟩

/-- `acquire`: take a free mutex, or wait behind the others. -/
def acquire (mutex : Mutex Ticket) (ticket : Ticket) : Mutex Ticket :=
  match mutex.holder with
  | none => ⟨some ticket, [], nofun⟩
  | some holder => ⟨some holder, mutex.waiting ++ [ticket], nofun⟩

/-- The releaser: hand the mutex to the first ticket that waits. -/
def release (mutex : Mutex Ticket) : Mutex Ticket :=
  match mutex.waiting with
  | [] => free
  | next :: rest => ⟨some next, rest, nofun⟩

/-- The holder and then those who wait. -/
def tickets (mutex : Mutex Ticket) : List Ticket := mutex.holder.toList ++ mutex.waiting

@[simp]
theorem tickets_acquire (mutex : Mutex Ticket) (ticket : Ticket) :
    (mutex.acquire ticket).tickets = mutex.tickets ++ [ticket] := by
  rcases mutex with ⟨_ | holder, waiting, idle⟩
  · obtain rfl : waiting = [] := idle rfl
    rfl
  · simp [acquire, tickets]

@[simp]
theorem tickets_release (mutex : Mutex Ticket) : mutex.release.tickets = mutex.tickets.tail := by
  rcases mutex with ⟨_ | holder, waiting, idle⟩
  · obtain rfl : waiting = [] := idle rfl
    rfl
  · cases waiting <;> rfl

/-- The holder is the head of the queue. -/
theorem holder_eq_head (mutex : Mutex Ticket) : mutex.holder = mutex.tickets.head? := by
  rcases mutex with ⟨_ | holder, waiting, idle⟩
  · obtain rfl : waiting = [] := idle rfl
    rfl
  · rfl

end Mutex
