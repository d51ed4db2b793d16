import Mathlib.Data.List.Basic
import Mathlib.Tactic.Cases

/-!
# Numbered messages that are sent again

A sender numbers its messages from one and keeps a log of them. Over a session it sends the
messages behind some position of the log, and each new one; a session may end at any time with
all that is under way. A receiver keeps the largest number it has seen and takes a message when
its number is larger.

Sessions start at a position that the receiver has reached. What is under way then continues
what was taken, and what was taken is always a front part of the log.
-/

universe u

namespace Redelivery

variable {Message : Type u}

/-- The messages with their numbers. -/
def numbered (log : List Message) : List (Message × Nat) := log.zipIdx 1

/-- What is under way are the messages behind a position that the receiver has reached. -/
def Underway (log : List Message) (latest : Nat) (messages : List (Message × Nat)) : Prop :=
  ∃ position ≤ latest, messages = (numbered log).drop position

section Laws

variable {log : List Message} {latest : Nat} {messages : List (Message × Nat)}

theorem length_numbered (log : List Message) : (numbered log).length = log.length :=
  List.length_zipIdx

theorem numbered_append (log : List Message) (message : Message) :
    numbered (log ++ [message]) = numbered log ++ [(message, log.length + 1)] := by
  rw [numbered, List.zipIdx_append, Nat.add_comm 1]
  rfl

theorem getElem?_numbered (position : Nat) :
    (numbered log)[position]? = log[position]?.map (fun message => (message, position + 1)) := by
  rw [numbered, List.getElem?_zipIdx, Nat.add_comm 1]

theorem mem_of_mem_numbered {entry : Message × Nat} (listed : entry ∈ numbered log) :
    entry.1 ∈ log := by
  obtain ⟨position, found⟩ := List.mem_iff_getElem?.mp listed
  rw [getElem?_numbered] at found
  obtain ⟨message, here, rfl⟩ := Option.map_eq_some_iff.mp found
  exact List.mem_of_getElem? here

/-- A session starts at a position that was reached. -/
theorem Underway.start {position : Nat} (reached : position ≤ latest) :
    Underway log latest ((numbered log).drop position) := ⟨position, reached, rfl⟩

/-- A new message is sent behind all others. -/
theorem Underway.post (underway : Underway log latest messages) (inside : latest ≤ log.length)
    (message : Message) :
    Underway (log ++ [message]) latest (messages ++ [(message, log.length + 1)]) := by
  obtain ⟨position, reached, rfl⟩ := underway
  refine ⟨position, reached, ?_⟩
  rw [numbered_append, List.drop_append_of_le_length]
  rw [length_numbered]
  exact Nat.le_trans reached inside

/-- The next message is one that was taken before, or the first that was not. -/
theorem Underway.next {message : Message} {number : Nat}
    (underway : Underway log latest ((message, number) :: messages)) :
    Underway log (max latest number) messages ∧ number ≤ log.length ∧
      (latest < number → number = latest + 1 ∧ log[latest]? = some message) := by
  obtain ⟨position, reached, shape⟩ := underway
  have head : (numbered log)[position]? = some (message, number) := by
    rw [← List.head?_drop, ← shape, List.head?_cons]
  have rest : (numbered log).drop (position + 1) = messages := by
    rw [← List.tail_drop, ← shape, List.tail_cons]
  rw [getElem?_numbered] at head
  obtain ⟨found, here, same⟩ := Option.map_eq_some_iff.mp head
  obtain ⟨rfl, rfl⟩ := Prod.mk.inj same
  refine ⟨⟨position + 1, Nat.le_max_right _ _, rest.symm⟩, ?_, ?_⟩
  · exact (List.getElem?_eq_some_iff.mp here).1
  · intro later
    obtain rfl : position = latest := by omega
    exact ⟨rfl, here⟩

/-- Taking the first message that was not taken. -/
theorem take_next {message : Message} (here : log[latest]? = some message) :
    (numbered log).take (latest + 1) = (numbered log).take latest ++ [(message, latest + 1)] := by
  rw [List.take_add_one, getElem?_numbered, here]
  rfl

/-- When nothing is under way, everything was taken. -/
theorem Underway.done (underway : Underway log latest []) : log.length ≤ latest := by
  obtain ⟨position, reached, shape⟩ := underway
  have short := List.drop_eq_nil_iff.mp shape.symm
  rw [length_numbered] at short
  exact Nat.le_trans short reached

/-- What was taken stays a front part of the log. -/
theorem take_append (inside : latest ≤ log.length) (message : Message) :
    (numbered (log ++ [message])).take latest = (numbered log).take latest := by
  rw [numbered_append, List.take_append_of_le_length]
  rw [length_numbered]
  exact inside

end Laws

end Redelivery
