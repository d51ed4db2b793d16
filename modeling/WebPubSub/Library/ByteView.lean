import Mathlib.Data.List.Basic

/-!
# Views of a buffer of bytes

A typed array is a window on an `ArrayBuffer`, which it may share with others. What it
holds are the bytes within the window; the buffer behind it is larger unless the window
covers it. A part of a view either shares the buffer or is a copy with a buffer of its own.
-/

/-- A window on a buffer, which does not reach beyond it. -/
structure ByteView where
  buffer : List UInt8
  byteOffset : Nat
  length : Nat
  inside : byteOffset + length ≤ buffer.length
deriving DecidableEq

namespace ByteView

/-- The bytes within the window. -/
def bytes (view : ByteView) : List UInt8 := (view.buffer.drop view.byteOffset).take view.length

/-- The view of a whole buffer. -/
def whole (buffer : List UInt8) : ByteView := ⟨buffer, 0, buffer.length, by omega⟩

/-- An end that is below zero counts from the end of the view. -/
def stopAt (view : ByteView) (stop : Int) : Nat :=
  (if stop < 0 then view.length + stop else stop).toNat

/-- `subarray`: a part of the window on the same buffer. -/
def subarray (view : ByteView) (start : Nat) (stop : Int) : ByteView where
  buffer := view.buffer
  byteOffset := view.byteOffset + min start view.length
  length := min (view.stopAt stop) view.length - min start view.length
  inside := by
    have inside := view.inside
    omega

variable (view : ByteView)

@[simp]
theorem length_bytes : view.bytes.length = view.length := by
  have inside := view.inside
  simp only [bytes, List.length_take, List.length_drop]
  omega

@[simp]
theorem bytes_whole (buffer : List UInt8) : (whole buffer).bytes = buffer := by
  simp [bytes, whole]

@[simp]
theorem buffer_subarray (start : Nat) (stop : Int) :
    (view.subarray start stop).buffer = view.buffer := rfl

/-- The bytes of a part are that part of the bytes. -/
theorem bytes_subarray (start : Nat) (stop : Int) :
    (view.subarray start stop).bytes = (view.bytes.take (view.stopAt stop)).drop start := by
  have inside := view.inside
  simp only [bytes, subarray]
  rw [List.take_take, List.drop_take, List.drop_drop]
  by_cases within : start ≤ view.length
  · rw [Nat.min_eq_left within]
  · have start_all : min start view.length = view.length := by omega
    have none_left : min (view.stopAt stop) view.length - view.length = 0 := by omega
    have none_kept : min (view.stopAt stop) view.length - start = 0 := by omega
    rw [start_all, none_left, none_kept, List.take_zero, List.take_zero]

/-- The buffer is what the view holds exactly when the view covers it. -/
theorem buffer_eq_bytes_iff : view.buffer = view.bytes ↔ view.length = view.buffer.length := by
  have inside := view.inside
  constructor
  · intro same
    rw [same, length_bytes]
  · intro covers
    have start : view.byteOffset = 0 := by omega
    rw [bytes, start, List.drop_zero, covers, List.take_length]

end ByteView
