import VideoAccel.Action
import VideoAccel.Bytes
import VideoAccel.Memory.Handle

/-!
Buffers that host and device share.

A buffer has a handle and a fixed size and starts out zero. Only the bytes up to the last one
ever written are kept; the bytes behind them are zero, so that a large buffer which only the
device fills costs nothing. `byteAt` is the content, byte by byte.
-/

namespace VideoAccel

structure Buffer where
  handle : Handle
  size : Nat
  /-- The first bytes; all further ones are zero. -/
  head : Bytes
  head_le : head.size ≤ size
deriving DecidableEq, Repr

namespace Buffer

/-- A fresh buffer of `size` zero bytes. -/
def blank (handle : Handle) (size : Nat) : Buffer :=
  ⟨handle, size, #[], Nat.zero_le _⟩

/-- The byte at a position; zero past the end. -/
def byteAt (buffer : Buffer) (position : Nat) : Byte :=
  buffer.head.at0 position

/-- The whole content. -/
def toBytes (buffer : Buffer) : Bytes :=
  buffer.head.extend buffer.size

/-- The bytes from `start` on, `length` of them, if they all lie inside the buffer. -/
def slice? (buffer : Buffer) (start length : Nat) : Option Bytes :=
  if start + length ≤ buffer.size then
    some (Bytes.extend (buffer.head.extract start (start + length)) length)
  else none

/-- Replaces bytes that lie inside the buffer. -/
def overwrite (buffer : Buffer) (start : Nat) (data : Bytes)
    (inside : start + data.size ≤ buffer.size) : Buffer :=
  { buffer with
    head := (buffer.head.extend (start + data.size)).overwrite start data
    head_le := by
      rw [Bytes.size_overwrite, Bytes.size_extend]
      exact Nat.max_le.mpr ⟨buffer.head_le, inside⟩ }

/-- Stores `data` from position `start` on. Data that would leave the buffer is refused. -/
def write (start : Nat) (data : Bytes) : Action Buffer Unit := fun buffer =>
  if inside : start + data.size ≤ buffer.size then .ok () (buffer.overwrite start data inside)
  else .error (.bufferOverrun start data.size buffer.size) buffer

/-- Stores several pieces in order, up to the first that does not fit. -/
def writeAll : List (Nat × Bytes) → Action Buffer Unit
  | [] => pure ()
  | (start, data) :: rest => do
      write start data
      writeAll rest

/-- Sets every byte. -/
def fill (buffer : Buffer) (value : Byte) : Buffer :=
  { buffer with
    head := Array.replicate buffer.size value
    head_le := by simp }

@[simp] theorem size_overwrite (buffer : Buffer) (start : Nat) (data : Bytes)
    (inside : start + data.size ≤ buffer.size) :
    (buffer.overwrite start data inside).size = buffer.size := rfl

@[simp] theorem handle_overwrite (buffer : Buffer) (start : Nat) (data : Bytes)
    (inside : start + data.size ≤ buffer.size) :
    (buffer.overwrite start data inside).handle = buffer.handle := rfl

theorem size_toBytes (buffer : Buffer) : buffer.toBytes.size = buffer.size := by
  rw [toBytes, Bytes.size_extend]
  exact Nat.max_eq_right buffer.head_le

/-- A refused write leaves the buffer as it was. -/
theorem write_eq_error_iff {start : Nat} {data : Bytes} {buffer after : Buffer} {fault : Fault} :
    write start data buffer = .error fault after ↔
      buffer.size < start + data.size ∧
        fault = .bufferOverrun start data.size buffer.size ∧ after = buffer := by
  unfold write
  split
  · rename_i inside
    constructor
    · intro refused; cases refused
    · rintro ⟨outside, -, -⟩; exact absurd inside (Nat.not_le.mpr outside)
  · rename_i outside
    constructor
    · intro refused; cases refused; exact ⟨Nat.not_le.mp outside, rfl, rfl⟩
    · rintro ⟨-, rfl, rfl⟩; rfl

end Buffer

end VideoAccel
