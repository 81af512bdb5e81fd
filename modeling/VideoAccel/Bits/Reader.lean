import VideoAccel.Action
import VideoAccel.Bytes

/-!
A reader of bit fields out of 64-bit words, in the order in which the writer packs them.

A read either answers with the next bits as a number and moves behind them, or is refused and
does not move.
-/

namespace VideoAccel

structure Reader where
  words : Array Word
  /-- The number of bits before the read position. -/
  position : Nat
deriving DecidableEq, Repr

namespace Reader

def ofWords (words : Array Word) : Reader :=
  ⟨words, 0⟩

/-- How many bits are left. -/
def left (reader : Reader) : Nat :=
  reader.words.size * 64 - reader.position

/-- The next `count` bits as a number, for `count` from 1 to 64 and at most `left`. A field that
crosses into the next word takes its low part from there. -/
def peek (reader : Reader) (count : Nat) : Word :=
  let index := reader.position / 64
  let used := reader.position % 64
  let first := reader.words.getD index 0 <<< used
  if count ≤ 64 - used then first >>> (64 - count)
  else
    let rest := count - (64 - used)
    (first >>> used) <<< rest ||| reader.words.getD (index + 1) 0 >>> (64 - rest)

/-- Reads `count` bits, at most 64. -/
def read (count : Nat) : Action Reader Word := fun reader =>
  if count = 0 then .ok 0 reader
  else if 64 < count then .error (.readTooWide count) reader
  else if reader.left < count then .error (.readPastEnd reader.left count) reader
  else .ok (reader.peek count) { reader with position := reader.position + count }

/-- Reads one bit. -/
def readBit : Action Reader Bool := do
  let bit ← read 1
  return bit == 1

/-- Moves on by `count` bits. -/
def skip (count : Nat) : Action Reader Unit := fun reader =>
  if reader.left < count then .error (.skipPastEnd reader.left count) reader
  else .ok () { reader with position := reader.position + count }

end Reader

end VideoAccel
