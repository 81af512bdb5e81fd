import VideoAccel.Frame.Format
import VideoAccel.Frame.Stride
import VideoAccel.Memory.Handle
import VideoAccel.Numeral

/-!
The picture buffers of the decoder, seen by slot.

The decoder owns one picture buffer per slot of its picture store. All pictures have one size and
format; a slot can be marked as damaged. `FramePool.frame?` describes the buffer of a slot as the
accelerator needs it, with strides that follow the stride rule in force at the moment of asking.
-/

namespace VideoAccel

/-- A picture buffer as the accelerator sees it. -/
structure FrameBuffer where
  handle : Handle
  width : Nat
  height : Nat
  /-- Bytes from one line to the next. -/
  lineStride : Nat
  /-- Lines to a plane. -/
  planeLines : Nat
  format : FrameFormat
  compressed : Bool
  damaged : Bool
deriving DecidableEq, Repr

structure FramePool where
  /-- For every slot, whether its picture is damaged. -/
  damage : List Bool
  width : Nat
  height : Nat
  format : FrameFormat
  compressed : Bool := false
  stride : StrideRule := .multiple16
deriving DecidableEq, Repr

namespace FramePool

/-- The handle of slot zero; the others count up from it. -/
def firstHandle : Int := 1000

/-- A pool of `slots` undamaged pictures. -/
def ofSize (slots width height : Nat) (format : FrameFormat) : FramePool :=
  { damage := List.replicate slots false, width, height, format }

def slotCount (pool : FramePool) : Nat :=
  pool.damage.length

/-- The buffer of a slot, if there is such a slot. Strides are kept to 32 bits. -/
def frame? (pool : FramePool) (slot : Nat) : Option FrameBuffer :=
  pool.damage[slot]?.map fun damaged =>
    { handle := ⟨firstHandle + slot⟩
      width := pool.width
      height := pool.height
      lineStride := pool.stride.apply (pool.format.lineBytes pool.width) % Numeral.bound32
      planeLines := alignUp pool.height 16 % Numeral.bound32
      format := pool.format
      compressed := pool.compressed
      damaged }

/-- Marks a slot as damaged or sound. A slot that does not exist is passed over. -/
def setDamage (pool : FramePool) (slot : Nat) (damaged : Bool) : FramePool :=
  { pool with damage := pool.damage.set slot damaged }

/-- A pool answers for exactly its slots. -/
theorem isSome_frame?_iff {pool : FramePool} {slot : Nat} :
    (pool.frame? slot).isSome ↔ slot < pool.slotCount := by
  simp [frame?, slotCount]

end FramePool

end VideoAccel
