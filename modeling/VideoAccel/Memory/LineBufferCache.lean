import VideoAccel.Memory.Allocator
import VideoAccel.Pipeline.Event

/-!
The line buffers in use, kept from picture to picture.

As long as pictures keep their shape key the device buffer stays; a picture with another key, or
one after `invalidate`, makes the cache give the buffer back and take a new one. The places are
computed anew together with the buffer, and stay computed even when the new buffer is refused.
-/

namespace VideoAccel

structure LineBufferCache where
  buffers : List LineBuffer
  /-- The key the buffers were placed for, while it still holds. -/
  placedFor : Option ShapeKey
  memory : Option Buffer
deriving DecidableEq, Repr

namespace LineBufferCache

/-- A cache without memory, for one buffer of every class at the given address registers. -/
def empty (registers : List Nat) : LineBufferCache :=
  { buffers := (LineBufferClass.all.zip registers).map fun (cls, reg) => ⟨cls, reg, 0, 0⟩
    placedFor := none
    memory := none }

/-- Makes the next picture place the buffers anew, whatever its shape. -/
def invalidate (cache : LineBufferCache) : LineBufferCache :=
  { cache with placedFor := none }

/-- The handle of the device buffer. -/
def handle (cache : LineBufferCache) : Handle :=
  (cache.memory.map (·.handle)).getD .none

/-- The size of the device buffer. -/
def size (cache : LineBufferCache) : Nat :=
  (cache.memory.map (·.size)).getD 0

variable {α : Type} [Allocator α]

/-- Gives the device buffer back, if there is one. -/
def release (cache : LineBufferCache) (allocator : α) : LineBufferCache × α :=
  match cache.memory with
  | none => ({ cache with placedFor := none }, allocator)
  | some buffer =>
      ({ cache with memory := none, placedFor := none }, Allocator.release buffer allocator)

/-- Sees to it that the buffers fit a picture. Answers with what is to be recorded when they had
to be placed anew, and with nothing when they could be kept. -/
def ensure (shape : PictureShape) : Action (LineBufferCache × α) (Option Event) :=
  fun (cache, allocator) =>
    if cache.memory.isSome && !LineBuffer.outdated cache.placedFor shape.key then
      .ok none (cache, allocator)
    else
      let (emptied, allocator) := cache.release allocator
      let buffers := LineBuffer.place shape (emptied.buffers.map fun b => (b.cls, b.reg))
      let total := LineBuffer.totalSize buffers
      match Allocator.alloc total allocator with
      | .error fault allocator => .error fault ({ emptied with buffers }, allocator)
      | .ok buffer allocator =>
          .ok (some (.lineBuffersPlaced shape.key shape.compressed total))
            ({ buffers, placedFor := some shape.key, memory := some buffer }, allocator)

end LineBufferCache

end VideoAccel
