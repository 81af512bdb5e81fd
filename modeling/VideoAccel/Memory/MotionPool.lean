import VideoAccel.Memory.Allocator
import VideoAccel.Pipeline.Event

/-!
Motion vector buffers, one per slot of the picture store.

Decoding a picture writes its motion vectors, and later pictures read those of their references.
The pool is rebuilt as a whole: when a picture needs larger buffers or the number of slots
changed, every buffer goes back and new ones are taken. If one of them is refused, those taken
before it go back too, and the pool is empty.
-/

namespace VideoAccel

structure MotionPool where
  buffers : List Buffer
  /-- The size every buffer was asked for. -/
  bufferSize : Nat
  /-- Whether the buffers were ever provided; a pool for no slots has none and is provided. -/
  provisioned : Bool
deriving DecidableEq, Repr

namespace MotionPool

/-- The bytes that the motion vectors of a picture take. -/
def bytesFor (width height : Nat) (fieldCoding : Bool) : Nat :=
  let frame := width * height / 2
  if fieldCoding then frame * 2 else frame

def empty : MotionPool := ⟨[], 0, false⟩

/-- The handle of a slot's buffer. -/
def handle (pool : MotionPool) (slot : Nat) : Handle :=
  (pool.buffers[slot]?.map (·.handle)).getD .none

def slotCount (pool : MotionPool) : Nat :=
  pool.buffers.length

variable {α : Type} [Allocator α]

/-- Gives every buffer back. -/
def release (pool : MotionPool) (allocator : α) : MotionPool × α :=
  (empty, pool.buffers.foldl (fun allocator buffer => Allocator.release buffer allocator) allocator)

/-- Takes `count` buffers, or none at all: when one is refused, those before it go back. -/
def allocAll (size : Nat) : Nat → Action α (List Buffer)
  | 0 => pure []
  | count + 1 => fun allocator =>
      match Allocator.alloc size allocator with
      | .error fault allocator => .error fault allocator
      | .ok buffer allocator =>
          match allocAll size count allocator with
          | .error fault allocator => .error fault (Allocator.release buffer allocator)
          | .ok buffers allocator => .ok (buffer :: buffers) allocator

/-- Whether the pool already has `slots` buffers of at least `size` bytes. -/
def serves (pool : MotionPool) (slots size : Nat) : Bool :=
  pool.provisioned && size ≤ pool.bufferSize && slots == pool.slotCount

/-- Sees to it that the pool has `slots` buffers of at least `size` bytes. Answers with what is
to be recorded when it was rebuilt, and with nothing when it could stay. -/
def ensure (slots size : Nat) : Action (MotionPool × α) (Option Event) :=
  fun (pool, allocator) =>
    if pool.serves slots size then .ok none (pool, allocator)
    else
      let (emptied, allocator) := pool.release allocator
      match allocAll size slots allocator with
      | .error fault allocator => .error fault (emptied, allocator)
      | .ok buffers allocator =>
          .ok (some (.motionPoolRebuilt slots size)) (⟨buffers, size, true⟩, allocator)

end MotionPool

end VideoAccel
