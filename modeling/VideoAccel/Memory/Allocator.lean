import VideoAccel.Memory.Buffer

/-!
Where device buffers come from.

An `Allocator` hands out buffers, takes them back, and passes host writes on to the device.
`Arena` is the allocator of the simulated board: it numbers its buffers from ten upwards, knows
which of them are still out, remembers the size of every buffer it ever handed out, and can be
told to refuse once it has handed out a given number.
-/

namespace VideoAccel

class Allocator (α : Type) where
  /-- Hands out a zeroed buffer. -/
  alloc (size : Nat) : Action α Buffer
  /-- Takes a buffer back. -/
  release (buffer : Buffer) : α → α
  /-- Makes host writes to a buffer visible to the device. -/
  sync (buffer : Buffer) : Action α Unit

structure Arena where
  nextHandle : Int := 10
  /-- The buffers that are out, oldest first, with their sizes. -/
  live : List (Handle × Nat) := []
  /-- The size of every buffer ever handed out, oldest first. -/
  sizes : List Nat := []
  /-- Refuse once this many buffers were handed out. -/
  failAfter : Option Nat := none
deriving DecidableEq, Repr

namespace Arena

/-- How many buffers were handed out. -/
def allocCount (arena : Arena) : Nat :=
  arena.sizes.length

/-- How many buffers are out. -/
def liveCount (arena : Arena) : Nat :=
  arena.live.length

/-- The total size of the buffers that are out. -/
def liveBytes (arena : Arena) : Nat :=
  (arena.live.map Prod.snd).foldr (· + ·) 0

/-- Whether the arena was told to refuse the next allocation. -/
def refuses (arena : Arena) : Bool :=
  match arena.failAfter with
  | none => false
  | some count => count ≤ arena.allocCount

def alloc (size : Nat) : Action Arena Buffer := fun arena =>
  if arena.refuses then .error (.allocationRefused size) arena
  else
    let handle : Handle := ⟨arena.nextHandle⟩
    .ok (.blank handle size)
      { arena with
        nextHandle := arena.nextHandle + 1
        live := arena.live ++ [(handle, size)]
        sizes := arena.sizes ++ [size] }

def release (buffer : Buffer) (arena : Arena) : Arena :=
  { arena with live := arena.live.filter fun entry => entry.1 ≠ buffer.handle }

instance : Allocator Arena where
  alloc := alloc
  release := release
  sync _ := pure ()

/-- A refused allocation leaves the arena as it was. -/
theorem alloc_eq_error_iff {size : Nat} {arena after : Arena} {fault : Fault} :
    alloc size arena = .error fault after ↔
      arena.refuses = true ∧ fault = .allocationRefused size ∧ after = arena := by
  unfold alloc
  split
  · rename_i refuses
    constructor
    · intro refused; cases refused; exact ⟨refuses, rfl, rfl⟩
    · rintro ⟨-, rfl, rfl⟩; rfl
  · rename_i grants
    constructor
    · intro refused; cases refused
    · rintro ⟨refuses, -, -⟩; exact absurd refuses grants

end Arena

end VideoAccel
