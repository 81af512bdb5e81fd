/-!
Names of device buffers.

The hardware never sees a pointer. Its address registers hold the handle of a buffer, a number
that is not negative; a negative handle names no buffer and is written as zero.
-/

namespace VideoAccel

structure Handle where
  value : Int
deriving DecidableEq, Repr

namespace Handle

/-- The handle that stands for no buffer. -/
def none : Handle := ⟨-1⟩

def isValid (handle : Handle) : Bool :=
  0 ≤ handle.value

/-- What an address register holds for the handle. -/
def registerValue (handle : Handle) : BitVec 32 :=
  if handle.isValid then BitVec.ofInt 32 handle.value else 0

theorem registerValue_of_not_isValid {handle : Handle} (invalid : handle.isValid = false) :
    handle.registerValue = 0 := by
  simp [registerValue, invalid]

end Handle

end VideoAccel
