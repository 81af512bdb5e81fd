import VideoAccel.Bytes
import VideoAccel.Fault

/-!
The table of address offsets that travels beside the register file.

An address register holds only the handle of a buffer. Where inside that buffer the hardware
shall look is said by a patch: a register and a byte offset. A table keeps at most one patch per
register and at most sixteen in all; an offset of zero needs no patch and is not recorded.
-/

namespace VideoAccel

structure Patch where
  reg : Nat
  offset : Nat
deriving DecidableEq, Repr

/-- The patches, in the order in which their registers first came up. -/
structure PatchTable where
  entries : List Patch
deriving DecidableEq, Repr

namespace PatchTable

/-- How many patches a table can hold. -/
def limit : Nat := 16

/-- The number a serialised table starts with. -/
def magic : BitVec 32 := 0x52454f46

def empty : PatchTable := ⟨[]⟩

/-- Records `offset` for `reg`. A later offset for the same register takes the place of the
earlier one; a further register needs room. -/
def push (table : PatchTable) (reg offset : Nat) : Except Fault PatchTable :=
  if offset = 0 then .ok table
  else if Numeral.bound32 ≤ reg then .error (.patchRegister reg)
  else if Numeral.bound32 ≤ offset then .error (.patchOffset offset)
  else if table.entries.any (·.reg == reg) then
    .ok ⟨table.entries.map fun patch => if patch.reg = reg then { patch with offset } else patch⟩
  else if limit ≤ table.entries.length then .error (.patchTableFull limit reg)
  else .ok ⟨table.entries ++ [⟨reg, offset⟩]⟩

/-- The offset recorded for a register. -/
def offsetOf? (table : PatchTable) (reg : Nat) : Option Nat :=
  (table.entries.find? (·.reg == reg)).map (·.offset)

/-- How the device receives the table: the magic number, the count of patches, then register and
offset of each, every number in four bytes with the least significant first. -/
def serialise (table : PatchTable) : Bytes :=
  let numbers := magic :: BitVec.ofNat 32 table.entries.length ::
    table.entries.flatMap fun patch => [BitVec.ofNat 32 patch.reg, BitVec.ofNat 32 patch.offset]
  (numbers.flatMap fun number => (Bytes.ofWord32 number).toList).toArray

theorem push_zero (table : PatchTable) (reg : Nat) : table.push reg 0 = .ok table := by
  simp [push]

/-- A recorded table never outgrows its limit. -/
theorem length_push_le {table next : PatchTable} {reg offset : Nat}
    (small : table.entries.length ≤ limit) (pushed : table.push reg offset = .ok next) :
    next.entries.length ≤ limit := by
  unfold push at pushed
  split at pushed
  · cases pushed; exact small
  split at pushed
  · cases pushed
  split at pushed
  · cases pushed
  split at pushed
  · cases pushed; simpa using small
  split at pushed
  · cases pushed
  · rename_i room
    cases pushed
    simp only [List.length_append, List.length_cons, List.length_nil]
    omega

end PatchTable

end VideoAccel
