import VideoAccel.Alignment
import VideoAccel.Numeral

/-!
How the scratch buffer is divided.

One scratch buffer serves all pipeline slots. It starts with the table of entropy decoder start
values and an area for error details, which the slots share; then follows one region per slot
with its parameter sets, reference lists and scaling matrices. Every area starts on a page.

Offsets and sizes are machine words of 64 bits: sums and products that exceed them wrap.
-/

namespace VideoAccel

/-- The sizes of the areas, in bytes. -/
structure ScratchSizes where
  entropy : Nat
  errorInfo : Nat
  parameters : Nat
  lists : Nat
  scaling : Nat
deriving DecidableEq, Repr

/-- Where the three areas of one region start. -/
structure ScratchRegion where
  parameters : Nat
  lists : Nat
  scaling : Nat
deriving DecidableEq, Repr

structure ScratchLayout where
  sizes : ScratchSizes
  /-- The number of regions. -/
  copies : Nat
  copies_pos : 0 < copies
deriving Repr

namespace ScratchLayout

/-- A layout of the given number of regions, and of one region if none is asked for. -/
def of (sizes : ScratchSizes) (copies : Nat) : ScratchLayout :=
  ⟨sizes, max copies 1, Nat.lt_of_lt_of_le Nat.zero_lt_one (Nat.le_max_right ..)⟩

/-- Where the entropy table starts. -/
def entropyOffset (_ : ScratchLayout) : Nat := 0

/-- The whole pages that an area of this size takes, in bytes. -/
def pages (size : Nat) : Nat :=
  alignPage size % Numeral.bound64

/-- Where the error details start. -/
def errorInfoOffset (layout : ScratchLayout) : Nat :=
  pages layout.sizes.entropy

/-- Where the first region starts. -/
def regionsOffset (layout : ScratchLayout) : Nat :=
  (layout.errorInfoOffset + pages layout.sizes.errorInfo) % Numeral.bound64

/-- The distance of two regions. -/
def stride (layout : ScratchLayout) : Nat :=
  (pages layout.sizes.parameters + pages layout.sizes.lists + pages layout.sizes.scaling) %
    Numeral.bound64

/-- The areas of region `index`. -/
def region (layout : ScratchLayout) (index : Nat) : ScratchRegion :=
  let parameters := (layout.regionsOffset + index * layout.stride) % Numeral.bound64
  let lists := (parameters + pages layout.sizes.parameters) % Numeral.bound64
  { parameters, lists, scaling := (lists + pages layout.sizes.lists) % Numeral.bound64 }

/-- The size of the whole buffer. -/
def totalSize (layout : ScratchLayout) : Nat :=
  (layout.regionsOffset + layout.copies * layout.stride) % Numeral.bound64

end ScratchLayout

end VideoAccel
