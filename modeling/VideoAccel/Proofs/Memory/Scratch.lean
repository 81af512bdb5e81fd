import VideoAccel.Memory.Buffer
import VideoAccel.Memory.Scratch
import VideoAccel.Proofs.Action
import VideoAccel.Proofs.Bytes

/-!
Writes to shared buffers, and the areas of the scratch buffer they stay in.

A write replaces exactly the bytes it names (`Buffer.byteAt_overwrite`), and a sequence of writes,
finished or refused halfway, changes nothing outside the stretch that all its pieces lie in. The
areas of a scratch region are disjoint from those of every other region and from the area in front
of the regions, whatever the sizes and the number of regions, if the size of the whole buffer is a
machine word (`ScratchLayout.Fits`).
-/

namespace VideoAccel

namespace Buffer

/-- What a write leaves at a position. -/
theorem byteAt_overwrite (buffer : Buffer) (start : Nat) (data : Bytes)
    (inside : start + data.size ≤ buffer.size) (position : Nat) :
    (buffer.overwrite start data inside).byteAt position =
      if start ≤ position ∧ position < start + data.size then data.at0 (position - start)
      else buffer.byteAt position := by
  unfold overwrite byteAt
  rw [Bytes.at0_overwrite, Bytes.size_extend, Bytes.at0_extend]
  by_cases here : start ≤ position ∧ position < start + data.size
  · rw [if_pos here, if_pos (by omega)]
  · rw [if_neg here, if_neg (by omega)]

/-- The buffer is still the same one, and only bytes that `touched` allows have changed. -/
structure ChangedIn (touched : Nat → Prop) (before after : Buffer) : Prop where
  handle : after.handle = before.handle
  size : after.size = before.size
  bytes : ∀ position, ¬ touched position → after.byteAt position = before.byteAt position

theorem ChangedIn.refl (touched : Nat → Prop) (buffer : Buffer) : ChangedIn touched buffer buffer :=
  ⟨rfl, rfl, fun _ _ => rfl⟩

theorem ChangedIn.trans {touched : Nat → Prop} {a b c : Buffer} (first : ChangedIn touched a b)
    (second : ChangedIn touched b c) : ChangedIn touched a c where
  handle := second.handle.trans first.handle
  size := second.size.trans first.size
  bytes position apart := (second.bytes position apart).trans (first.bytes position apart)

theorem ChangedIn.steady (touched : Nat → Prop) : Action.Steady (ChangedIn touched) :=
  ⟨ChangedIn.refl touched, ChangedIn.trans⟩

theorem write_changedIn {touched : Nat → Prop} {start : Nat} {data : Bytes}
    (covered : ∀ position, start ≤ position → position < start + data.size → touched position) :
    Action.Keeps (ChangedIn touched) (write start data) := by
  intro buffer
  unfold write
  by_cases inside : start + data.size ≤ buffer.size
  · rw [dif_pos inside, Action.after_ok]
    refine ⟨rfl, rfl, ?_⟩
    intro position apart
    rw [byteAt_overwrite, if_neg]
    rintro ⟨low, high⟩
    exact apart (covered position low high)
  · rw [dif_neg inside, Action.after_error]
    exact ChangedIn.refl touched buffer

theorem writeAll_changedIn {touched : Nat → Prop} {pieces : List (Nat × Bytes)}
    (covered : ∀ piece ∈ pieces, ∀ position, piece.1 ≤ position →
      position < piece.1 + piece.2.size → touched position) :
    Action.Keeps (ChangedIn touched) (writeAll pieces) := by
  induction pieces with
  | nil => exact .pure (ChangedIn.steady touched) ()
  | cons piece rest ih =>
      have first := write_changedIn (covered piece List.mem_cons_self)
      have later := ih fun other member => covered other (List.mem_cons_of_mem _ member)
      exact .bind (ChangedIn.steady touched) first fun _ => later

theorem write_of_le {start : Nat} {data : Bytes} (buffer : Buffer)
    (inside : start + data.size ≤ buffer.size) :
    write start data buffer = .ok () (buffer.overwrite start data inside) :=
  dif_pos inside

/-- Pieces that all lie inside the buffer are all stored. -/
theorem writeAll_ok {pieces : List (Nat × Bytes)} (buffer : Buffer)
    (inside : ∀ piece ∈ pieces, piece.1 + piece.2.size ≤ buffer.size) :
    ∃ final, writeAll pieces buffer = .ok () final := by
  induction pieces generalizing buffer with
  | nil => exact ⟨buffer, rfl⟩
  | cons piece rest ih =>
      have fits := inside piece List.mem_cons_self
      obtain ⟨final, rest⟩ := ih (buffer.overwrite piece.1 piece.2 fits)
        fun other member => inside other (List.mem_cons_of_mem _ member)
      exact ⟨final, (Action.bind_of_ok (write_of_le buffer fits) _).trans rest⟩

end Buffer

namespace ScratchLayout

theorem le_alignPage (value : Nat) : value ≤ alignPage value :=
  le_alignUp value pageSize

theorem pages_eq {size : Nat} (small : alignPage size < Numeral.bound64) :
    pages size = alignPage size :=
  Nat.mod_eq_of_lt small

/-! ### Layouts whose offsets do not wrap -/

/-- The bytes that the areas of one region take, as a number of any size. -/
def regionExtent (layout : ScratchLayout) : Nat :=
  alignPage layout.sizes.parameters + alignPage layout.sizes.lists + alignPage layout.sizes.scaling

/-- The bytes that the shared areas take, as a number of any size. -/
def commonExtent (layout : ScratchLayout) : Nat :=
  alignPage layout.sizes.entropy + alignPage layout.sizes.errorInfo

/-- The bytes that all areas take, as a number of any size. -/
def extent (layout : ScratchLayout) : Nat :=
  layout.commonExtent + layout.copies * layout.regionExtent

/-- The size of the whole buffer is a machine word, so that no offset into it wraps. -/
def Fits (layout : ScratchLayout) : Prop :=
  layout.extent < Numeral.bound64

instance (layout : ScratchLayout) : Decidable layout.Fits :=
  inferInstanceAs (Decidable (_ < _))

section Fits

variable {layout : ScratchLayout} (fits : layout.Fits)
include fits

/-- The first regions and the shared areas take no more than all areas together. -/
theorem Fits.upTo {index : Nat} (known : index ≤ layout.copies) :
    layout.commonExtent + index * layout.regionExtent < Numeral.bound64 :=
  Nat.lt_of_le_of_lt (Nat.add_le_add_left (Nat.mul_le_mul_right _ known) _) fits

theorem Fits.errorInfoOffset_eq : layout.errorInfoOffset = alignPage layout.sizes.entropy := by
  have common := fits.upTo (Nat.zero_le _)
  unfold commonExtent at common
  exact pages_eq (by omega)

theorem Fits.regionsOffset_eq : layout.regionsOffset = layout.commonExtent := by
  have common := fits.upTo (Nat.zero_le _)
  unfold commonExtent at common
  rw [regionsOffset, fits.errorInfoOffset_eq, pages_eq (by omega)]
  exact Nat.mod_eq_of_lt (by omega)

/-- The areas of one region have sizes that are machine words. -/
theorem Fits.pages_eq : pages layout.sizes.parameters = alignPage layout.sizes.parameters ∧
    pages layout.sizes.lists = alignPage layout.sizes.lists ∧
    pages layout.sizes.scaling = alignPage layout.sizes.scaling := by
  have one := fits.upTo layout.copies_pos
  unfold regionExtent at one
  exact ⟨ScratchLayout.pages_eq (by omega), ScratchLayout.pages_eq (by omega),
    ScratchLayout.pages_eq (by omega)⟩

theorem Fits.stride_eq : layout.stride = layout.regionExtent := by
  have one := fits.upTo layout.copies_pos
  obtain ⟨parameters, lists, scaling⟩ := fits.pages_eq
  rw [stride, parameters, lists, scaling]
  exact Nat.mod_eq_of_lt (by unfold regionExtent at one; omega)

/-- Where a region starts; the end of the last one counts as the start of the next. -/
theorem Fits.parameters_region {index : Nat} (known : index ≤ layout.copies) :
    (layout.region index).parameters = layout.commonExtent + index * layout.regionExtent := by
  unfold region
  rw [fits.regionsOffset_eq, fits.stride_eq]
  exact Nat.mod_eq_of_lt (fits.upTo known)

theorem Fits.totalSize_eq : layout.totalSize = layout.extent := by
  rw [totalSize, fits.regionsOffset_eq, fits.stride_eq]
  exact Nat.mod_eq_of_lt fits

/-- Within a region the areas follow each other, and the next region follows the last of them. -/
theorem Fits.lists_region {index : Nat} (known : index < layout.copies) :
    (layout.region index).lists =
      (layout.region index).parameters + alignPage layout.sizes.parameters := by
  have next := fits.upTo (Nat.succ_le_of_lt known)
  have start := fits.parameters_region (Nat.le_of_lt known)
  rw [Nat.succ_mul, ← Nat.add_assoc, ← start, regionExtent] at next
  show ((layout.region index).parameters + pages layout.sizes.parameters) % _ = _
  rw [fits.pages_eq.1]
  exact Nat.mod_eq_of_lt (by omega)

theorem Fits.scaling_region {index : Nat} (known : index < layout.copies) :
    (layout.region index).scaling =
      (layout.region index).lists + alignPage layout.sizes.lists := by
  have next := fits.upTo (Nat.succ_le_of_lt known)
  have start := fits.parameters_region (Nat.le_of_lt known)
  have lists := fits.lists_region known
  rw [Nat.succ_mul, ← Nat.add_assoc, ← start, regionExtent] at next
  show ((layout.region index).lists + pages layout.sizes.lists) % _ = _
  rw [fits.pages_eq.2.1]
  exact Nat.mod_eq_of_lt (by omega)

/-- A region ends where the next one starts. -/
theorem Fits.scaling_region_add {index : Nat} (known : index < layout.copies) :
    (layout.region index).scaling + alignPage layout.sizes.scaling =
      (layout.region (index + 1)).parameters := by
  rw [fits.scaling_region known, fits.lists_region known, fits.parameters_region known,
    fits.parameters_region (Nat.le_of_lt known), Nat.succ_mul, regionExtent]
  omega

/-- Regions follow each other in the order of their indices. -/
theorem Fits.region_mono {index other : Nat} (le : index ≤ other) (known : other ≤ layout.copies) :
    (layout.region index).parameters ≤ (layout.region other).parameters := by
  rw [fits.parameters_region known, fits.parameters_region (Nat.le_trans le known)]
  exact Nat.add_le_add_left (Nat.mul_le_mul_right _ le) _

/-- The regions lie behind the areas that they share. -/
theorem Fits.regionsOffset_le {index : Nat} (known : index ≤ layout.copies) :
    layout.regionsOffset ≤ (layout.region index).parameters := by
  rw [fits.regionsOffset_eq, fits.parameters_region known]
  exact Nat.le_add_right ..

/-- Every region lies inside the buffer. -/
theorem Fits.region_le_totalSize {index : Nat} (known : index < layout.copies) :
    (layout.region (index + 1)).parameters ≤ layout.totalSize := by
  rw [fits.parameters_region known, fits.totalSize_eq]
  exact Nat.add_le_add_left (Nat.mul_le_mul_right _ known) _

end Fits

/-! ### Positions -/

/-- The position belongs to region `index`: it lies between the start of this region and the start
of the next. -/
def InRegion (layout : ScratchLayout) (index position : Nat) : Prop :=
  (layout.region index).parameters ≤ position ∧ position < (layout.region (index + 1)).parameters

/-- The position belongs to the areas that all regions share. -/
def InCommon (layout : ScratchLayout) (position : Nat) : Prop :=
  position < layout.regionsOffset

theorem Fits.not_inRegion_of_ne {layout : ScratchLayout} (fits : layout.Fits)
    {index other position : Nat} (known : index < layout.copies) (among : other < layout.copies)
    (ne : index ≠ other) (here : layout.InRegion index position) :
    ¬ layout.InRegion other position := by
  rintro ⟨low, high⟩
  obtain ⟨start, stop⟩ := here
  rcases Nat.lt_or_gt_of_ne ne with before | behind
  · have := fits.region_mono (show index + 1 ≤ other from before) (Nat.le_of_lt among)
    omega
  · have := fits.region_mono (show other + 1 ≤ index from behind) (Nat.le_of_lt known)
    omega

theorem Fits.not_inRegion_of_inCommon {layout : ScratchLayout} (fits : layout.Fits)
    {index position : Nat} (known : index < layout.copies) (common : layout.InCommon position) :
    ¬ layout.InRegion index position := by
  rintro ⟨low, -⟩
  have start := fits.regionsOffset_le (Nat.le_of_lt known)
  unfold InCommon at common
  omega

end ScratchLayout

end VideoAccel
