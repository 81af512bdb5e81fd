import Mathlib.Algebra.Ring.Nat
import VideoAccel.Proofs.Bytes
import VideoAccel.Register.Layout

/-!
Fields and sections as runs of bits of a register file.

Storing a field replaces exactly the bits that the field covers (`Field.bitAt_set`), so that fields
with no bit in common do not see each other, and reading a field that was just stored answers with
the stored bits. Clearing a section and putting data in its place are described the same way; a field
of a section reads the same where the section was copied to (`Section.get_store_view`).
-/

namespace VideoAccel

namespace Field

/-- The number of the field's lowest bit in the file. -/
def firstBit (field : Field) : Nat :=
  8 * field.byteOffset + field.bit

/-- The bit of the file belongs to the field. -/
def Covers (field : Field) (i : Nat) : Prop :=
  field.firstBit ≤ i ∧ i < field.firstBit + field.width

instance (field : Field) (i : Nat) : Decidable (field.Covers i) :=
  inferInstanceAs (Decidable (_ ∧ _))

/-- The two fields have no bit in common. -/
def Apart (f g : Field) : Prop :=
  ∀ i, f.Covers i → ¬ g.Covers i

theorem addressable_of_lt {field : Field} (low : field.reg < 2 ^ 62) : field.Addressable := by
  unfold Addressable registerBytes Numeral.bound64
  omega

/-- The offset of a register that has a place of its own. -/
theorem byteOffset_eq {field : Field} (addressable : field.Addressable) :
    field.byteOffset = 4 * field.reg :=
  (Nat.mod_eq_of_lt addressable).trans (Nat.mul_comm ..)

/-- Offsets stay whole registers when they wrap. -/
theorem dvd_byteOffset (field : Field) : 4 ∣ field.byteOffset := by
  unfold byteOffset registerBytes Numeral.bound64
  omega

/-- Fields of registers at different places have no bit in common. -/
theorem apart_of_byteOffset_ne {f g : Field} (ne : f.byteOffset ≠ g.byteOffset) : Apart f g := by
  intro i ⟨lowF, highF⟩ ⟨lowG, highG⟩
  have fitsF := f.fits
  have fitsG := g.fits
  have wholeF := f.dvd_byteOffset
  have wholeG := g.dvd_byteOffset
  unfold firstBit at *
  omega

theorem apart_of_reg_ne {f g : Field} (inF : f.Addressable) (inG : g.Addressable)
    (ne : f.reg ≠ g.reg) : Apart f g := by
  apply apart_of_byteOffset_ne
  rw [byteOffset_eq inF, byteOffset_eq inG]
  omega

theorem lies_iff {field : Field} {file : Bytes} :
    field.lies file = true ↔ field.byteOffset + 4 ≤ file.size := by
  unfold lies
  rw [decide_eq_true_iff, registerBytes]

theorem lies_congr {a b : Bytes} (size : a.size = b.size) (field : Field) :
    field.lies a = field.lies b := by
  simp only [lies, size]

theorem getLsbD_mask (field : Field) (k : Nat) :
    field.mask.getLsbD k = decide (field.bit ≤ k ∧ k < field.bit + field.width) := by
  have fits := field.fits
  simp only [mask, BitVec.getLsbD_shiftLeft, BitVec.getLsbD_ushiftRight, BitVec.getLsbD_allOnes]
  by_cases inside : field.bit ≤ k ∧ k < field.bit + field.width
  · simp [inside, show k < 32 by omega, show ¬ k < field.bit by omega,
      show 32 - field.width + (k - field.bit) < 32 by omega]
  · by_cases low : k < field.bit
    · simp [low, inside]
    · simp [inside, show ¬ 32 - field.width + (k - field.bit) < 32 by omega]

/-- Storing a field replaces the bits it covers and no others. -/
theorem bitAt_set (field : Field) (value : BitVec 32) (file : Bytes) (i : Nat) :
    (field.set value file).bitAt i =
      if field.lies file = true ∧ field.Covers i then value.getLsbD (i - field.firstBit)
      else file.bitAt i := by
  have fits := field.fits
  unfold set
  by_cases lies : field.lies file = true
  · have inside := lies_iff.mp lies
    rw [if_pos lies, Bytes.bitAt_overwrite, Bytes.size_ofWord32]
    by_cases here : 8 * field.byteOffset ≤ i ∧ i < 8 * field.byteOffset + 32
    · obtain ⟨k, rfl⟩ : ∃ k, i = 8 * field.byteOffset + k := ⟨i - 8 * field.byteOffset, by omega⟩
      have small : k < 32 := by omega
      have covers : field.Covers (8 * field.byteOffset + k) ↔
          field.bit ≤ k ∧ k < field.bit + field.width := by
        unfold Covers firstBit
        omega
      rw [if_pos (by omega), Nat.add_sub_cancel_left, Bytes.bitAt_ofWord32 _ small]
      simp only [BitVec.getLsbD_or, BitVec.getLsbD_and, BitVec.getLsbD_not, Bytes.getLsbD_le32,
        getLsbD_mask, BitVec.getLsbD_shiftLeft, small, decide_true, Bool.true_and]
      by_cases mine : field.bit ≤ k ∧ k < field.bit + field.width
      · rw [if_pos ⟨lies, covers.mpr mine⟩, firstBit, Nat.add_sub_add_left]
        simp [mine, show ¬ k < field.bit by omega]
      · rw [if_neg (fun both => mine (covers.mp both.2))]
        simp [mine]
    · rw [if_neg (by omega), if_neg]
      rintro ⟨-, low, high⟩
      unfold firstBit at low high
      omega
  · rw [if_neg lies, if_neg (fun both => lies both.1)]

/-- The bits of a field's value are the bits it covers. -/
theorem getLsbD_get (field : Field) (file : Bytes) (k : Nat) :
    (field.get file).getLsbD k =
      (decide (k < field.width) && field.lies file && file.bitAt (field.firstBit + k)) := by
  have fits := field.fits
  unfold get
  by_cases lies : field.lies file = true
  · simp only [lies, if_true, BitVec.getLsbD_ushiftRight, BitVec.getLsbD_and, Bytes.getLsbD_le32,
      getLsbD_mask, Bool.and_true]
    by_cases small : k < field.width
    · simp only [small, decide_true, Bool.true_and, firstBit,
        show field.bit + k < 32 by omega,
        show field.bit ≤ field.bit + k ∧ field.bit + k < field.bit + field.width by omega,
        Nat.add_assoc, and_self, Bool.and_true]
    · simp [small]
  · simp [lies]

/-- A field reads the same in files of one length that agree on its bits. -/
theorem get_congr {field : Field} {a b : Bytes} (size : a.size = b.size)
    (bits : ∀ i, field.Covers i → a.bitAt i = b.bitAt i) : field.get a = field.get b := by
  apply BitVec.eq_of_getLsbD_eq
  intro k _
  rw [getLsbD_get, getLsbD_get, lies_congr size]
  by_cases small : k < field.width
  · rw [bits (field.firstBit + k) ⟨by omega, by omega⟩]
  · simp [small]

/-- A field does not see what is stored apart from it. -/
theorem get_set_of_apart {f g : Field} (apart : Apart g f) (value : BitVec 32) (file : Bytes) :
    g.get (f.set value file) = g.get file := by
  apply get_congr (size_set f value file)
  intro i covers
  rw [bitAt_set, if_neg (fun both => apart i covers both.2)]

/-- A register answers with the value stored last. -/
theorem get_word_set {reg : Nat} {file : Bytes} (lies : (word reg).lies file = true)
    (value : BitVec 32) : (word reg).get ((word reg).set value file) = value := by
  apply BitVec.eq_of_getLsbD_eq
  intro k small
  have lies' : (word reg).lies ((word reg).set value file) = true := by
    rwa [lies_congr (size_set ..)]
  rw [getLsbD_get, bitAt_set, if_pos ⟨lies, by omega, by simp only [word]; omega⟩, lies',
    Nat.add_sub_cancel_left]
  simp [word, small]

/-- A field reads the same in two files that hold it and agree on its bits. -/
theorem get_eq_of_bits {field : Field} {a b : Bytes} (inA : field.lies a = true)
    (inB : field.lies b = true) (bits : ∀ i, field.Covers i → a.bitAt i = b.bitAt i) :
    field.get a = field.get b := by
  apply BitVec.eq_of_getLsbD_eq
  intro k _
  rw [getLsbD_get, getLsbD_get, inA, inB]
  by_cases small : k < field.width
  · rw [bits (field.firstBit + k) ⟨by omega, by omega⟩]
  · simp [small]

/-- The lowest bit of a register tells whether one or zero was stored in it. -/
theorem get_flag_set {field : Field} (bit : field.bit = 0) (width : field.width = 1) {file : Bytes}
    (lies : (word field.reg).lies file = true) (value : Bool) :
    (field.get ((word field.reg).set (if value then 1 else 0) file) != 0) = value := by
  have lies' : field.lies ((word field.reg).set (if value then 1 else 0) file) = true := by
    rw [lies_congr (size_set ..)]
    exact lies
  have first : field.firstBit = (word field.reg).firstBit := by
    unfold firstBit
    rw [bit]
    rfl
  have stored : field.get ((word field.reg).set (if value then 1 else 0) file) =
      if value then 1 else 0 := by
    apply BitVec.eq_of_getLsbD_eq
    intro k small
    rw [getLsbD_get, lies', bitAt_set, width]
    by_cases lowest : k = 0
    · subst lowest
      rw [if_pos ⟨lies, by rw [first]; exact ⟨Nat.le_refl _, by simp [word]⟩⟩, first, Nat.add_zero,
        Nat.sub_self]
      rfl
    · cases value <;> simp [show ¬ k < 1 by omega, lowest, BitVec.getLsbD_one]
  rw [stored]
  cases value <;> rfl

end Field

namespace Section

/-- The bit of the file belongs to the section. -/
def Covers (sec : Section) (i : Nat) : Prop :=
  32 * sec.first ≤ i ∧ i < 32 * (sec.first + sec.count)

instance (sec : Section) (i : Nat) : Decidable (sec.Covers i) :=
  inferInstanceAs (Decidable (_ ∧ _))

theorem contains_iff {sec : Section} {reg : Nat} :
    sec.contains reg = true ↔ sec.first ≤ reg ∧ reg < sec.first + sec.count := by
  simp [contains]

theorem offset_eq (sec : Section) : sec.offset = 4 * sec.first :=
  Nat.mul_comm ..

theorem stop_eq (sec : Section) : sec.stop = 4 * (sec.first + sec.count) := by
  unfold stop offset size registerBytes
  omega

theorem size_store (sec : Section) (data file : Bytes) : (sec.store data file).size = file.size :=
  Bytes.size_overwrite ..

/-- Clearing a section zeroes its bits and no others. -/
theorem bitAt_clear (sec : Section) (file : Bytes) (i : Nat) :
    (sec.clear file).bitAt i = (!decide (sec.Covers i) && file.bitAt i) := by
  have start := sec.offset_eq
  have stop := sec.stop_eq
  rw [clear, fill, Bytes.bitAt_fill]
  by_cases covers : sec.Covers i
  · simp only [covers, decide_true, Bool.not_true, Bool.false_and]
    unfold Covers at covers
    by_cases known : i < 8 * file.size
    · rw [if_pos (by omega)]
      exact BitVec.getLsbD_zero
    · rw [if_neg (by omega), Bytes.bitAt_of_le (by omega)]
  · simp only [covers, decide_false, Bool.not_false, Bool.true_and]
    unfold Covers at covers
    rw [if_neg (by omega)]

/-- Data put in the place of a section's bytes changes no bit outside the section, provided it is
not longer than the section. -/
theorem bitAt_store_of_not_covers {sec : Section} {data : Bytes} (fits : data.size ≤ sec.size)
    (file : Bytes) {i : Nat} (outside : ¬ sec.Covers i) :
    (sec.store data file).bitAt i = file.bitAt i := by
  have start := sec.offset_eq
  have length : sec.size = 4 * sec.count := Nat.mul_comm ..
  unfold Covers at outside
  rw [store, Bytes.bitAt_overwrite, if_neg (by omega)]

/-- Data put in the place of a section's bytes is found there. -/
theorem bitAt_store_view {sec : Section} {from' file : Bytes} (known : sec.stop ≤ from'.size)
    (fits : sec.stop ≤ file.size) {i : Nat} (covers : sec.Covers i) :
    (sec.store (sec.view from') file).bitAt i = from'.bitAt i := by
  have start := sec.offset_eq
  have stop := sec.stop_eq
  have size : (sec.view from').size = sec.stop - sec.offset := by
    unfold view
    rw [Array.size_extract, Nat.min_eq_left known]
  obtain ⟨low, high⟩ := covers
  rw [store, Bytes.bitAt_overwrite, size, if_pos (by omega)]
  unfold Bytes.bitAt view
  rw [Bytes.at0_extract, if_pos (by omega),
    show sec.offset + (i - 8 * sec.offset) / 8 = i / 8 by omega,
    show (i - 8 * sec.offset) % 8 = i % 8 by omega]

/-- A field of the section reads in the file what it read where the section comes from. -/
theorem get_store_view {sec : Section} {field : Field} (inside : sec.contains field.reg = true)
    (addressable : field.Addressable) {from' file : Bytes} (known : sec.stop ≤ from'.size)
    (fits : sec.stop ≤ file.size) :
    field.get (sec.store (sec.view from') file) = field.get from' := by
  have stop := sec.stop_eq
  have place := Field.byteOffset_eq addressable
  obtain ⟨low, high⟩ := contains_iff.mp inside
  apply Field.get_eq_of_bits
  · rw [Field.lies_iff, size_store]
    omega
  · rw [Field.lies_iff]
    omega
  · intro i ⟨above, below⟩
    have within := field.fits
    unfold Field.firstBit at above below
    exact bitAt_store_view known fits ⟨by omega, by omega⟩

theorem size_view_le (sec : Section) (file : Bytes) : (sec.view file).size ≤ sec.size := by
  unfold Section.view stop
  rw [Array.size_extract]
  omega

theorem size_view {sec : Section} {file : Bytes} (known : sec.stop ≤ file.size) :
    (sec.view file).size = sec.size := by
  unfold Section.view stop at *
  rw [Array.size_extract]
  omega

/-- Two files show the same bytes in a section if they show as many and have the same bits there. -/
theorem view_congr {sec : Section} {a b : Bytes} (size : (sec.view a).size = (sec.view b).size)
    (bits : ∀ i, sec.Covers i → a.bitAt i = b.bitAt i) : sec.view a = sec.view b := by
  have start := sec.offset_eq
  have stop := sec.stop_eq
  refine Bytes.ext_at0 size fun position _ => ?_
  unfold Section.view
  rw [Bytes.at0_extract, Bytes.at0_extract]
  split
  · rename_i inside
    rw [Bytes.at0_eq_iff]
    intro k small
    exact bits _ ⟨by omega, by omega⟩
  · rfl

/-! ### Several sections -/

/-- Puts sections of one file, one after the other, in the place of those of another file. -/
def copyAll (sections : List Section) (from' file : Bytes) : Bytes :=
  sections.foldl (fun file sec => sec.store (sec.view from') file) file

variable {sections : List Section} {from' : Bytes}

theorem size_copyAll (sections : List Section) (from' file : Bytes) :
    (copyAll sections from' file).size = file.size := by
  unfold copyAll
  induction sections generalizing file with
  | nil => rfl
  | cons sec rest ih => rw [List.foldl_cons, ih, size_store]

/-- Bits outside the copied sections stay as they are. -/
theorem bitAt_copyAll_of_apart (file : Bytes) {i : Nat} (apart : ∀ sec ∈ sections, ¬ sec.Covers i) :
    (copyAll sections from' file).bitAt i = file.bitAt i := by
  unfold copyAll
  induction sections generalizing file with
  | nil => rfl
  | cons sec rest ih =>
      rw [List.foldl_cons, ih _ fun other member => apart other (List.mem_cons_of_mem _ member)]
      exact bitAt_store_of_not_covers (sec.size_view_le from') file (apart sec List.mem_cons_self)

/-- Bits of the copied sections are those of the file that the sections come from. -/
theorem bitAt_copyAll_of_covers {file : Bytes} (known : ∀ sec ∈ sections, sec.stop ≤ from'.size)
    (fits : ∀ sec ∈ sections, sec.stop ≤ file.size) {i : Nat}
    (covers : ∃ sec ∈ sections, sec.Covers i) :
    (copyAll sections from' file).bitAt i = from'.bitAt i := by
  induction sections generalizing file with
  | nil =>
      obtain ⟨sec, impossible, -⟩ := covers
      cases impossible
  | cons sec rest ih =>
      show (copyAll rest from' (sec.store (sec.view from') file)).bitAt i = _
      by_cases later : ∃ other ∈ rest, other.Covers i
      · refine ih (fun other member => known other (List.mem_cons_of_mem _ member))
          (fun other member => ?_) later
        rw [size_store]
        exact fits other (List.mem_cons_of_mem _ member)
      · have apart : ∀ other ∈ rest, ¬ other.Covers i := fun other member here =>
          later ⟨other, member, here⟩
        obtain ⟨own, member, here⟩ := covers
        obtain rfl : own = sec :=
          (List.mem_cons.mp member).resolve_right fun member => apart own member here
        rw [bitAt_copyAll_of_apart _ apart]
        exact bitAt_store_view (known own List.mem_cons_self) (fits own List.mem_cons_self) here

/-- The copied sections show the bytes of the file that they come from. -/
theorem view_copyAll {file : Bytes} (known : ∀ sec ∈ sections, sec.stop ≤ from'.size)
    (fits : ∀ sec ∈ sections, sec.stop ≤ file.size) {sec : Section} (member : sec ∈ sections) :
    sec.view (copyAll sections from' file) = sec.view from' := by
  have whole : sec.stop ≤ (copyAll sections from' file).size := by
    rw [size_copyAll]
    exact fits sec member
  exact view_congr ((size_view whole).trans (size_view (known sec member)).symm)
    fun i covers => bitAt_copyAll_of_covers known fits ⟨sec, member, covers⟩

end Section

end VideoAccel
