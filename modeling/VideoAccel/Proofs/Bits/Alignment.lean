import Mathlib.Order.Bounds.Basic
import VideoAccel.Alignment
import VideoAccel.Proofs.Bits.Edits

/-!
Filling up to a multiple of a unit.

`align` writes its padding in pieces of at most 64 bits and gives up after a piece that finds the
writer truncated. The flag that tells it so outlives a seek: a writer that once lost a bit and then
moved back still has it, with all the room it needs ahead of it. `align_reaches_iff` says what
filling up leaves after any history of the writer, and when this is what was asked for: the padding
is always copies of the fill bit behind untouched bits, and it reaches the least multiple of the
unit, or the end of the capacity if this multiple lies behind it, exactly if the writer does not
stall (`Stalls`). Under the same condition filling up once more changes nothing. A writer that
stalls stops 64 bits behind its old position.
-/

namespace VideoAccel.Writer

/-! ### Histories with fillings -/

/-- What a caller can do to a writer, filling up included. -/
inductive Step where
  | edit (edit : Edit)
  | align (unit fill : Nat)
deriving DecidableEq, Repr

def step (writer : Writer) : Step → Writer
  | .edit edit => writer.apply edit
  | .align unit fill => writer.align unit fill

def follow (writer : Writer) (steps : List Step) : Writer :=
  steps.foldl step writer

/-! ### Padding -/

variable {writer : Writer}

/-- The word of which padding takes its bits. -/
def fillWord (bit : Bool) : Word :=
  if bit then BitVec.allOnes 64 else 0

theorem getLsbD_fillWord (bit : Bool) {k : Nat} (low : k < 64) :
    (fillWord bit).getLsbD k = bit := by
  cases bit with
  | false => exact BitVec.getLsbD_zero
  | true => exact (BitVec.getLsbD_allOnes ..).trans (decide_eq_true low)

/-- `reach` copies of a bit were added at the position, as far as the capacity allows. -/
structure Pads (writer : Writer) (reach : Nat) (bit : Bool) (padded : Writer) : Prop where
  capacity : padded.capacity = writer.capacity
  size : padded.words.size = writer.words.size
  position : padded.position = min (writer.position + reach) (64 * writer.capacity)
  truncated : padded.truncated =
    (writer.truncated || decide (64 * writer.capacity < writer.position + reach))
  bitAt : ∀ i, Words.bitAt padded.words i = (Words.bitAt writer.words i ||
    (decide (writer.position ≤ i ∧ i < writer.position + reach ∧ i < 64 * writer.capacity) && bit))

namespace Pads

variable {reach more : Nat} {bit : Bool} {padded final : Writer}

theorem nothing (inside : writer.position ≤ 64 * writer.capacity) (bit : Bool) :
    writer.Pads 0 bit writer where
  capacity := rfl
  size := rfl
  position := by omega
  truncated := by simp [Nat.not_lt.mpr inside]
  bitAt i := by
    have never : ¬ (writer.position ≤ i ∧ i < writer.position + 0 ∧ i < 64 * writer.capacity) := by
      omega
    rw [decide_eq_false never, Bool.false_and, Bool.or_false]

/-- One piece of the padding. -/
theorem put (owned : writer.capacity ≤ writer.words.size)
    (inside : writer.position ≤ 64 * writer.capacity) (bit : Bool) (narrow : reach ≤ 64) :
    writer.Pads reach bit (writer.put (fillWord bit) reach) := by
  have ended := writer.put_spec (fillWord bit) narrow
  refine ⟨ended.capacity, ended.size, ended.position narrow inside, ended.truncated narrow inside,
    fun i => ?_⟩
  rw [ended.bitAt narrow owned]
  by_cases padded : writer.position ≤ i ∧ i < writer.position + reach ∧ i < 64 * writer.capacity
  · rw [getLsbD_fillWord bit (by omega)]
  · simp only [padded, decide_false, Bool.false_and]

/-- What does not fit is not missed. -/
theorem of_full (pads : writer.Pads reach bit padded)
    (full : 64 * writer.capacity < writer.position + reach) (further : reach ≤ more) :
    writer.Pads more bit padded where
  capacity := pads.capacity
  size := pads.size
  position := by
    rw [pads.position]
    omega
  truncated := by
    have still : 64 * writer.capacity < writer.position + more := by omega
    rw [pads.truncated, decide_eq_true full, decide_eq_true still]
  bitAt i := by
    rw [pads.bitAt]
    congr 2
    rw [decide_eq_decide]
    omega

/-- Padding that starts where earlier padding ended. -/
theorem trans (first : writer.Pads reach bit padded) (second : padded.Pads more bit final)
    (fits : writer.position + reach ≤ 64 * writer.capacity) :
    writer.Pads (reach + more) bit final where
  capacity := second.capacity.trans first.capacity
  size := second.size.trans first.size
  position := by
    rw [second.position, first.capacity, first.position]
    omega
  truncated := by
    have kept : ¬ 64 * writer.capacity < writer.position + reach := Nat.not_lt.mpr fits
    rw [second.truncated, first.truncated, first.capacity, first.position, Nat.min_eq_left fits,
      decide_eq_false kept, Bool.or_false, Nat.add_assoc]
  bitAt i := by
    rw [second.bitAt, first.bitAt, first.capacity, first.position, Nat.min_eq_left fits,
      Bool.or_assoc, ← Bool.and_or_distrib_right, ← Bool.decide_or]
    congr 2
    rw [decide_eq_decide]
    omega

end Pads

/-- Padding adds as many bits as it was told to, and no more than one piece if the writer is already
truncated. -/
theorem pad_spec (owned : writer.capacity ≤ writer.words.size)
    (inside : writer.position ≤ 64 * writer.capacity) (bit : Bool) (count : Nat) :
    writer.Pads (if writer.truncated then min count 64 else count) bit
      (writer.pad count (fillWord bit)) := by
  fun_induction writer.pad count (fillWord bit) with
  | case1 writer => simpa using Pads.nothing inside bit
  | case2 writer count some chunk padded full =>
      have piece : writer.Pads chunk bit padded := .put owned inside bit (Nat.min_le_right ..)
      by_cases before : writer.truncated = true
      · rw [if_pos before]
        exact piece
      · -- The flag is new, so the piece did not fit.
        have lost : 64 * writer.capacity < writer.position + chunk := by
          simpa [piece.truncated, before] using full
        rw [if_neg before]
        exact piece.of_full lost (Nat.min_le_left ..)
  | case3 writer count some chunk padded room ih =>
      have piece : writer.Pads chunk bit padded := .put owned inside bit (Nat.min_le_right ..)
      have clear : writer.truncated = false ∧ writer.position + chunk ≤ 64 * writer.capacity := by
        simpa [piece.truncated] using room
      obtain ⟨before, fits⟩ := clear
      have rest := ih (by rw [piece.capacity, piece.size]; exact owned)
        (by rw [piece.capacity, piece.position]; exact Nat.min_le_right ..)
      rw [if_neg room] at rest
      have whole := piece.trans rest fits
      rw [Nat.add_sub_cancel' (Nat.min_le_left ..)] at whole
      rw [if_neg (by simp [before])]
      exact whole

/-! ### Histories keep the writer in order -/

theorem Sound.pads {reach : Nat} {bit : Bool} {padded : Writer} (sound : writer.Sound)
    (pads : writer.Pads reach bit padded) : padded.Sound := by
  refine ⟨?_, ?_, fun i after inside => ?_⟩
  · rw [pads.capacity, pads.size]
    exact sound.owned
  · rw [pads.capacity, pads.position]
    exact Nat.min_le_right ..
  · rw [pads.capacity] at inside
    rw [pads.position] at after
    have outside : ¬ (writer.position ≤ i ∧ i < writer.position + reach ∧
        i < 64 * writer.capacity) := by omega
    rw [pads.bitAt, sound.blank i (by omega) inside, decide_eq_false outside, Bool.false_and,
      Bool.or_false]

/-- A value wider than a word is put like one of the width of a word. -/
theorem put_min (writer : Writer) (value : Word) (width : Nat) :
    writer.put value (min width 64) = writer.put value width := by
  unfold put
  rw [Nat.min_assoc, Nat.min_self]

theorem align_eq_pad {unit : Nat} (pos : 0 < unit) (writer : Writer) (fill : Nat) :
    writer.align unit fill =
      writer.pad ((unit - writer.position % unit) % unit) (fillWord (fill % 2 = 1)) := by
  unfold align fillWord
  rw [if_neg (Nat.pos_iff_ne_zero.mp pos)]
  simp only [decide_eq_true_eq]

theorem Sound.align (sound : writer.Sound) (unit fill : Nat) : (writer.align unit fill).Sound := by
  rcases Nat.eq_zero_or_pos unit with rfl | pos
  · rw [Writer.align, if_pos rfl]
    exact sound
  · rw [align_eq_pad pos]
    exact sound.pads (pad_spec sound.owned sound.inside _ _)

theorem Sound.step (sound : writer.Sound) (step : Step) : (writer.step step).Sound := by
  cases step with
  | edit edit =>
      cases edit with
      | put value width =>
          have narrow := sound.put value (Nat.min_le_right width 64)
          rw [put_min] at narrow
          exact narrow
      | seek target => exact .seek sound.owned target
      | reset => exact .reset sound.owned
  | align unit fill => exact sound.align unit fill

theorem Sound.follow (sound : writer.Sound) (steps : List Step) : (writer.follow steps).Sound := by
  induction steps generalizing writer with
  | nil => exact sound
  | cons step rest ih => exact ih (sound.step step)

/-! ### The multiple that is aimed at -/

section Goal

variable {unit : Nat}

theorem isLeast_alignUp (pos : 0 < unit) (position : Nat) :
    IsLeast {multiple | unit ∣ multiple ∧ position ≤ multiple} (alignUp position unit) := by
  refine ⟨⟨dvd_alignUp pos position, le_alignUp position unit⟩, ?_⟩
  rintro multiple ⟨whole, above⟩
  exact (alignUp_le_iff_of_dvd pos whole position).mpr above

/-- Adding the bits that are missing gives the least multiple. -/
theorem add_missing (pos : 0 < unit) (position : Nat) :
    position + (unit - position % unit) % unit = alignUp position unit := by
  refine IsLeast.unique (s := {multiple | unit ∣ multiple ∧ position ≤ multiple}) ?_
    (isLeast_alignUp pos position)
  have whole := Nat.div_add_mod position unit
  have small := Nat.mod_lt position pos
  by_cases none : position % unit = 0
  · rw [none, Nat.sub_zero, Nat.mod_self, Nat.add_zero]
    exact ⟨⟨Nat.dvd_of_mod_eq_zero none, Nat.le_refl _⟩, fun _ member => member.2⟩
  · have next : position + (unit - position % unit) = unit * (position / unit + 1) := by
      rw [Nat.mul_succ]
      omega
    rw [Nat.mod_eq_of_lt (by omega), next]
    refine ⟨⟨Nat.dvd_mul_right .., by omega⟩, ?_⟩
    rintro multiple ⟨⟨quotient, rfl⟩, above⟩
    have later : unit * (position / unit) < unit * quotient := by omega
    exact Nat.mul_le_mul_left unit (Nat.lt_of_mul_lt_mul_left later)

end Goal

/-! ### What filling up leaves -/

variable {unit : Nat}

/-- Filling up gives up too early: the writer is truncated from before, and with 64 bits more it is
neither at the multiple that is aimed at nor at the end of its capacity. -/
def Stalls (writer : Writer) (unit : Nat) : Prop :=
  writer.truncated = true ∧ writer.position + 64 < alignUp writer.position unit ∧
    writer.position + 64 < 64 * writer.capacity

/-- What filling up leaves wherever it ends: behind the old bits there are copies of the fill bit,
and zeros behind those. -/
structure Fills (writer : Writer) (bit : Bool) (aligned : Writer) : Prop where
  capacity : aligned.capacity = writer.capacity
  advances : writer.position ≤ aligned.position
  inside : aligned.position ≤ 64 * writer.capacity
  bits : aligned.toBits =
    (writer.toBits.take writer.position ++
      List.replicate (aligned.position - writer.position) bit).takeD (64 * writer.capacity) false

/-- The new position is the least multiple of the unit that is not below the old one, or the end of
the capacity because this multiple lies behind it. -/
def Reaches (writer : Writer) (unit : Nat) (aligned : Writer) : Prop :=
  IsLeast {multiple | unit ∣ multiple ∧ writer.position ≤ multiple} aligned.position ∨
    aligned.position = 64 * writer.capacity ∧
      64 * writer.capacity < alignUp writer.position unit

theorem Sound.fills {reach : Nat} {bit : Bool} {padded : Writer} (sound : writer.Sound)
    (pads : writer.Pads reach bit padded) : writer.Fills bit padded := by
  have inside := sound.inside
  have position := pads.position
  refine ⟨pads.capacity, by omega, by omega, ?_⟩
  have length : (writer.toBits.take writer.position).length = writer.position := by
    rw [List.length_take, length_toBits sound.owned]
    exact Nat.min_eq_left inside
  apply List.ext_getElem?
  intro i
  rw [getElem?_toBits (sound.pads pads).owned, pads.capacity, getElem?_takeD]
  by_cases within : i < 64 * writer.capacity
  · rw [if_pos within, if_pos within, pads.bitAt, List.getElem?_append, length]
    by_cases before : i < writer.position
    · have outside : ¬ writer.position ≤ i := Nat.not_le.mpr before
      rw [if_pos before, List.getElem?_take_of_lt before, getElem?_toBits sound.owned,
        if_pos within]
      simp [outside]
    · rw [if_neg before, sound.blank i (by omega) within, List.getElem?_replicate]
      by_cases added : i < writer.position + reach
      · rw [if_pos (by omega), decide_eq_true (by omega), Bool.true_and, Bool.false_or]
        rfl
      · rw [if_neg (by omega), decide_eq_false (by omega), Bool.false_and, Bool.or_false]
        rfl
  · rw [if_neg within, if_neg within]

/-- The multiple is reached in all cases but one. -/
theorem Pads.reaches_iff {bit : Bool} {padded : Writer} (pos : 0 < unit)
    (inside : writer.position ≤ 64 * writer.capacity)
    (pads : writer.Pads (if writer.truncated then min ((unit - writer.position % unit) % unit) 64
      else (unit - writer.position % unit) % unit) bit padded) :
    writer.Reaches unit padded ↔ ¬ writer.Stalls unit := by
  have position := pads.position
  have goal := add_missing pos writer.position
  have least : IsLeast {multiple | unit ∣ multiple ∧ writer.position ≤ multiple} padded.position ↔
      padded.position = alignUp writer.position unit :=
    ⟨fun there => there.unique (isLeast_alignUp pos _), fun same => same ▸ isLeast_alignUp pos _⟩
  unfold Reaches Stalls
  rw [least]
  cases truncated : writer.truncated with
  | false =>
      simp only [truncated, Bool.false_eq_true, if_false] at position
      simp only [Bool.false_eq_true, false_and, not_false_iff, iff_true]
      omega
  | true =>
      simp only [truncated, if_true] at position
      simp only [true_and]
      omega

theorem align_of_dvd (divides : unit ∣ writer.position) (fill : Nat) :
    writer.align unit fill = writer := by
  rcases Nat.eq_zero_or_pos unit with rfl | pos
  · rw [align, if_pos rfl]
  · rw [align_eq_pad pos, Nat.mod_eq_zero_of_dvd divides, Nat.sub_zero, Nat.mod_self, pad,
      if_pos rfl]

/-- At the end of the capacity a truncated writer stays as it is. -/
theorem put_of_full (full : writer.position = 64 * writer.capacity)
    (truncated : writer.truncated = true) (value : Word) (width : Nat) :
    writer.put value width = writer := by
  have ended : writer.capacity ≤ writer.position / 64 := by omega
  simp only [put, if_pos ended]
  split
  · rfl
  · rw [← truncated]

theorem align_of_full (full : writer.position = 64 * writer.capacity)
    (truncated : writer.truncated = true) (unit fill : Nat) : writer.align unit fill = writer := by
  rcases Nat.eq_zero_or_pos unit with rfl | pos
  · rw [align, if_pos rfl]
  · rw [align_eq_pad pos, pad]
    simp only [put_of_full full truncated, truncated, if_true, ite_self]

/-- A writer that stalls takes one piece of padding. -/
theorem Sound.position_of_stalls (sound : writer.Sound) (pos : 0 < unit)
    (stalls : writer.Stalls unit) (fill : Nat) :
    (writer.align unit fill).position = writer.position + 64 := by
  obtain ⟨truncated, short, room⟩ := stalls
  have goal := add_missing pos writer.position
  have position := (pad_spec sound.owned sound.inside (fill % 2 = 1)
    ((unit - writer.position % unit) % unit)).position
  rw [align_eq_pad pos, position, if_pos truncated]
  omega

/-- Filling up again changes nothing in all cases but the same one. -/
theorem Sound.align_align_iff (sound : writer.Sound) (pos : 0 < unit) (fill : Nat) :
    (writer.align unit fill).align unit fill = writer.align unit fill ↔ ¬ writer.Stalls unit := by
  have pads := pad_spec sound.owned sound.inside (fill % 2 = 1)
    ((unit - writer.position % unit) % unit)
  have reaches := pads.reaches_iff pos sound.inside
  rw [← align_eq_pad pos] at pads reaches
  constructor
  · intro same stalls
    -- The second filling starts 64 bits later and has still bits to add.
    have first := sound.position_of_stalls pos stalls fill
    have again := pad_spec (sound.align unit fill).owned (sound.align unit fill).inside
      (fill % 2 = 1) ((unit - (writer.align unit fill).position % unit) % unit)
    rw [← align_eq_pad pos, same] at again
    have position := again.position
    have goal := add_missing pos (writer.align unit fill).position
    have least := (isLeast_alignUp pos writer.position).2
      ⟨dvd_alignUp pos (writer.align unit fill).position, ?_⟩
    · obtain ⟨-, short, room⟩ := stalls
      rw [pads.capacity] at position
      split at position <;> omega
    · have := le_alignUp (writer.align unit fill).position unit
      omega
  · intro flows
    obtain least | ⟨full, missed⟩ := reaches.mpr flows
    · exact align_of_dvd least.1.1 fill
    · refine align_of_full (by rw [pads.capacity]; exact full) ?_ unit fill
      rw [pads.truncated, Bool.or_eq_true, decide_eq_true_eq]
      have goal := add_missing pos writer.position
      cases truncated : writer.truncated with
      | false => exact .inr (by simp only [Bool.false_eq_true, if_false]; omega)
      | true => exact .inl rfl

/-- After any history of a writer, filling up to a multiple of a unit adds copies of the fill bit
behind the bits that are there, and reaches the least multiple, or the end of the capacity if this
multiple lies behind it, unless the writer stalls; under the same condition filling up once more
changes nothing. A writer that stalls stops after 64 bits. -/
theorem align_reaches_iff (opening : Opening) (steps : List Step) {unit : Nat} (pos : 0 < unit)
    (fill : Nat) :
    let writer := opening.start.follow steps
    let aligned := writer.align unit fill
    writer.Fills (fill % 2 = 1) aligned ∧
      (writer.Reaches unit aligned ↔ ¬ writer.Stalls unit) ∧
      (aligned.align unit fill = aligned ↔ ¬ writer.Stalls unit) ∧
      (writer.Stalls unit → aligned.position = writer.position + 64) := by
  intro writer aligned
  have sound : writer.Sound := opening.sound_start.follow steps
  have pads := pad_spec sound.owned sound.inside (fill % 2 = 1)
    ((unit - writer.position % unit) % unit)
  rw [← align_eq_pad pos] at pads
  exact ⟨sound.fills pads, pads.reaches_iff pos sound.inside, sound.align_align_iff pos fill,
    fun stalls => sound.position_of_stalls pos stalls fill⟩

/-- A writer on four words that lost a bit at their end and moved back to bit 1: filling up to a
multiple of 128 stops at bit 65, and filling up again goes on to 128. -/
theorem align_stalls_after_loss :
    let steps := [.edit (.seek 256), .edit (.put 1 1), .edit (.seek 1)]
    let writer := (Opening.ofWords #[0, 0, 0, 0]).start.follow steps
    let aligned := writer.align 128 1
    aligned.position = 65 ∧ ¬ writer.Reaches 128 aligned ∧ aligned.align 128 1 ≠ aligned := by
  intro steps writer aligned
  obtain ⟨-, reaches, again, stops⟩ :=
    align_reaches_iff (.ofWords #[0, 0, 0, 0]) steps (show 0 < 128 by decide) 1
  have position : writer.position = 1 := by decide +kernel
  have stalls : writer.Stalls 128 := by
    rw [Stalls, position]
    exact ⟨by decide +kernel, by decide, by decide +kernel⟩
  exact ⟨(stops stalls).trans (congrArg (· + 64) position), fun there => reaches.mp there stalls,
    fun same => again.mp same stalls⟩

end VideoAccel.Writer
