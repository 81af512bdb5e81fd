/-!
Rounding sizes up to what the memory system wants.

`alignUp` rounds to a multiple of a unit, `alignPage` to the 4096-byte page that every scratch
area starts on, and `alignOddBank` to an odd multiple of 256, which keeps neighbouring picture
lines out of the same memory bank. `alignUp_le_iff` states leastness once: a multiple of the
unit lies above the rounded value exactly when it lies above the value itself.
-/

namespace VideoAccel

/-- Every scratch area starts on a multiple of this many bytes. -/
def pageSize : Nat := 4096

/-- The least multiple of `unit` that is not below `value`; with a unit of zero, `value` itself. -/
def alignUp (value unit : Nat) : Nat :=
  if unit = 0 then value else (value + unit - 1) / unit * unit

/-- The least multiple of the page size that is not below `value`. -/
def alignPage (value : Nat) : Nat :=
  alignUp value pageSize

/-- The least odd multiple of 256 that is not below `value`. Setting bit 8 of a multiple of 256
makes the quotient odd and never decreases it. -/
def alignOddBank (value : Nat) : Nat :=
  alignUp value 256 ||| 256

/-- Division that rounds up. -/
def ceilDiv (value unit : Nat) : Nat :=
  (value + unit - 1) / unit

/-! ### Leastness -/

theorem dvd_alignUp {unit : Nat} (pos : 0 < unit) (value : Nat) :
    unit ∣ alignUp value unit := by
  have ne : unit ≠ 0 := Nat.pos_iff_ne_zero.mp pos
  simp only [alignUp, ne, if_false]
  exact Nat.dvd_mul_left unit _

/-- A multiple of the unit bounds the rounded value exactly when it bounds the value. -/
theorem alignUp_le_iff {unit : Nat} (pos : 0 < unit) (value quotient : Nat) :
    alignUp value unit ≤ quotient * unit ↔ value ≤ quotient * unit := by
  have ne : unit ≠ 0 := Nat.pos_iff_ne_zero.mp pos
  simp only [alignUp, ne, if_false]
  rw [Nat.mul_le_mul_right_iff pos]
  constructor
  · intro bound
    have below : value + unit - 1 < (quotient + 1) * unit :=
      (Nat.div_lt_iff_lt_mul pos).mp (Nat.lt_succ_of_le bound)
    rw [Nat.add_mul, Nat.one_mul] at below
    omega
  · intro bound
    apply Nat.le_of_lt_succ
    rw [Nat.div_lt_iff_lt_mul pos, Nat.succ_mul]
    omega

theorem alignUp_le_iff_of_dvd {unit multiple : Nat} (pos : 0 < unit) (whole : unit ∣ multiple)
    (value : Nat) : alignUp value unit ≤ multiple ↔ value ≤ multiple := by
  obtain ⟨quotient, rfl⟩ := whole
  rw [Nat.mul_comm]
  exact alignUp_le_iff pos value quotient

theorem le_alignUp (value unit : Nat) : value ≤ alignUp value unit := by
  rcases Nat.eq_zero_or_pos unit with zero | pos
  · simp [alignUp, zero]
  · exact (alignUp_le_iff_of_dvd pos (dvd_alignUp pos value) value).mp (Nat.le_refl _)

end VideoAccel
