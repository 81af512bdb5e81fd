import VideoAccel.Frame.Pool
import Mathlib.Algebra.Ring.Parity
import Mathlib.Order.Bounds.Defs
import Mathlib.Order.Monotone.Defs

/-!
Strides of output pictures.

`StrideRule.Admits` says which strides a rule allows: the multiples of 16 bytes, or the odd
multiples of 256. A line gets the least of those that hold it (`StrideRule.least_admitted`), so that
either rule rounds up (`StrideRule.le_apply`), always to a multiple of 16 bytes
(`StrideRule.dvd_apply`). `FramePool.lineStride` and `FramePool.planeLines` are the strides that the
pictures of a pool ask for; a picture buffer keeps 32 bits of them.
-/

namespace VideoAccel

/-! ### Rounding -/

/-- The bit that is set counts once in every 512, so the result lies in the middle of a stretch of
512 bytes, wherever in it the multiple of 256 was. -/
theorem alignOddBank_eq (value : Nat) :
    alignOddBank value = alignUp value 256 / 512 * 512 + 256 := by
  have multiple := dvd_alignUp (by decide : 0 < 256) value
  have low : (alignUp value 256 ||| 256) % 2 ^ 9 = 256 := by
    have place : alignUp value 256 % 2 ^ 9 = 0 ∨ alignUp value 256 % 2 ^ 9 = 256 := by omega
    rw [Nat.or_mod_two_pow]
    rcases place with even | odd
    · rw [even]
      rfl
    · rw [odd]
      rfl
  have high : (alignUp value 256 ||| 256) / 2 ^ 9 = alignUp value 256 / 2 ^ 9 := by
    rw [Nat.or_div_two_pow]
    exact Nat.or_zero _
  unfold alignOddBank
  omega

namespace StrideRule

/-- The strides that a rule allows. -/
def Admits : StrideRule → Nat → Prop
  | multiple16, stride => 16 ∣ stride
  | oddMultiple256, stride => ∃ quotient, Odd quotient ∧ stride = quotient * 256

theorem Admits.dvd {rule : StrideRule} {stride : Nat} (admitted : rule.Admits stride) :
    16 ∣ stride := by
  cases rule with
  | multiple16 => exact admitted
  | oddMultiple256 =>
      obtain ⟨quotient, -, rfl⟩ := admitted
      exact Nat.dvd_mul_left_of_dvd (by decide) quotient

theorem admits_apply (rule : StrideRule) (lineBytes : Nat) :
    rule.Admits (rule.apply lineBytes) := by
  cases rule with
  | multiple16 => exact dvd_alignUp (by decide) lineBytes
  | oddMultiple256 =>
      have odd : Odd (2 * (alignUp lineBytes 256 / 512) + 1) := ⟨_, rfl⟩
      refine ⟨_, odd, (alignOddBank_eq lineBytes).trans ?_⟩
      omega

/-- A stride that the rule allows has room for the rounded line exactly when it has room for the
line. -/
theorem apply_le_iff {rule : StrideRule} {stride : Nat} (admitted : rule.Admits stride)
    (lineBytes : Nat) : rule.apply lineBytes ≤ stride ↔ lineBytes ≤ stride := by
  cases rule with
  | multiple16 => exact alignUp_le_iff_of_dvd (by decide) admitted lineBytes
  | oddMultiple256 =>
      obtain ⟨quotient, ⟨half, rfl⟩, rfl⟩ := admitted
      have multiple := dvd_alignUp (by decide : 0 < 256) lineBytes
      have rounded := alignUp_le_iff (by decide : 0 < 256) lineBytes (2 * half + 1)
      -- Between an even multiple and the odd one behind it no other odd multiple lies.
      have same : alignUp lineBytes 256 / 512 * 512 + 256 ≤ (2 * half + 1) * 256 ↔
          alignUp lineBytes 256 ≤ (2 * half + 1) * 256 := by omega
      rw [apply, alignOddBank_eq, same, rounded]

theorem le_apply (rule : StrideRule) (lineBytes : Nat) : lineBytes ≤ rule.apply lineBytes :=
  (apply_le_iff (rule.admits_apply lineBytes) lineBytes).mp (Nat.le_refl _)

theorem dvd_apply (rule : StrideRule) (lineBytes : Nat) : 16 ∣ rule.apply lineBytes :=
  (rule.admits_apply lineBytes).dvd

/-- Both rules allow odd multiples of 256, and so a line gets no more than the next of these. -/
theorem apply_le_of_le (rule : StrideRule) {lineBytes half : Nat}
    (small : lineBytes ≤ (2 * half + 1) * 256) : rule.apply lineBytes ≤ (2 * half + 1) * 256 := by
  refine (apply_le_iff ?_ lineBytes).mpr small
  cases rule with
  | multiple16 => exact Nat.dvd_mul_left_of_dvd (by decide) _
  | oddMultiple256 => exact ⟨_, ⟨half, rfl⟩, rfl⟩

/-- Either rule gives a line the least stride that it allows and that holds the line; it fits a
machine word whenever any such stride does. A longer line never gets a shorter stride, and a line as
long as its stride keeps it. -/
theorem least_admitted (rule : StrideRule) :
    (∀ lineBytes,
      IsLeast {stride | rule.Admits stride ∧ lineBytes ≤ stride} (rule.apply lineBytes)) ∧
      Monotone rule.apply ∧
      ∀ lineBytes, rule.apply (rule.apply lineBytes) = rule.apply lineBytes := by
  refine ⟨fun lineBytes => ⟨?_, ?_⟩, fun short long longer => ?_, fun lineBytes => ?_⟩
  · exact ⟨rule.admits_apply lineBytes, rule.le_apply lineBytes⟩
  · rintro stride ⟨admitted, room⟩
    exact (apply_le_iff admitted lineBytes).mpr room
  · exact (apply_le_iff (rule.admits_apply long) short).mpr
      (Nat.le_trans longer (rule.le_apply long))
  · apply Nat.le_antisymm
    · exact (apply_le_iff (rule.admits_apply lineBytes) _).mpr (Nat.le_refl _)
    · exact rule.le_apply _

/-- An even multiple of 256 is left for the next odd one, and so is zero. -/
example : oddMultiple256.apply 4096 = 4352 ∧ oddMultiple256.apply 0 = 256 := by decide

end StrideRule

/-- Lines of at most 4096 samples have at most 5120 bytes in any format. -/
theorem FrameFormat.lineBytes_le (format : FrameFormat) {width : Nat} (small : width ≤ 4096) :
    format.lineBytes width ≤ 5120 := by
  have depth : format.bitDepth ≤ 10 := by cases format <;> decide
  have bits : width * format.bitDepth ≤ 4096 * 10 := Nat.mul_le_mul small depth
  unfold lineBytes ceilDiv
  omega

/-! ### The strides of a pool -/

namespace FramePool

/-- The distance of two lines of a picture, before it is kept to 32 bits. -/
def lineStride (pool : FramePool) : Nat :=
  pool.stride.apply (pool.format.lineBytes pool.width)

/-- The lines of a plane, before they are kept to 32 bits. -/
def planeLines (pool : FramePool) : Nat :=
  alignUp pool.height 16

variable {pool : FramePool} {slot : Nat} {buffer : FrameBuffer}

/-- What a picture buffer says about its size. -/
theorem frame?_eq_some (found : pool.frame? slot = some buffer) :
    (buffer.width = pool.width ∧ buffer.height = pool.height ∧ buffer.format = pool.format) ∧
      buffer.lineStride = pool.lineStride % Numeral.bound32 ∧
      buffer.planeLines = pool.planeLines % Numeral.bound32 := by
  obtain ⟨damaged, -, rfl⟩ := Option.map_eq_some_iff.mp found
  exact ⟨⟨rfl, rfl, rfl⟩, rfl, rfl⟩

end FramePool

end VideoAccel
