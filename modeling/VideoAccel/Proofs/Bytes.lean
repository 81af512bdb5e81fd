import VideoAccel.Bytes

/-!
Byte strings read position by position and bit by bit.

Every operation on byte strings is described by the byte it leaves at a position: `at0_overwrite`,
`at0_fill` and `at0_extend`. `bitAt` numbers the bits of a string, the least significant bit of
the first byte being bit zero, so that a 32-bit register is a run of 32 bits; two strings of one
length are equal when their bits are.
-/

namespace VideoAccel.Bytes

/-! ### Bytes by position -/

theorem at0_eq (bytes : Bytes) (position : Nat) :
    bytes.at0 position = bytes[position]?.getD 0 := by
  simp [at0]

/-- Past the end every byte reads as zero. -/
theorem at0_of_le {bytes : Bytes} {position : Nat} (past : bytes.size ≤ position) :
    bytes.at0 position = 0 := by
  simp [at0, Nat.not_lt.mpr past]

theorem at0_set (bytes : Bytes) (place position : Nat) (value : Byte) :
    Bytes.at0 (bytes.setIfInBounds place value) position =
      if place = position ∧ position < bytes.size then value else bytes.at0 position := by
  rw [at0_eq, at0_eq, Array.getElem?_setIfInBounds]
  by_cases same : place = position
  · subst same
    by_cases inside : place < bytes.size
    · simp [inside]
    · simp [inside]
  · simp [same]

/-- What `overwrite` leaves at a position. -/
theorem at0_overwrite (target : Bytes) (start : Nat) (data : Bytes) (position : Nat) :
    (target.overwrite start data).at0 position =
      if start ≤ position ∧ position < start + data.size ∧ position < target.size then
        data.at0 (position - start)
      else target.at0 position := by
  unfold overwrite
  suffices every : ∀ count (le : count ≤ data.size),
      (Nat.fold count (fun i inside out => out.setIfInBounds (start + i)
        (getElem data i (Nat.lt_of_lt_of_le inside le))) target).size = target.size ∧
      Bytes.at0 (Nat.fold count (fun i inside out => out.setIfInBounds (start + i)
        (getElem data i (Nat.lt_of_lt_of_le inside le))) target) position =
        if start ≤ position ∧ position < start + count ∧ position < target.size then
          data.at0 (position - start)
        else target.at0 position from
    (every data.size (Nat.le_refl _)).2
  intro count le
  induction count with
  | zero =>
      refine ⟨rfl, ?_⟩
      rw [if_neg (by omega)]
      rfl
  | succ count ih =>
      obtain ⟨size, bytes⟩ := ih (Nat.le_of_succ_le le)
      refine ⟨by rw [Nat.fold_succ, Array.size_setIfInBounds, size], ?_⟩
      rw [Nat.fold_succ, at0_set, size, bytes]
      by_cases here : start + count = position
      · subst here
        have value : data.at0 (start + count - start) = data[count] := by
          rw [Nat.add_sub_cancel_left, at0_eq, Array.getElem?_eq_getElem le, Option.getD_some]
        by_cases inside : start + count < target.size
        · rw [if_pos ⟨rfl, inside⟩, if_pos ⟨by omega, by omega, inside⟩, value]
        · rw [if_neg (by omega), if_neg (by omega), if_neg (by omega)]
      · rw [if_neg (fun both => here both.1)]
        have same : (start ≤ position ∧ position < start + count ∧ position < target.size) ↔
            (start ≤ position ∧ position < start + (count + 1) ∧ position < target.size) := by
          omega
        simp only [same]

/-- Filling is overwriting with copies of one byte. -/
theorem fill_eq_overwrite (target : Bytes) (start stop : Nat) (value : Byte) :
    target.fill start stop value = target.overwrite start (Array.replicate (stop - start) value) := by
  have every : ∀ {n count : Nat} (eq : n = count),
      Nat.fold count (fun i _ out => Array.setIfInBounds out (start + i) value) target =
        Nat.fold n (fun i _ out => Array.setIfInBounds out (start + i) value) target := by
    rintro _ _ rfl
    rfl
  unfold fill overwrite
  simp only [Array.getElem_replicate]
  exact every Array.size_replicate

/-- What `fill` leaves at a position. -/
theorem at0_fill (target : Bytes) (start stop : Nat) (value : Byte) (position : Nat) :
    (target.fill start stop value).at0 position =
      if start ≤ position ∧ position < stop ∧ position < target.size then value
      else target.at0 position := by
  rw [fill_eq_overwrite, at0_overwrite, Array.size_replicate]
  by_cases inside : start ≤ position ∧ position < stop ∧ position < target.size
  · rw [if_pos (by omega), if_pos inside, at0_eq, Array.getElem?_replicate, if_pos (by omega)]
    rfl
  · rw [if_neg (by omega), if_neg inside]

/-- Appended zeros cannot be told from what lies past the end. -/
theorem at0_extend (target : Bytes) (count position : Nat) :
    (target.extend count).at0 position = target.at0 position := by
  unfold extend
  generalize count - target.size = missing
  induction missing with
  | zero => rfl
  | succ missing ih =>
      rw [Nat.fold_succ]
      rw [← ih, at0_eq, at0_eq, Array.getElem?_push]
      split
      · rename_i last
        rw [last, Array.getElem?_eq_none (Nat.le_refl _)]
        rfl
      · rfl

theorem at0_extract (bytes : Bytes) (start stop position : Nat) :
    Bytes.at0 (bytes.extract start stop) position =
      if start + position < stop then bytes.at0 (start + position) else 0 := by
  rw [at0_eq, at0_eq, Array.getElem?_extract]
  by_cases inside : start + position < stop
  · rw [if_pos inside]
    by_cases known : start + position < bytes.size
    · rw [if_pos (by omega)]
    · rw [if_neg (by omega), Array.getElem?_eq_none (by omega)]
  · rw [if_neg inside, if_neg (by omega), Option.getD_none]

/-- Strings of one length with the same bytes are equal. -/
theorem ext_at0 {a b : Bytes} (size : a.size = b.size)
    (same : ∀ position, position < a.size → a.at0 position = b.at0 position) : a = b := by
  apply Array.ext size
  intro i inA inB
  have eq := same i inA
  rwa [at0_eq, at0_eq, Array.getElem?_eq_getElem inA, Array.getElem?_eq_getElem inB,
    Option.getD_some, Option.getD_some] at eq

/-! ### Bits by position -/

/-- Bit `i` of a byte string, counted from the least significant bit of the first byte. -/
def bitAt (bytes : Bytes) (i : Nat) : Bool :=
  (bytes.at0 (i / 8)).getLsbD (i % 8)

theorem at0_eq_iff {a b : Bytes} {position : Nat} :
    a.at0 position = b.at0 position ↔
      ∀ k < 8, a.bitAt (8 * position + k) = b.bitAt (8 * position + k) := by
  have place : ∀ (bytes : Bytes), ∀ k < 8,
      bytes.bitAt (8 * position + k) = (bytes.at0 position).getLsbD k := by
    intro bytes k small
    rw [bitAt, show (8 * position + k) / 8 = position by omega,
      show (8 * position + k) % 8 = k by omega]
  constructor
  · intro eq k small
    rw [place a k small, place b k small, eq]
  · intro bits
    apply BitVec.eq_of_getLsbD_eq
    intro k small
    rw [← place a k small, ← place b k small, bits k small]

/-- Strings of one length with the same bits are equal. -/
theorem ext_bitAt {a b : Bytes} (size : a.size = b.size)
    (bits : ∀ i, a.bitAt i = b.bitAt i) : a = b :=
  ext_at0 size fun _ _ => at0_eq_iff.mpr fun _ _ => bits _

theorem bitAt_of_le {bytes : Bytes} {i : Nat} (past : 8 * bytes.size ≤ i) :
    bytes.bitAt i = false := by
  rw [bitAt, at0_of_le (by omega)]
  simp

theorem bitAt_overwrite (target : Bytes) (start : Nat) (data : Bytes) (i : Nat) :
    (target.overwrite start data).bitAt i =
      if 8 * start ≤ i ∧ i < 8 * (start + data.size) ∧ i < 8 * target.size then
        data.bitAt (i - 8 * start)
      else target.bitAt i := by
  rw [bitAt, at0_overwrite]
  by_cases inside : 8 * start ≤ i ∧ i < 8 * (start + data.size) ∧ i < 8 * target.size
  · rw [if_pos (by omega), if_pos inside, bitAt, show (i - 8 * start) / 8 = i / 8 - start by omega,
      show (i - 8 * start) % 8 = i % 8 by omega]
  · rw [if_neg (by omega), if_neg inside, bitAt]

theorem bitAt_fill (target : Bytes) (start stop : Nat) (value : Byte) (i : Nat) :
    (target.fill start stop value).bitAt i =
      if 8 * start ≤ i ∧ i < 8 * stop ∧ i < 8 * target.size then value.getLsbD (i % 8)
      else target.bitAt i := by
  rw [bitAt, at0_fill]
  by_cases inside : 8 * start ≤ i ∧ i < 8 * stop ∧ i < 8 * target.size
  · rw [if_pos (by omega), if_pos inside]
  · rw [if_neg (by omega), if_neg inside, bitAt]

/-- The bits of a little-endian reading are the bits of the string. -/
theorem getLsbD_le32 (bytes : Bytes) (start k : Nat) :
    (bytes.le32 start).getLsbD k = (decide (k < 32) && bytes.bitAt (8 * start + k)) := by
  simp only [le32, BitVec.getLsbD_append, bitAt]
  by_cases first : k < 8
  · rw [if_pos first, show (8 * start + k) / 8 = start by omega,
      show (8 * start + k) % 8 = k by omega]
    simp [show k < 32 by omega]
  rw [if_neg first]
  by_cases second : k - 8 < 8
  · rw [if_pos second, show (8 * start + k) / 8 = start + 1 by omega,
      show (8 * start + k) % 8 = k - 8 by omega]
    simp [show k < 32 by omega]
  rw [if_neg second]
  by_cases third : k - 8 - 8 < 8
  · rw [if_pos third, show (8 * start + k) / 8 = start + 2 by omega,
      show (8 * start + k) % 8 = k - 8 - 8 by omega]
    simp [show k < 32 by omega]
  rw [if_neg third]
  by_cases fourth : k < 32
  · rw [show (8 * start + k) / 8 = start + 3 by omega,
      show (8 * start + k) % 8 = k - 8 - 8 - 8 by omega]
    simp [fourth]
  · rw [BitVec.getLsbD_of_ge _ _ (by omega)]
    simp [fourth]

@[simp] theorem size_ofWord32 (value : BitVec 32) : (ofWord32 value).size = 4 := rfl

theorem bitAt_ofWord32 (value : BitVec 32) {k : Nat} (small : k < 32) :
    (ofWord32 value).bitAt k = value.getLsbD k := by
  have place : k / 8 = 0 ∨ k / 8 = 1 ∨ k / 8 = 2 ∨ k / 8 = 3 := by omega
  have low : k % 8 < 8 := Nat.mod_lt _ (by decide)
  rcases place with here | here | here | here <;>
    simp only [bitAt, here, ofWord32, at0_eq, List.getElem?_toArray, List.getElem?_cons_zero,
      List.getElem?_cons_succ, Option.getD_some, BitVec.getLsbD_extractLsb', low, decide_true,
      Bool.true_and] <;>
    congr 1 <;> omega

end VideoAccel.Bytes
