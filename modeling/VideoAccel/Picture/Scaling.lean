import VideoAccel.Bytes

/-!
Scaling matrices: six of 4x4 and six of 8x8 coefficients.

A picture that brings no matrices is decoded with flat ones, in which every coefficient is 16.
-/

namespace VideoAccel

structure ScalingLists where
  small : Vector (Vector Byte 16) 6
  large : Vector (Vector Byte 64) 6
deriving DecidableEq, Repr

namespace ScalingLists

/-- The length of all matrices written one behind the other. -/
def byteCount : Nat := 6 * 16 + 6 * 64

def flat : ScalingLists :=
  { small := Vector.replicate 6 (Vector.replicate 16 16)
    large := Vector.replicate 6 (Vector.replicate 64 16) }

/-- The 4x4 matrices, then the 8x8 ones. -/
def toBytes (lists : ScalingLists) : Bytes :=
  (lists.small.toList.flatMap (·.toList) ++ lists.large.toList.flatMap (·.toList)).toArray

theorem size_toBytes (lists : ScalingLists) : lists.toBytes.size = byteCount := by
  have total : ∀ {n k : Nat} (rows : Vector (Vector Byte n) k),
      (rows.toList.flatMap (·.toList)).length = k * n := by
    intro n k rows
    have every : ∀ list : List (Vector Byte n),
        (list.flatMap (·.toList)).length = list.length * n := by
      intro list
      induction list with
      | nil => simp
      | cons row rest ih => simp [ih, Nat.add_mul, Nat.add_comm]
    rw [every, Vector.length_toList]
  simp [toBytes, byteCount, total]

end ScalingLists

end VideoAccel
