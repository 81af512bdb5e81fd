/-!
Byte strings and their little-endian readings.

A byte is a `BitVec 8` and a byte string an array of them. `overwrite` replaces a stretch and
`fill` sets one to a constant; both keep the length, and what would lie outside is dropped.
`le32` and `ofWord32` read and write 32 bits, least significant byte first. `spread` lays
64-bit words out as bytes, eight bytes to a word.
-/

namespace VideoAccel

abbrev Byte := BitVec 8

abbrev Bytes := Array Byte

/-- A 64-bit word. -/
abbrev Word := BitVec 64

namespace Bytes

/-- `count` zero bytes. -/
def zeros (count : Nat) : Bytes :=
  Array.replicate count 0

/-- Replaces the bytes of `target` from position `start` on by those of `data`. -/
def overwrite (target : Bytes) (start : Nat) (data : Bytes) : Bytes :=
  Nat.fold data.size (fun i inside out => out.setIfInBounds (start + i) data[i]) target

/-- Sets the bytes of `target` at positions `start` to `stop`, the last not included. -/
def fill (target : Bytes) (start stop : Nat) (value : Byte) : Bytes :=
  Nat.fold (stop - start) (fun i _ out => out.setIfInBounds (start + i) value) target

/-- Appends zeros until the length is at least `count`. -/
def extend (target : Bytes) (count : Nat) : Bytes :=
  Nat.fold (count - target.size) (fun _ _ out => out.push 0) target

/-- The byte at a position, zero past the end. -/
def at0 (bytes : Bytes) (position : Nat) : Byte :=
  bytes.getD position 0

/-- The four bytes of a 32-bit value, least significant first. -/
def ofWord32 (value : BitVec 32) : Bytes :=
  #[value.extractLsb' 0 8, value.extractLsb' 8 8, value.extractLsb' 16 8, value.extractLsb' 24 8]

/-- The 32-bit value of four consecutive bytes, least significant first. -/
def le32 (bytes : Bytes) (start : Nat) : BitVec 32 :=
  bytes.at0 (start + 3) ++ bytes.at0 (start + 2) ++ bytes.at0 (start + 1) ++ bytes.at0 start

/-- Byte `position` of 64-bit words laid out least significant byte first. -/
def ofWords? (words : Array Word) (position : Nat) : Option Byte :=
  words[position / 8]?.map fun word => word.extractLsb' (8 * (position % 8)) 8

/-- Lays `words` out over `target`. Bytes that no word reaches stay as they are, and the words
that `target` has no room for are left out. -/
def spread (words : Array Word) (target : Bytes) : Bytes :=
  target.mapIdx fun position byte => (ofWords? words position).getD byte

/-! ### Lengths and single bytes -/

@[simp] theorem size_zeros (count : Nat) : (zeros count).size = count := by
  simp [zeros]

theorem size_overwrite (target : Bytes) (start : Nat) (data : Bytes) :
    (target.overwrite start data).size = target.size := by
  unfold overwrite
  suffices every : ∀ count (le : count ≤ data.size),
      (Nat.fold count (fun i inside out => out.setIfInBounds (start + i)
        (getElem data i (Nat.lt_of_lt_of_le inside le))) target).size = target.size from
    every data.size (Nat.le_refl _)
  intro count le
  induction count with
  | zero => rfl
  | succ count ih => simp [Nat.fold_succ, ih (Nat.le_of_succ_le le)]

theorem size_fill (target : Bytes) (start stop : Nat) (value : Byte) :
    (target.fill start stop value).size = target.size := by
  unfold fill
  generalize stop - start = count
  induction count with
  | zero => rfl
  | succ count ih => simp [Nat.fold_succ, ih]

theorem size_extend (target : Bytes) (count : Nat) :
    (target.extend count).size = max target.size count := by
  have every : ∀ missing : Nat,
      (Nat.fold missing (fun _ _ out => Array.push out (0 : Byte)) target).size =
        target.size + missing := by
    intro missing
    induction missing with
    | zero => rfl
    | succ missing ih =>
      rw [Nat.fold_succ, Array.size_push, ih]
      exact Nat.add_assoc ..
  rw [extend, every]
  omega

@[simp] theorem size_spread (words : Array Word) (target : Bytes) :
    (spread words target).size = target.size := by
  simp [spread]

end Bytes

end VideoAccel
