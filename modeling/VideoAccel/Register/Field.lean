import VideoAccel.Bytes
import VideoAccel.Numeral

/-!
Bit fields of a register file.

A register file is kept as the bytes the device sees: every register is a 32-bit word, least
significant byte first. A `Field` names a run of bits inside one register, bit 0 being the least
significant. Reading and writing go through the bytes of that one register; where the file is
too short to hold them, a read gives zero and a write changes nothing.

Where a register starts is a machine word of 64 bits. Registers from `2 ^ 62` on do not have a place
of their own: their offsets wrap, and they share the bytes of low registers.
-/

namespace VideoAccel

/-- Bytes to a register. -/
def registerBytes : Nat := 4

/-- A run of `width` bits of register `reg`, from `bit` upwards. It does not leave its register. -/
structure Field where
  reg : Nat
  bit : Nat
  width : Nat
  width_pos : 0 < width := by decide
  fits : bit + width ≤ 32 := by decide
deriving DecidableEq, Repr

namespace Field

/-- The field of the given place and width, if it lies inside one register. -/
def of? (reg bit width : Nat) : Option Field :=
  if inside : 0 < width ∧ bit + width ≤ 32 then some ⟨reg, bit, width, inside.1, inside.2⟩
  else none

/-- A whole register. -/
def word (reg : Nat) : Field :=
  { reg, bit := 0, width := 32 }

/-- The single bit `bit` of a register, if there is such a bit. -/
def flag? (reg bit : Nat) : Option Field :=
  of? reg bit 1

/-- Where the field's register starts, as a machine word. -/
def byteOffset (field : Field) : Nat :=
  field.reg * registerBytes % Numeral.bound64

/-- The field's register has a place of its own: its offset does not wrap. -/
def Addressable (field : Field) : Prop :=
  field.reg * registerBytes < Numeral.bound64

instance (field : Field) : Decidable field.Addressable :=
  inferInstanceAs (Decidable (_ < _))

/-- The field's bits, at their place. -/
def mask (field : Field) : BitVec 32 :=
  (BitVec.allOnes 32 >>> (32 - field.width)) <<< field.bit

/-- Whether the file holds all bytes of the field's register. -/
def lies (field : Field) (file : Bytes) : Bool :=
  field.byteOffset + registerBytes ≤ file.size

/-- The field's value; zero where the file is too short. -/
def get (field : Field) (file : Bytes) : BitVec 32 :=
  if field.lies file then (file.le32 field.byteOffset &&& field.mask) >>> field.bit else 0

/-- Stores the low bits of `value` in the field and leaves the register's other bits alone. -/
def set (field : Field) (value : BitVec 32) (file : Bytes) : Bytes :=
  if field.lies file then
    let register := file.le32 field.byteOffset
    let stored := register &&& ~~~ field.mask ||| value <<< field.bit &&& field.mask
    file.overwrite field.byteOffset (Bytes.ofWord32 stored)
  else file

/-- Stores one or zero. -/
def setFlag (field : Field) (value : Bool) (file : Bytes) : Bytes :=
  field.set (if value then 1 else 0) file

theorem size_set (field : Field) (value : BitVec 32) (file : Bytes) :
    (field.set value file).size = file.size := by
  unfold set
  split
  · exact Bytes.size_overwrite ..
  · rfl

theorem size_setFlag (field : Field) (value : Bool) (file : Bytes) :
    (field.setFlag value file).size = file.size :=
  size_set ..

/-- What lies outside the file reads as zero. -/
theorem get_of_not_lies {field : Field} {file : Bytes} (outside : field.lies file = false) :
    field.get file = 0 := by
  simp [get, outside]

/-- What lies outside the file cannot be written. -/
theorem set_of_not_lies {field : Field} {file : Bytes} (outside : field.lies file = false)
    (value : BitVec 32) : field.set value file = file := by
  simp [set, outside]

end Field

/-- The registers of a file that are not zero, with their values. Bytes at the end that do not
fill a register are left out. -/
def Bytes.nonzeroRegisters (file : Bytes) : List (Nat × BitVec 32) :=
  (List.range (file.size / registerBytes)).filterMap fun reg =>
    let value := (Field.word reg).get file
    if value = 0 then none else some (reg, value)

/-- A named run of registers. -/
structure Section where
  name : String
  first : Nat
  count : Nat
deriving DecidableEq, Repr

namespace Section

/-- Where the section starts, in bytes. -/
def offset (sec : Section) : Nat :=
  sec.first * registerBytes

/-- The section's length in bytes. -/
def size (sec : Section) : Nat :=
  sec.count * registerBytes

/-- Where the section stops, in bytes. -/
def stop (sec : Section) : Nat :=
  sec.offset + sec.size

/-- Whether a register belongs to the section. -/
def contains (sec : Section) (reg : Nat) : Bool :=
  sec.first ≤ reg && reg < sec.first + sec.count

/-- The section's bytes, as far as the file has them. -/
def view (sec : Section) (file : Bytes) : Bytes :=
  file.extract sec.offset sec.stop

/-- Sets every byte of the section that the file has. -/
def fill (sec : Section) (value : Byte) (file : Bytes) : Bytes :=
  file.fill sec.offset (min sec.stop file.size) value

/-- Zeroes the section. -/
def clear (sec : Section) (file : Bytes) : Bytes :=
  sec.fill 0 file

/-- Puts `data` in the place of the section's bytes. -/
def store (sec : Section) (data : Bytes) (file : Bytes) : Bytes :=
  file.overwrite sec.offset data

theorem size_clear (sec : Section) (file : Bytes) :
    (sec.clear file).size = file.size :=
  Bytes.size_fill ..

end Section

end VideoAccel
