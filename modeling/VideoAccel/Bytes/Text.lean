import VideoAccel.Bytes
import VideoAccel.Numeral

/-!
Byte strings as text: two hexadecimal digits to a byte, the high one first.
-/

namespace VideoAccel.Bytes

/-- The two digits of a byte. -/
def digits (byte : Byte) : List Char :=
  [Nat.digitChar (byte.toNat / 16), Nat.digitChar (byte.toNat % 16)]

/-- Two lower-case digits to a byte. -/
def toHex (bytes : Bytes) : String :=
  String.ofList (bytes.toList.flatMap digits)

/-- Appends the bytes that pairs of digits spell. -/
def appendHex? (bytes : Bytes) : List Char → Option Bytes
  | [] => some bytes
  | [_] => none
  | high :: low :: rest => do
      let value := (← Numeral.hexDigit? high) * 16 + (← Numeral.hexDigit? low)
      appendHex? (bytes.push (BitVec.ofNat 8 value)) rest

/-- The bytes that text spells; none if a digit is missing or is no digit. -/
def ofHex? (text : String) : Option Bytes :=
  appendHex? #[] text.toList

/-- Reading the digits of a byte gives it back. -/
theorem appendHex?_digits (bytes : Bytes) (byte : Byte) (rest : List Char) :
    appendHex? bytes (digits byte ++ rest) = appendHex? (bytes.push byte) rest := by
  have read : ∀ value : Fin 16, Numeral.hexDigit? (Nat.digitChar value) = some value.val := by
    decide
  have high := read ⟨byte.toNat / 16, by have := byte.isLt; omega⟩
  have low := read ⟨byte.toNat % 16, by omega⟩
  simp only at high low
  simp only [digits, List.cons_append, List.nil_append, appendHex?, high, low]
  have whole : BitVec.ofNat 8 (byte.toNat / 16 * 16 + byte.toNat % 16) = byte := by
    rw [Nat.div_add_mod']
    exact BitVec.ofNat_toNat 8 byte |>.trans (BitVec.setWidth_eq byte)
  simp [whole]

theorem appendHex?_toList (bytes : Bytes) (data : List Byte) :
    appendHex? bytes (data.flatMap digits) = some (bytes ++ data.toArray) := by
  induction data generalizing bytes with
  | nil => simp [appendHex?]
  | cons byte rest ih =>
    rw [List.flatMap_cons, appendHex?_digits, ih]
    simp

/-- Text written from bytes reads back as them. -/
theorem ofHex?_toHex (bytes : Bytes) : ofHex? bytes.toHex = some bytes := by
  simp [ofHex?, toHex, appendHex?_toList]

end VideoAccel.Bytes
