/-!
Number text: hexadecimal digits, zero padding and column widths; and the bounds of the number
types that settings and registers have.

Only natural numbers are written here. `hex` has no leading zeros, `hexPadded` fills up to a
fixed count of digits, and both write letters in lower case. Digits are read in either case.
-/

namespace VideoAccel.Numeral

/-- Numbers below this have at most 31 bits. -/
def bound31 : Nat := 2147483648

/-- Numbers below this have at most 32 bits. -/
def bound32 : Nat := 4294967296

/-- Numbers below this have at most 64 bits. -/
def bound64 : Nat := 18446744073709551616

/-- Lower-case hexadecimal digits without leading zeros; zero is one digit. -/
def hex (value : Nat) : String :=
  String.ofList (Nat.toDigits 16 value)

/-- `text` behind as many copies of `fill` as it takes to reach `width` characters. -/
def padLeft (fill : Char) (width : Nat) (text : String) : String :=
  String.ofList (List.replicate (width - text.length) fill) ++ text

/-- `text` followed by as many blanks as it takes to reach `width` characters. -/
def padRight (width : Nat) (text : String) : String :=
  text ++ String.ofList (List.replicate (width - text.length) ' ')

/-- At least `digits` hexadecimal digits, filled with zeros. -/
def hexPadded (digits value : Nat) : String :=
  padLeft '0' digits (hex value)

/-- Hexadecimal digits behind `0x`. -/
def prefixedHex (value : Nat) : String :=
  "0x" ++ hex value

/-- At least `digits` hexadecimal digits behind `0x`. -/
def prefixedHexPadded (digits value : Nat) : String :=
  "0x" ++ hexPadded digits value

/-- The value of a hexadecimal digit. -/
def hexDigit? (c : Char) : Option Nat :=
  if c.isDigit then some (c.toNat - '0'.toNat)
  else if 'a' ≤ c ∧ c ≤ 'f' then some (c.toNat - 'a'.toNat + 10)
  else if 'A' ≤ c ∧ c ≤ 'F' then some (c.toNat - 'A'.toNat + 10)
  else none

/-- The number that digits behind `0x` spell. -/
def ofPrefixedHex? (text : String) : Option Nat :=
  match text.toList with
  | '0' :: 'x' :: digits => digits.foldlM (fun value c => (hexDigit? c).map (value * 16 + ·)) 0
  | _ => none

end VideoAccel.Numeral
