import VideoAccel.Alignment

/-!
How far apart the lines of an output picture lie.

Small pictures round a line to 16 bytes. Large ones round it to an odd multiple of 256 bytes, so
that lines above each other fall into different memory banks.
-/

namespace VideoAccel

inductive StrideRule where
  | multiple16
  | oddMultiple256
deriving DecidableEq, Repr

namespace StrideRule

/-- The distance of two lines that each hold `lineBytes` bytes. -/
def apply : StrideRule → Nat → Nat
  | multiple16, lineBytes => alignUp lineBytes 16
  | oddMultiple256, lineBytes => alignOddBank lineBytes

/-- The rule's name in dumps and log records. -/
def text : StrideRule → String
  | multiple16 => "Align16"
  | oddMultiple256 => "Align256Odd"

def ofText? : String → Option StrideRule
  | "Align16" => some multiple16
  | "Align256Odd" => some oddMultiple256
  | _ => none

/-- Pictures wider than this use odd multiples of 256. -/
def largeWidth : Nat := 1920

/-- Pictures higher than this use odd multiples of 256. -/
def largeHeight : Nat := 1088

/-- The rule for an output picture of the given size. -/
def forSize (width height : Nat) : StrideRule :=
  if largeWidth < width ∨ largeHeight < height then oddMultiple256 else multiple16

theorem ofText?_text (rule : StrideRule) : ofText? rule.text = some rule := by
  cases rule <;> rfl

end StrideRule

end VideoAccel
