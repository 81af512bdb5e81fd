import VideoAccel.Bytes

/-!
Start values for the arithmetic entropy decoder.

At the start of a slice the hardware computes the state of every context from a pair of signed
numbers, a slope and an offset. There are four models of 460 contexts each: one for intra slices
and one for each of three initialisation choices. Only the contexts of macroblock types and skip
flags, 0 to 23, have values of their own; all others are neutral.

The hardware reads the table as 64-bit words. The stream of bytes, slope before offset and
context by context, fills each word from its most significant byte, and the words lie in memory
with the least significant byte first; `EntropyTable.place` is the resulting position of a byte.
-/

namespace VideoAccel.EntropyTable

/-- Contexts to a model. -/
def contextCount : Nat := 460

def modelCount : Nat := 4

/-- The size of the table in memory, the unused rest at its end included. -/
def byteCount : Nat := 4024

/-- Slope and offset of a context without values of its own: both symbols are equally likely. -/
def neutral : Int × Int := (0, 64)

/-- Contexts 0 to 10, the same in every model. -/
def intraTypes : List (Int × Int) :=
  [(20, -15), (2, 54), (3, 74), (20, -15), (2, 54), (3, 74), (-28, 127), (-23, 104), (-6, 53),
    (-1, 54), (7, 51)]

/-- Contexts 11 to 23 of the models after the first. -/
def interTypes : List (List (Int × Int)) :=
  [[(23, 33), (23, 2), (21, 0), (1, 9), (0, 49), (-37, 118), (5, 57), (-13, 78), (-11, 65),
      (1, 62), (12, 49), (-4, 73), (17, 50)],
    [(22, 25), (34, 0), (16, 0), (-2, 9), (4, 41), (-29, 118), (2, 65), (-6, 71), (-13, 79),
      (5, 52), (9, 50), (-3, 70), (10, 54)],
    [(29, 16), (25, 0), (14, 0), (-10, 51), (-3, 62), (-27, 99), (26, 16), (-4, 85), (-24, 102),
      (5, 57), (6, 57), (-17, 73), (14, 57)]]

/-- Slope and offset of a context. A model beyond the four has none for the contexts in which
the models differ. -/
def startValue? (model context : Nat) : Option (Int × Int) :=
  if context ≤ 10 then intraTypes[context]?
  else if context ≤ 23 ∧ 0 < model then
    interTypes[model - 1]?.bind fun row => row[context - 11]?
  else some neutral

/-- The table as a stream of bytes, each number in two's complement. -/
def stream : List Byte :=
  (List.range modelCount).flatMap fun model =>
    (List.range contextCount).flatMap fun context =>
      let (slope, offset) := (startValue? model context).getD neutral
      [BitVec.ofInt 8 slope, BitVec.ofInt 8 offset]

/-- Where byte `k` of the stream lies in memory. -/
def place (k : Nat) : Nat :=
  k / 8 * 8 + 7 - k % 8

/-- Stores a stream of bytes in memory, from byte `k` of the stream on. -/
def storeFrom (k : Nat) (memory : Bytes) : List Byte → Bytes
  | [] => memory
  | byte :: rest => storeFrom (k + 1) (memory.setIfInBounds (place k) byte) rest

/-- The table as it lies in memory. -/
def table : Bytes :=
  storeFrom 0 (Bytes.zeros byteCount) stream

theorem size_storeFrom (k : Nat) (memory : Bytes) (bytes : List Byte) :
    (storeFrom k memory bytes).size = memory.size := by
  induction bytes generalizing k memory with
  | nil => rfl
  | cons byte rest ih => rw [storeFrom, ih, Array.size_setIfInBounds]

theorem size_table : table.size = byteCount := by
  rw [table, size_storeFrom, Bytes.size_zeros]

/-- Placing a byte twice brings it back: the stream is reversed word by word. -/
theorem place_place (k : Nat) : place (place k) = k := by
  unfold place
  omega

end VideoAccel.EntropyTable
