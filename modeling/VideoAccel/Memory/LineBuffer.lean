import VideoAccel.Alignment
import VideoAccel.Register.Layout

/-!
The line buffers of the engine: how large they are and where they lie.

Several stages of the engine keep data of one picture row or column. How many bits each stage
needs follows from the picture's shape: its size rounded up to macroblocks, its depth, its chroma
subsampling, whether it is coded as fields and whether it is written compressed. All line buffers
lie one behind the other in one device buffer, each rounded up to 64 bytes.

`LineBuffer.deviceList` is the table the device wants: the largest buffer first and none of size
zero.
-/

namespace VideoAccel

/-- The stage a line buffer belongs to. -/
inductive LineBufferClass where
  | entropyRow
  | transformRow
  | transformColumn
  | interRow
  | interColumn
  | intraRow
  | deblockRow
  | sampleOffsetRow
  | compressionRow
deriving DecidableEq, Repr

/-- What the sizes of the line buffers depend on. Width and height are in pixels. -/
structure PictureShape where
  width : Nat
  height : Nat
  bitDepth : Nat
  chroma : Nat
  fieldCoding : Bool
  compressed : Bool
deriving DecidableEq, Repr

/-- The part of a shape that decides whether line buffers can be kept. Width and height are
rounded up to macroblocks; compression is not part of it. -/
structure ShapeKey where
  bitDepth : Nat
  chroma : Nat
  fieldCoding : Bool
  width : Nat
  height : Nat
deriving DecidableEq, Repr

/-- The place of one line buffer. -/
structure LineBuffer where
  cls : LineBufferClass
  /-- Its address register. -/
  reg : Nat
  /-- Where it starts inside the common device buffer. -/
  offset : Nat
  size : Nat
deriving DecidableEq, Repr

/-- A row of the table of line buffers that the device receives. -/
structure LineBufferEntry where
  reg : BitVec 32
  size : BitVec 32
deriving DecidableEq, Repr

namespace PictureShape

def key (shape : PictureShape) : ShapeKey :=
  { bitDepth := shape.bitDepth
    chroma := shape.chroma
    fieldCoding := shape.fieldCoding
    width := alignUp shape.width 16
    height := alignUp shape.height 16 }

end PictureShape

namespace LineBufferClass

/-- All classes in the order of their address registers. -/
def all : List LineBufferClass :=
  [entropyRow, transformRow, transformColumn, interRow, interColumn, intraRow, deblockRow,
    sampleOffsetRow, compressionRow]

/-- The name of a class in dumps. -/
def name : LineBufferClass → String
  | entropyRow => "strmd_row"
  | transformRow => "transd_row"
  | transformColumn => "transd_col"
  | interRow => "inter_row"
  | interColumn => "inter_col"
  | intraRow => "intra_row"
  | deblockRow => "dblk_row"
  | sampleOffsetRow => "sao_row"
  | compressionRow => "fbc_row"

/-- How many bits a class needs for a picture. The entropy and transform stages need memory only
for pictures beyond the size that their own store covers. -/
def bits (cls : LineBufferClass) (shape : PictureShape) : Nat :=
  let key := shape.key
  match cls with
  | entropyRow =>
      if 4096 < key.width then
        ceilDiv key.width 16 * 154 * (if key.fieldCoding then 2 else 1)
      else 0
  | transformRow => if 8192 < key.width then ceilDiv (key.width - 8192) 4 * 2 else 0
  | transformColumn => if 8192 < key.height then ceilDiv (key.height - 8192) 4 * 2 else 0
  | interRow => key.width * 42
  | interColumn => 0
  | intraRow => key.width * 44
  | deblockRow => key.width * (2 + (if key.fieldCoding then 12 else 6) * key.bitDepth)
  | sampleOffsetRow => 0
  | compressionRow => if shape.compressed && 1 < key.chroma then 2 * key.width * key.bitDepth else 0

/-- The bytes of a class, rounded up to 64. -/
def bytes (cls : LineBufferClass) (shape : PictureShape) : Nat :=
  alignUp (ceilDiv (cls.bits shape) 8) 64

end LineBufferClass

namespace LineBuffer

/-- Lines up buffers of the given classes and registers from position `start` on. -/
def placeFrom (shape : PictureShape) : Nat → List (LineBufferClass × Nat) → List LineBuffer
  | _, [] => []
  | start, (cls, reg) :: rest =>
      let size := cls.bytes shape
      ⟨cls, reg, start, size⟩ :: placeFrom shape (start + size) rest

/-- Lines up buffers of the given classes and registers. -/
def place (shape : PictureShape) (wanted : List (LineBufferClass × Nat)) : List LineBuffer :=
  placeFrom shape 0 wanted

/-- The size of a device buffer that holds all of them. -/
def totalSize (buffers : List LineBuffer) : Nat :=
  (buffers.map (·.size)).foldr (· + ·) 0

/-- Whether buffers placed for the first key cannot serve the second. -/
def outdated (placed : Option ShapeKey) (needed : ShapeKey) : Bool :=
  placed != some needed

/-- The table for the device: sorted by falling size, buffers of equal size in their order, cut
off before the first buffer of size zero. -/
def deviceList (buffers : List LineBuffer) : List LineBufferEntry :=
  ((buffers.mergeSort fun a b => b.size ≤ a.size).takeWhile fun buffer => 0 < buffer.size).map
    fun buffer => ⟨BitVec.ofNat 32 buffer.reg, BitVec.ofNat 32 buffer.size⟩

theorem length_placeFrom (shape : PictureShape) (start : Nat)
    (wanted : List (LineBufferClass × Nat)) :
    (placeFrom shape start wanted).length = wanted.length := by
  induction wanted generalizing start with
  | nil => rfl
  | cons first rest ih => simp [placeFrom, ih]

end LineBuffer

end VideoAccel
