import VideoAccel.Alignment

/-!
Pixel layouts of decoded pictures.

The engine writes one luma plane and, unless the picture is monochrome, one plane of interleaved
chroma. Samples have eight bits, or ten bits packed without gaps. A format is determined by its
chroma subsampling and its depth; not every pair of them has a format.
-/

namespace VideoAccel

inductive FrameFormat where
  | nv12 | nv16 | nv24 | nv15 | nv20 | nv30 | gray8
deriving DecidableEq, Repr

namespace FrameFormat

/-- The name shown to people. -/
def name : FrameFormat → String
  | nv12 => "nv12"
  | nv16 => "nv16"
  | nv24 => "nv24"
  | nv15 => "nv15"
  | nv20 => "nv20"
  | nv30 => "nv30"
  | gray8 => "gray8"

/-- The spelling of a format stored as data. -/
def tag : FrameFormat → String
  | nv12 => "Nv12"
  | nv16 => "Nv16"
  | nv24 => "Nv24"
  | nv15 => "Nv15"
  | nv20 => "Nv20"
  | nv30 => "Nv30"
  | gray8 => "Gray8"

def ofTag? : String → Option FrameFormat
  | "Nv12" => some nv12
  | "Nv16" => some nv16
  | "Nv24" => some nv24
  | "Nv15" => some nv15
  | "Nv20" => some nv20
  | "Nv30" => some nv30
  | "Gray8" => some gray8
  | _ => none

/-- Bits of a sample. -/
def bitDepth : FrameFormat → Nat
  | nv15 | nv20 | nv30 => 10
  | _ => 8

/-- The chroma subsampling: 0 for monochrome, 1 for 4:2:0, 2 for 4:2:2 and 3 for 4:4:4. -/
def chroma : FrameFormat → Nat
  | gray8 => 0
  | nv12 | nv15 => 1
  | nv16 | nv20 => 2
  | nv24 | nv30 => 3

/-- The format of a chroma subsampling and a depth. -/
def ofSampling? : (chroma depth : Nat) → Option FrameFormat
  | 0, 8 => some gray8
  | 1, 8 => some nv12
  | 2, 8 => some nv16
  | 3, 8 => some nv24
  | 1, 10 => some nv15
  | 2, 10 => some nv20
  | 3, 10 => some nv30
  | _, _ => none

/-- Bytes of one line of luma samples, before any alignment. -/
def lineBytes (format : FrameFormat) (width : Nat) : Nat :=
  ceilDiv (width * format.bitDepth) 8

/-- Twice the size of the chroma plane, in units of the luma plane. -/
def chromaRatioTwice (format : FrameFormat) : Nat :=
  match format.chroma with
  | 0 => 0
  | 1 => 1
  | 2 => 2
  | _ => 4

theorem ofTag?_tag (format : FrameFormat) : ofTag? format.tag = some format := by
  cases format <;> rfl

/-- Subsampling and depth determine the format. -/
theorem ofSampling?_eq_some_iff {chroma depth : Nat} {format : FrameFormat} :
    ofSampling? chroma depth = some format ↔
      format.chroma = chroma ∧ format.bitDepth = depth := by
  constructor
  · intro found
    unfold ofSampling? at found
    split at found <;> cases found <;> exact ⟨rfl, rfl⟩
  · rintro ⟨rfl, rfl⟩
    cases format <;> rfl

end FrameFormat

end VideoAccel
