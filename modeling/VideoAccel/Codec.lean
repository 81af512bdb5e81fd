/-!
The coding standards an accelerator engine can be switched to.

A codec has two spellings. Its `name` is what people type and read; some codecs have a second
accepted name. Its `tag` is the spelling used where a codec is stored as data. Each spelling is
read back by a function of its own, and neither reader accepts the other's spelling by accident
of letter case.
-/

namespace VideoAccel

inductive Codec where
  | h264 | h265 | vp9 | avs2 | av1
deriving DecidableEq, Repr

namespace Codec

/-- Every codec, in declaration order. -/
def all : List Codec := [h264, h265, vp9, avs2, av1]

/-- The name shown to people. -/
def name : Codec → String
  | h264 => "h264"
  | h265 => "hevc"
  | vp9 => "vp9"
  | avs2 => "avs2"
  | av1 => "av1"

/-- The spelling of a codec stored as data. -/
def tag : Codec → String
  | h264 => "H264"
  | h265 => "H265"
  | vp9 => "Vp9"
  | avs2 => "Avs2"
  | av1 => "Av1"

/-- The number that selects the codec in the engine mode register. -/
def engineMode : Codec → Nat
  | h265 => 0
  | h264 => 1
  | vp9 => 2
  | avs2 => 3
  | av1 => 4

/-- The codec a typed name means, with the second names of the two oldest standards. -/
def ofName? : String → Option Codec
  | "h264" | "avc" => some h264
  | "hevc" | "h265" => some h265
  | "vp9" => some vp9
  | "avs2" => some avs2
  | "av1" => some av1
  | _ => none

def ofTag? : String → Option Codec
  | "H264" => some h264
  | "H265" => some h265
  | "Vp9" => some vp9
  | "Avs2" => some avs2
  | "Av1" => some av1
  | _ => none

theorem ofName?_name (codec : Codec) : ofName? codec.name = some codec := by
  cases codec <;> rfl

theorem ofTag?_tag (codec : Codec) : ofTag? codec.tag = some codec := by
  cases codec <;> rfl

theorem mem_all (codec : Codec) : codec ∈ all := by
  cases codec <;> simp [all]

end Codec

end VideoAccel
