import VideoAccel.Alignment
import VideoAccel.Bytes
import VideoAccel.Picture.Scaling
import VideoAccel.Register.Layout

/-!
What the stream parser says about one H.264 picture.

A picture brings its sequence parameters, its picture parameter set, a table of sixteen reference
frames and two reference lists into that table. The accelerator receives the parameter sets as
packed bit fields; `SequenceParameters.fields` and `PictureParameterSet.fields` are these fields
in their order, each value with its width.
-/

namespace VideoAccel

/-- One or zero, as a word. -/
def Word.ofBool (value : Bool) : Word :=
  if value then 1 else 0

/-! ### Parameter sets -/

structure SequenceParameters where
  id : Nat := 0
  profile : Nat := 100
  constraintSet3 : Bool := false
  chroma : Nat := 1
  lumaDepth : Nat := 8
  chromaDepth : Nat := 8
  /-- A quantiser of zero bypasses the transform. -/
  lossless : Bool := false
  /-- Bits of a frame number, less four. -/
  frameNumberBits : Nat := 0
  referenceLimit : Nat := 4
  orderCountType : Nat := 0
  /-- Bits of the low part of an order count, less four. -/
  orderCountBits : Nat := 2
  orderDeltaZero : Bool := false
  /-- In pixels, after cropping. -/
  width : Nat := 16
  /-- In pixels, after cropping. -/
  height : Nat := 16
  widthInMacroblocks : Nat := 1
  /-- In map units, which are two macroblocks high when fields may occur. -/
  heightInMapUnits : Nat := 1
  framesOnly : Bool := true
  adaptiveFields : Bool := false
  directInference8x8 : Bool := true
deriving DecidableEq, Repr

namespace SequenceParameters

/-- Sets the size in pixels, and the counts of macroblocks that follow from it. -/
def withSize (sequence : SequenceParameters) (width height : Nat) : SequenceParameters :=
  let rows := ceilDiv height 16
  { sequence with
    width
    height
    widthInMacroblocks := ceilDiv width 16
    heightInMapUnits := if sequence.framesOnly then rows else ceilDiv rows 2 }

/-- The width that is decoded, a multiple of 16. -/
def codedWidth (sequence : SequenceParameters) : Nat :=
  sequence.widthInMacroblocks * 16

/-- The height that is decoded, a multiple of 16. -/
def codedHeight (sequence : SequenceParameters) : Nat :=
  sequence.heightInMapUnits * 16 * (if sequence.framesOnly then 1 else 2)

/-- Whether pictures may be coded as fields. -/
def fieldCoding (sequence : SequenceParameters) : Bool :=
  !sequence.framesOnly

/-- The fields the accelerator receives, in order. Depths are counted from eight. -/
def fields (sequence : SequenceParameters) : List (Word × Nat) :=
  [(BitVec.ofNat 64 sequence.id, 5),
    (BitVec.ofNat 64 sequence.profile, 8),
    (Word.ofBool sequence.constraintSet3, 1),
    (BitVec.ofNat 64 sequence.chroma, 2),
    (BitVec.ofNat 64 (sequence.lumaDepth - 8), 3),
    (BitVec.ofNat 64 (sequence.chromaDepth - 8), 3),
    (Word.ofBool sequence.lossless, 1),
    (BitVec.ofNat 64 sequence.frameNumberBits, 4),
    (BitVec.ofNat 64 sequence.referenceLimit, 5),
    (BitVec.ofNat 64 sequence.orderCountType, 2),
    (BitVec.ofNat 64 sequence.orderCountBits, 4),
    (Word.ofBool sequence.orderDeltaZero, 1),
    (BitVec.ofNat 64 sequence.widthInMacroblocks, 16),
    (BitVec.ofNat 64 sequence.heightInMapUnits, 16),
    (Word.ofBool sequence.framesOnly, 1),
    (Word.ofBool sequence.adaptiveFields, 1),
    (Word.ofBool sequence.directInference8x8, 1)]

end SequenceParameters

structure PictureParameterSet where
  id : Nat := 0
  /-- Arithmetic rather than variable-length entropy coding. -/
  arithmeticCoding : Bool := true
  fieldOrderPresent : Bool := false
  /-- Default length of list 0, less one. -/
  defaultLength0 : Nat := 0
  /-- Default length of list 1, less one. -/
  defaultLength1 : Nat := 0
  weightedPrediction : Bool := false
  weightedBiprediction : Nat := 0
  /-- The initial quantiser, less 26. -/
  initialQp : Int := 0
  initialQs : Int := 0
  chromaQpOffset : Int := 0
  deblockingControl : Bool := true
  constrainedIntra : Bool := false
  redundantPictures : Bool := false
  transform8x8 : Bool := false
  secondChromaQpOffset : Int := 0
  scalingPresent : Bool := false
deriving DecidableEq, Repr

namespace PictureParameterSet

/-- The fields the accelerator receives, in order. Signed values are cut to two's complement. -/
def fields (parameters : PictureParameterSet) : List (Word × Nat) :=
  [(BitVec.ofNat 64 parameters.id, 8),
    (Word.ofBool parameters.arithmeticCoding, 1),
    (Word.ofBool parameters.fieldOrderPresent, 1),
    (BitVec.ofNat 64 parameters.defaultLength0, 5),
    (BitVec.ofNat 64 parameters.defaultLength1, 5),
    (Word.ofBool parameters.weightedPrediction, 1),
    (BitVec.ofNat 64 parameters.weightedBiprediction, 2),
    (BitVec.ofInt 64 parameters.initialQp, 7),
    (BitVec.ofInt 64 parameters.initialQs, 6),
    (BitVec.ofInt 64 parameters.chromaQpOffset, 5),
    (Word.ofBool parameters.deblockingControl, 1),
    (Word.ofBool parameters.constrainedIntra, 1),
    (Word.ofBool parameters.redundantPictures, 1),
    (Word.ofBool parameters.transform8x8, 1),
    (BitVec.ofInt 64 parameters.secondChromaQpOffset, 5),
    (Word.ofBool parameters.scalingPresent, 1)]

end PictureParameterSet

/-! ### References -/

/-- One row of the table of reference frames. -/
structure ReferenceFrame where
  present : Bool := false
  /-- The slot of the picture store that holds the frame. -/
  slot : Nat := 0
  longTerm : Bool := false
  frameNumber : Nat := 0
  /-- The frame was coded as fields. -/
  isField : Bool := false
  topUsed : Bool := false
  bottomUsed : Bool := false
  /-- The frame's motion vectors may be used. -/
  motionUsed : Bool := false
  topOrder : Int := 0
  bottomOrder : Int := 0
deriving DecidableEq, Repr

/-- An entry of a reference list: a row of the table, and which field of it. -/
structure ListEntry where
  present : Bool := false
  index : Nat := 0
  slot : Nat := 0
  bottom : Bool := false
deriving DecidableEq, Repr

/-- The two reference lists of a slice. -/
structure ReferenceLists where
  list0 : List ListEntry := []
  list1 : List ListEntry := []
deriving DecidableEq, Repr

namespace ReferenceLists

/-- Entries of a list beyond this many are ignored. -/
def maxLength : Nat := 32

end ReferenceLists

/-! ### Pictures -/

structure Picture where
  sequence : SequenceParameters := {}
  parameters : PictureParameterSet := {}
  /-- The slot of the picture store that the picture is decoded into. -/
  slot : Nat := 0
  frameNumber : Nat := 0
  isField : Bool := false
  isBottomField : Bool := false
  /-- The picture refers to no earlier one. -/
  isInstantRefresh : Bool := false
  topOrder : Int := 0
  bottomOrder : Int := 0
  references : Vector ReferenceFrame Layout.referenceCount := Vector.replicate _ {}
  /-- The parameter sets changed although their numbers may not have. -/
  parametersUpdated : Bool := false
  scaling : Option ScalingLists := none
deriving DecidableEq, Repr

namespace Picture

/-- The present row of the table at an index. -/
def reference? (picture : Picture) (index : Nat) : Option ReferenceFrame :=
  picture.references[index]?.filter (·.present)

/-- Frame and field macroblocks are mixed in this picture. -/
def isAdaptive (picture : Picture) : Bool :=
  picture.sequence.adaptiveFields && !picture.isField

/-- Bit `i` says whether row `i` of the table is present and meets the condition. -/
def bitmap (picture : Picture) (condition : ReferenceFrame → Bool) : BitVec 16 :=
  (BitVec.ofBoolListLE
    (picture.references.toList.map fun frame => frame.present && condition frame)).setWidth 16

/-- The rows that are long-term references. -/
def longTermBitmap (picture : Picture) : BitVec 16 :=
  picture.bitmap (·.longTerm)

/-- The rows that are present. -/
def presenceBitmap (picture : Picture) : BitVec 16 :=
  picture.bitmap fun _ => true

/-- A list entry for row `index`; it is absent if the row is. -/
def listEntry (picture : Picture) (index : Nat) (bottom : Bool) : ListEntry :=
  match picture.reference? index with
  | some frame => { present := true, index, slot := frame.slot, bottom }
  | none => { index, bottom }

/-- The picture's scaling matrices, flat ones if it brings none. -/
def scalingLists (picture : Picture) : ScalingLists :=
  picture.scaling.getD .flat

/-- An entry is present exactly when its row is, and then names the row's slot. -/
theorem present_listEntry (picture : Picture) (index : Nat) (bottom : Bool) :
    (picture.listEntry index bottom).present = (picture.reference? index).isSome := by
  unfold listEntry
  split <;> simp_all

end Picture

/-- A picture together with the reference lists of its slices. -/
structure CodedPicture where
  picture : Picture := {}
  lists : ReferenceLists := {}
deriving DecidableEq, Repr

end VideoAccel
