import VideoAccel.Picture.Blob
import VideoAccel.Proofs.Bits.Records
import Mathlib.Algebra.Ring.Int.Defs

/-!
What the hardware finds in a parameter entry.

`ParameterEntry` is the meaning of an entry: every field a number of the field's width, and for each
row of the table of references whether it is marked. `ParameterEntry.read` reads one off a string of
bits; in the fields of a picture it finds `ParameterEntry.of` that picture (`ParameterEntry.reads`).
Pictures whose parameter sets lie in the ranges of their fields, which those of the standard do
(`Picture.Conforms.fits`), cannot be told apart by anything an entry leaves out
(`ParameterEntry.tells`).
-/

namespace VideoAccel

/-! ### The meaning of an entry -/

/-- What the hardware learns about a sequence. -/
structure SequenceEntry where
  id : BitVec 5
  profile : BitVec 8
  constraintSet3 : Bool
  chroma : BitVec 2
  /-- Counted from eight. -/
  lumaDepth : BitVec 3
  /-- Counted from eight. -/
  chromaDepth : BitVec 3
  lossless : Bool
  frameNumberBits : BitVec 4
  referenceLimit : BitVec 5
  orderCountType : BitVec 2
  orderCountBits : BitVec 4
  orderDeltaZero : Bool
  widthInMacroblocks : BitVec 16
  heightInMapUnits : BitVec 16
  framesOnly : Bool
  adaptiveFields : Bool
  directInference8x8 : Bool
deriving DecidableEq, Repr

/-- What the hardware learns about a picture parameter set. -/
structure PictureSetEntry where
  id : BitVec 8
  arithmeticCoding : Bool
  fieldOrderPresent : Bool
  defaultLength0 : BitVec 5
  defaultLength1 : BitVec 5
  weightedPrediction : Bool
  weightedBiprediction : BitVec 2
  /-- In two's complement, like the other quantisers and offsets. -/
  initialQp : BitVec 7
  initialQs : BitVec 6
  chromaQpOffset : BitVec 5
  deblockingControl : Bool
  constrainedIntra : Bool
  redundantPictures : Bool
  transform8x8 : Bool
  secondChromaQpOffset : BitVec 5
  scalingPresent : Bool
deriving DecidableEq, Repr

/-- A parameter entry: both parameter sets, and the marks of the rows of the table of references. -/
structure ParameterEntry where
  sequence : SequenceEntry
  parameters : PictureSetEntry
  /-- The rows that are long-term references. -/
  longTerm : Vector Bool Layout.referenceCount
  /-- The rows that are present. -/
  present : Vector Bool Layout.referenceCount
deriving DecidableEq, Repr

namespace SequenceEntry

/-- What there is to learn about a sequence. -/
def of (sequence : SequenceParameters) : SequenceEntry :=
  { id := BitVec.ofNat 5 sequence.id
    profile := BitVec.ofNat 8 sequence.profile
    constraintSet3 := sequence.constraintSet3
    chroma := BitVec.ofNat 2 sequence.chroma
    lumaDepth := BitVec.ofNat 3 (sequence.lumaDepth - 8)
    chromaDepth := BitVec.ofNat 3 (sequence.chromaDepth - 8)
    lossless := sequence.lossless
    frameNumberBits := BitVec.ofNat 4 sequence.frameNumberBits
    referenceLimit := BitVec.ofNat 5 sequence.referenceLimit
    orderCountType := BitVec.ofNat 2 sequence.orderCountType
    orderCountBits := BitVec.ofNat 4 sequence.orderCountBits
    orderDeltaZero := sequence.orderDeltaZero
    widthInMacroblocks := BitVec.ofNat 16 sequence.widthInMacroblocks
    heightInMapUnits := BitVec.ofNat 16 sequence.heightInMapUnits
    framesOnly := sequence.framesOnly
    adaptiveFields := sequence.adaptiveFields
    directInference8x8 := sequence.directInference8x8 }

def read : Action Reader SequenceEntry := do
  let id ← Reader.readBits 5
  let profile ← Reader.readBits 8
  let constraintSet3 ← Reader.readBit
  let chroma ← Reader.readBits 2
  let lumaDepth ← Reader.readBits 3
  let chromaDepth ← Reader.readBits 3
  let lossless ← Reader.readBit
  let frameNumberBits ← Reader.readBits 4
  let referenceLimit ← Reader.readBits 5
  let orderCountType ← Reader.readBits 2
  let orderCountBits ← Reader.readBits 4
  let orderDeltaZero ← Reader.readBit
  let widthInMacroblocks ← Reader.readBits 16
  let heightInMapUnits ← Reader.readBits 16
  let framesOnly ← Reader.readBit
  let adaptiveFields ← Reader.readBit
  let directInference8x8 ← Reader.readBit
  return {
    id := id, profile, constraintSet3, chroma, lumaDepth, chromaDepth, lossless, frameNumberBits,
    referenceLimit, orderCountType, orderCountBits, orderDeltaZero, widthInMacroblocks,
    heightInMapUnits, framesOnly, adaptiveFields, directInference8x8 }

theorem reads (sequence : SequenceParameters) :
    Reader.Reads read (Writer.string sequence.fields) (of sequence) := by
  refine .number (by decide) ?_ -- id
  refine .number (by decide) ?_ -- profile
  refine .flag ?_
  refine .number (by decide) ?_ -- chroma
  refine .number (by decide) ?_ -- lumaDepth
  refine .number (by decide) ?_ -- chromaDepth
  refine .flag ?_
  refine .number (by decide) ?_ -- frameNumberBits
  refine .number (by decide) ?_ -- referenceLimit
  refine .number (by decide) ?_ -- orderCountType
  refine .number (by decide) ?_ -- orderCountBits
  refine .flag ?_
  refine .number (by decide) ?_ -- widthInMacroblocks
  refine .number (by decide) ?_ -- heightInMapUnits
  exact .flag (.flag (.flag (.pure _)))

end SequenceEntry

namespace PictureSetEntry

/-- What there is to learn about a picture parameter set. -/
def of (parameters : PictureParameterSet) : PictureSetEntry :=
  { id := BitVec.ofNat 8 parameters.id
    arithmeticCoding := parameters.arithmeticCoding
    fieldOrderPresent := parameters.fieldOrderPresent
    defaultLength0 := BitVec.ofNat 5 parameters.defaultLength0
    defaultLength1 := BitVec.ofNat 5 parameters.defaultLength1
    weightedPrediction := parameters.weightedPrediction
    weightedBiprediction := BitVec.ofNat 2 parameters.weightedBiprediction
    initialQp := BitVec.ofInt 7 parameters.initialQp
    initialQs := BitVec.ofInt 6 parameters.initialQs
    chromaQpOffset := BitVec.ofInt 5 parameters.chromaQpOffset
    deblockingControl := parameters.deblockingControl
    constrainedIntra := parameters.constrainedIntra
    redundantPictures := parameters.redundantPictures
    transform8x8 := parameters.transform8x8
    secondChromaQpOffset := BitVec.ofInt 5 parameters.secondChromaQpOffset
    scalingPresent := parameters.scalingPresent }

def read : Action Reader PictureSetEntry := do
  let id ← Reader.readBits 8
  let arithmeticCoding ← Reader.readBit
  let fieldOrderPresent ← Reader.readBit
  let defaultLength0 ← Reader.readBits 5
  let defaultLength1 ← Reader.readBits 5
  let weightedPrediction ← Reader.readBit
  let weightedBiprediction ← Reader.readBits 2
  let initialQp ← Reader.readBits 7
  let initialQs ← Reader.readBits 6
  let chromaQpOffset ← Reader.readBits 5
  let deblockingControl ← Reader.readBit
  let constrainedIntra ← Reader.readBit
  let redundantPictures ← Reader.readBit
  let transform8x8 ← Reader.readBit
  let secondChromaQpOffset ← Reader.readBits 5
  let scalingPresent ← Reader.readBit
  return {
    id := id, arithmeticCoding, fieldOrderPresent, defaultLength0, defaultLength1,
    weightedPrediction, weightedBiprediction, initialQp, initialQs, chromaQpOffset,
    deblockingControl, constrainedIntra, redundantPictures, transform8x8, secondChromaQpOffset,
    scalingPresent }

theorem reads (parameters : PictureParameterSet) :
    Reader.Reads read (Writer.string parameters.fields) (of parameters) := by
  refine .number (by decide) ?_ -- id
  refine .flag (.flag ?_)
  refine .number (by decide) ?_ -- defaultLength0
  refine .number (by decide) ?_ -- defaultLength1
  refine .flag ?_
  refine .number (by decide) ?_ -- weightedBiprediction
  refine .signed (by decide) ?_ -- initialQp
  refine .signed (by decide) ?_ -- initialQs
  refine .signed (by decide) ?_ -- chromaQpOffset
  refine .flag (.flag (.flag (.flag ?_)))
  refine .signed (by decide) ?_ -- secondChromaQpOffset
  exact .flag (.pure _)

end PictureSetEntry

/-- Bit `row` of a bitmap is its bit of that number, counted from the lowest. -/
theorem Picture.getLsbD_bitmap (picture : Picture) (condition : ReferenceFrame → Bool) {row : Nat}
    (known : row < Layout.referenceCount) :
    (picture.bitmap condition).getLsbD row =
      (picture.references[row].present && condition picture.references[row]) := by
  have inside : row < 16 := known
  rw [bitmap, BitVec.getLsbD_setWidth, BitVec.getLsbD_ofBoolListLE]
  simp [inside, known]

namespace ParameterEntry

/-- What there is to learn about a picture. -/
def of (picture : Picture) : ParameterEntry :=
  { sequence := .of picture.sequence
    parameters := .of picture.parameters
    longTerm := picture.references.map fun frame => frame.present && frame.longTerm
    present := picture.references.map (·.present) }

/-- Reads one mark for each row, that of row 0 being the last bit. -/
def readMarks : Action Reader (Vector Bool Layout.referenceCount) := do
  let bits ← Reader.readBits Layout.referenceCount
  return Vector.ofFn fun row => bits.getLsbD row

def read : Action Reader ParameterEntry := do
  let sequence ← SequenceEntry.read
  let parameters ← PictureSetEntry.read
  let longTerm ← readMarks
  let present ← readMarks
  return { sequence := sequence, parameters, longTerm, present }

theorem readMarks_reads (picture : Picture) (condition : ReferenceFrame → Bool) :
    Reader.Reads readMarks (Writer.string [((picture.bitmap condition).setWidth 64, 16)])
      (picture.references.map fun frame => frame.present && condition frame) := by
  have marks : (picture.references.map fun frame => frame.present && condition frame) =
      Vector.ofFn fun row : Fin Layout.referenceCount =>
        ((picture.bitmap condition).setWidth 64 |>.setWidth 16).getLsbD row := by
    apply Vector.ext
    intro row known
    rw [Vector.getElem_map, Vector.getElem_ofFn, BitVec.setWidth_setWidth_of_le _ (by decide),
      BitVec.setWidth_eq, picture.getLsbD_bitmap condition known]
  rw [marks]
  exact .bits (by decide) (.pure _)

/-- The entry with the parameter sets of another picture. -/
def withHeader (entry : ParameterEntry) (header : Picture) : ParameterEntry :=
  { entry with sequence := .of header.sequence, parameters := .of header.parameters }

/-- In the header of one picture and the bitmaps of another there is what there is to learn about
both. -/
theorem reads (header picture : Picture) :
    Reader.Reads read (Writer.string (header.headerFields ++ picture.bitmapFields))
      ((of picture).withHeader header) := by
  have present := readMarks_reads picture fun _ => true
  simp only [Bool.and_true] at present
  rw [Picture.headerFields, List.append_assoc]
  refine .record (SequenceEntry.reads _) (.record (PictureSetEntry.reads _) ?_)
  exact .record (readMarks_reads picture (·.longTerm)) (.record present (.pure _))

end ParameterEntry

/-! ### What entries tell apart -/

/-- The values lie in the ranges of their fields. -/
structure SequenceParameters.Fits (sequence : SequenceParameters) : Prop where
  id : sequence.id < 2 ^ 5
  profile : sequence.profile < 2 ^ 8
  chroma : sequence.chroma < 2 ^ 2
  lumaDepth : 8 ≤ sequence.lumaDepth ∧ sequence.lumaDepth - 8 < 2 ^ 3
  chromaDepth : 8 ≤ sequence.chromaDepth ∧ sequence.chromaDepth - 8 < 2 ^ 3
  frameNumberBits : sequence.frameNumberBits < 2 ^ 4
  referenceLimit : sequence.referenceLimit < 2 ^ 5
  orderCountType : sequence.orderCountType < 2 ^ 2
  orderCountBits : sequence.orderCountBits < 2 ^ 4
  widthInMacroblocks : sequence.widthInMacroblocks < 2 ^ 16
  heightInMapUnits : sequence.heightInMapUnits < 2 ^ 16

@[inherit_doc SequenceParameters.Fits]
structure PictureParameterSet.Fits (parameters : PictureParameterSet) : Prop where
  id : parameters.id < 2 ^ 8
  defaultLength0 : parameters.defaultLength0 < 2 ^ 5
  defaultLength1 : parameters.defaultLength1 < 2 ^ 5
  weightedBiprediction : parameters.weightedBiprediction < 2 ^ 2
  initialQp : -2 ^ 6 ≤ parameters.initialQp ∧ parameters.initialQp < 2 ^ 6
  initialQs : -2 ^ 5 ≤ parameters.initialQs ∧ parameters.initialQs < 2 ^ 5
  chromaQpOffset : -2 ^ 4 ≤ parameters.chromaQpOffset ∧ parameters.chromaQpOffset < 2 ^ 4
  secondChromaQpOffset :
    -2 ^ 4 ≤ parameters.secondChromaQpOffset ∧ parameters.secondChromaQpOffset < 2 ^ 4

/-- Both parameter sets lie in the ranges of their fields. -/
structure Picture.Fits (picture : Picture) : Prop where
  sequence : picture.sequence.Fits
  parameters : picture.parameters.Fits

/-- The values lie in the ranges that the standard allows; a picture is at most 1055 macroblocks wide
or high. -/
structure SequenceParameters.Conforms (sequence : SequenceParameters) : Prop where
  id : sequence.id ≤ 31
  profile : sequence.profile ≤ 255
  chroma : sequence.chroma ≤ 3
  lumaDepth : 8 ≤ sequence.lumaDepth ∧ sequence.lumaDepth ≤ 14
  chromaDepth : 8 ≤ sequence.chromaDepth ∧ sequence.chromaDepth ≤ 14
  frameNumberBits : sequence.frameNumberBits ≤ 12
  referenceLimit : sequence.referenceLimit ≤ 16
  orderCountType : sequence.orderCountType ≤ 2
  orderCountBits : sequence.orderCountBits ≤ 12
  widthInMacroblocks : sequence.widthInMacroblocks ≤ 1055
  heightInMapUnits : sequence.heightInMapUnits ≤ 1055

/-- The values lie in the ranges that the standard allows; the quantiser reaches down to -62 at the
greatest depth. -/
structure PictureParameterSet.Conforms (parameters : PictureParameterSet) : Prop where
  id : parameters.id ≤ 255
  defaultLength0 : parameters.defaultLength0 ≤ 31
  defaultLength1 : parameters.defaultLength1 ≤ 31
  weightedBiprediction : parameters.weightedBiprediction ≤ 2
  initialQp : -62 ≤ parameters.initialQp ∧ parameters.initialQp ≤ 25
  initialQs : -26 ≤ parameters.initialQs ∧ parameters.initialQs ≤ 25
  chromaQpOffset : -12 ≤ parameters.chromaQpOffset ∧ parameters.chromaQpOffset ≤ 12
  secondChromaQpOffset :
    -12 ≤ parameters.secondChromaQpOffset ∧ parameters.secondChromaQpOffset ≤ 12

/-- Both parameter sets lie in the ranges that the standard allows. -/
structure Picture.Conforms (picture : Picture) : Prop where
  sequence : picture.sequence.Conforms
  parameters : picture.parameters.Conforms

/-- The fields are wide enough for everything that the standard allows. -/
theorem Picture.Conforms.fits {picture : Picture} (conforms : picture.Conforms) : picture.Fits := by
  obtain ⟨sequence, parameters⟩ := conforms
  constructor
  · cases sequence
    constructor <;> omega
  · cases parameters
    constructor <;> omega

/-- The pictures agree in all that an entry holds: their sequences, but for the size in pixels, their
picture parameter sets and the marks of their references. -/
structure Picture.Agree (first second : Picture) : Prop where
  sequence :
    { first.sequence with width := second.sequence.width, height := second.sequence.height } =
      second.sequence
  parameters : first.parameters = second.parameters
  longTerm : first.longTermBitmap = second.longTermBitmap
  presence : first.presenceBitmap = second.presenceBitmap

/-- Numbers within a width are the same when their fields are. -/
theorem Bits.ofNat_inj {width a b : Nat} (same : BitVec.ofNat width a = BitVec.ofNat width b)
    (inA : a < 2 ^ width) (inB : b < 2 ^ width) : a = b := by
  have values := congrArg BitVec.toNat same
  rwa [BitVec.toNat_ofNat, BitVec.toNat_ofNat, Nat.mod_eq_of_lt inA, Nat.mod_eq_of_lt inB] at values

/-- Signed numbers within a width are the same when their fields are. -/
theorem Bits.ofInt_inj {width : Nat} {a b : Int}
    (same : BitVec.ofInt (width + 1) a = BitVec.ofInt (width + 1) b)
    (inA : -2 ^ width ≤ a ∧ a < 2 ^ width) (inB : -2 ^ width ≤ b ∧ b < 2 ^ width) : a = b := by
  have values := congrArg BitVec.toInt same
  rwa [BitVec.toInt_ofInt_eq_self (Nat.succ_pos _) inA.1 inA.2,
    BitVec.toInt_ofInt_eq_self (Nat.succ_pos _) inB.1 inB.2] at values

/-- Sequences within the ranges differ in the size in pixels only if their entries are the same. -/
theorem SequenceEntry.tells {first second : SequenceParameters} (fits : first.Fits)
    (fitting : second.Fits) (same : of first = of second) :
    { first with width := second.width, height := second.height } = second := by
  cases first
  cases second
  simp only [of, SequenceEntry.mk.injEq] at same
  obtain ⟨id, profile, constraintSet3, chroma, lumaDepth, chromaDepth, lossless, frameNumberBits,
    referenceLimit, orderCountType, orderCountBits, orderDeltaZero, widthInMacroblocks,
    heightInMapUnits, framesOnly, adaptiveFields, directInference8x8⟩ := same
  have luma := Bits.ofNat_inj lumaDepth fits.lumaDepth.2 fitting.lumaDepth.2
  have chromas := Bits.ofNat_inj chromaDepth fits.chromaDepth.2 fitting.chromaDepth.2
  have depths := And.intro fits.lumaDepth.1 fitting.lumaDepth.1
  have chromaDepths := And.intro fits.chromaDepth.1 fitting.chromaDepth.1
  simp only at luma chromas depths chromaDepths
  simp only [SequenceParameters.mk.injEq]
  exact ⟨Bits.ofNat_inj id fits.id fitting.id, Bits.ofNat_inj profile fits.profile fitting.profile,
    constraintSet3, Bits.ofNat_inj chroma fits.chroma fitting.chroma, by omega, by omega, lossless,
    Bits.ofNat_inj frameNumberBits fits.frameNumberBits fitting.frameNumberBits,
    Bits.ofNat_inj referenceLimit fits.referenceLimit fitting.referenceLimit,
    Bits.ofNat_inj orderCountType fits.orderCountType fitting.orderCountType,
    Bits.ofNat_inj orderCountBits fits.orderCountBits fitting.orderCountBits, orderDeltaZero,
    trivial, trivial,
    Bits.ofNat_inj widthInMacroblocks fits.widthInMacroblocks fitting.widthInMacroblocks,
    Bits.ofNat_inj heightInMapUnits fits.heightInMapUnits fitting.heightInMapUnits, framesOnly,
    adaptiveFields, directInference8x8⟩

theorem PictureSetEntry.tells {first second : PictureParameterSet} (fits : first.Fits)
    (fitting : second.Fits) (same : of first = of second) : first = second := by
  cases first
  cases second
  simp only [of, PictureSetEntry.mk.injEq] at same
  obtain ⟨id, arithmeticCoding, fieldOrderPresent, defaultLength0, defaultLength1,
    weightedPrediction, weightedBiprediction, initialQp, initialQs, chromaQpOffset,
    deblockingControl, constrainedIntra, redundantPictures, transform8x8, secondChromaQpOffset,
    scalingPresent⟩ := same
  simp only [PictureParameterSet.mk.injEq]
  exact ⟨Bits.ofNat_inj id fits.id fitting.id, arithmeticCoding, fieldOrderPresent,
    Bits.ofNat_inj defaultLength0 fits.defaultLength0 fitting.defaultLength0,
    Bits.ofNat_inj defaultLength1 fits.defaultLength1 fitting.defaultLength1, weightedPrediction,
    Bits.ofNat_inj weightedBiprediction fits.weightedBiprediction fitting.weightedBiprediction,
    Bits.ofInt_inj initialQp fits.initialQp fitting.initialQp,
    Bits.ofInt_inj initialQs fits.initialQs fitting.initialQs,
    Bits.ofInt_inj chromaQpOffset fits.chromaQpOffset fitting.chromaQpOffset,
    deblockingControl, constrainedIntra, redundantPictures, transform8x8,
    Bits.ofInt_inj secondChromaQpOffset fits.secondChromaQpOffset fitting.secondChromaQpOffset,
    scalingPresent⟩

/-- Pictures within the ranges that have the same entry agree in all that an entry holds. -/
theorem ParameterEntry.tells {first second : Picture} (fits : first.Fits) (fitting : second.Fits)
    (same : of first = of second) : first.Agree second := by
  simp only [of, ParameterEntry.mk.injEq] at same
  obtain ⟨sequence, parameters, longTerm, present⟩ := same
  have bitmaps : ∀ condition : ReferenceFrame → Bool,
      (first.references.map fun frame => frame.present && condition frame) =
        (second.references.map fun frame => frame.present && condition frame) →
      first.bitmap condition = second.bitmap condition := by
    intro condition marks
    apply BitVec.eq_of_getLsbD_eq
    intro row known
    have inside : row < Layout.referenceCount := known
    have mark := congrArg (fun marks : Vector Bool Layout.referenceCount => marks[row]) marks
    simp only [Vector.getElem_map] at mark
    rw [first.getLsbD_bitmap condition inside, second.getLsbD_bitmap condition inside, mark]
  exact {
    sequence := SequenceEntry.tells fits.sequence fitting.sequence sequence
    parameters := PictureSetEntry.tells fits.parameters fitting.parameters parameters
    longTerm := bitmaps (·.longTerm) longTerm
    presence := bitmaps (fun _ => true) (by simpa using present) }

end VideoAccel
