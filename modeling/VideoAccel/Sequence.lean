import VideoAccel.Picture.Parameters

/-!
A made-up sequence of pictures for trying out a decoder.

The first picture is an instant refresh; every later one refers to the pictures before it, four
at most and the nearest first. Pictures go round the slots of the picture store, which has at
least five of them, so that no picture is decoded over one of its references.
-/

namespace VideoAccel

structure Sequence where
  width : Nat
  height : Nat
  /-- Pictures are coded as fields. -/
  fields : Bool
  /-- Slots of the picture store. -/
  slots : Nat
deriving DecidableEq, Repr

namespace Sequence

/-- How many earlier pictures a picture refers to at most. -/
def maxReferences : Nat := 4

/-- Frame numbers start over after this many pictures. -/
def frameNumberPeriod : Nat := 16

/-- A sequence over a picture store of `slots` slots, or of five if those are too few. -/
def of (width height : Nat) (fields : Bool) (slots : Nat) : Sequence :=
  ⟨width, height, fields, max slots (maxReferences + 1)⟩

/-- The slot that picture `index` is decoded into. -/
def slotOf (sequence : Sequence) (index : Nat) : Nat :=
  index % sequence.slots

def frameNumber (index : Nat) : Nat :=
  index % frameNumberPeriod

/-- The order count of a picture's top field; that of the bottom field is one more. Order counts
are signed 32-bit numbers. -/
def topOrder (index : Nat) : Int :=
  (BitVec.ofNat 32 (index * 2)).toInt

/-- How many pictures picture `index` refers to. -/
def referenceCount (index : Nat) : Nat :=
  min index maxReferences

/-- Picture `index` as a reference of a later one. -/
def asReference (sequence : Sequence) (index : Nat) : ReferenceFrame :=
  { present := true
    slot := sequence.slotOf index
    longTerm := false
    frameNumber := frameNumber index
    isField := sequence.fields
    topUsed := true
    bottomUsed := true
    motionUsed := true
    topOrder := topOrder index
    bottomOrder := topOrder index + 1 }

/-- Picture `index`, without its reference lists. -/
def picture (sequence : Sequence) (index : Nat) : Picture :=
  let parameters : SequenceParameters := { framesOnly := !sequence.fields }
  { sequence := parameters.withSize sequence.width sequence.height
    slot := sequence.slotOf index
    frameNumber := frameNumber index
    isField := sequence.fields
    isInstantRefresh := index = 0
    topOrder := topOrder index
    bottomOrder := topOrder index + 1
    references := Vector.ofFn fun k =>
      if k < referenceCount index then sequence.asReference (index - 1 - k) else {} }

/-- Picture `index` with its reference lists: list 0 names the references in order, list 1 is
empty. -/
def coded (sequence : Sequence) (index : Nat) : CodedPicture :=
  let picture := sequence.picture index
  { picture
    lists :=
      { list0 := (List.range (referenceCount index)).map fun k => picture.listEntry k false
        list1 := [] } }

end Sequence

end VideoAccel
