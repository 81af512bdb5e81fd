import VideoAccel.Frame.Pool
import VideoAccel.Picture.Parameters

/-!
Filling the hardware's reference slots.

The hardware has a fixed number of reference slots and wants a picture in each of them, also
where the stream names none. A missing reference is replaced by the nearest present one before
it, and by the current picture where there is none before it.

One more picture is chosen to stand in for damaged areas: among the sound references that precede
the current picture in frame number, the one with the least frame number, the first of them if
several share it. Without such a reference the first reference slot serves.
-/

namespace VideoAccel

/-- What a hardware reference slot holds. -/
structure ResolvedReference where
  /-- The stream names this reference. -/
  present : Bool := false
  slot : Nat := 0
  isField : Bool := false
  topUsed : Bool := false
  bottomUsed : Bool := false
  motionUsed : Bool := false
  topOrder : Int := 0
  bottomOrder : Int := 0
deriving DecidableEq, Repr

namespace ResolvedReference

def ofFrame (frame : ReferenceFrame) : ResolvedReference :=
  { present := true
    slot := frame.slot
    isField := frame.isField
    topUsed := frame.topUsed
    bottomUsed := frame.bottomUsed
    motionUsed := frame.motionUsed
    topOrder := frame.topOrder
    bottomOrder := frame.bottomOrder }

/-- A stand-in for a missing reference. -/
def standIn (slot : Nat) : ResolvedReference :=
  { slot }

end ResolvedReference

/-- The hardware's reference slots, filled. -/
structure ReferenceBlock where
  slots : List ResolvedReference
  /-- The slot of the picture that stands in for damaged areas. -/
  concealSlot : Nat
deriving DecidableEq, Repr

namespace ReferenceBlock

/-- Bit `i` says whether reference slot `i` meets the condition. -/
def bitmap (block : ReferenceBlock) (condition : ResolvedReference → Bool) : BitVec 32 :=
  (BitVec.ofBoolListLE (block.slots.map condition)).setWidth 32

def fieldBitmap (block : ReferenceBlock) : BitVec 32 := block.bitmap (·.isField)
def topBitmap (block : ReferenceBlock) : BitVec 32 := block.bitmap (·.topUsed)
def bottomBitmap (block : ReferenceBlock) : BitVec 32 := block.bitmap (·.bottomUsed)
def motionBitmap (block : ReferenceBlock) : BitVec 32 := block.bitmap (·.motionUsed)

end ReferenceBlock

namespace Picture

/-- Fills reference slots for the given rows of the table; `near` is the slot of the nearest
present reference before them. -/
def fillReferences (picture : Picture) (near : Nat) : List Nat → List ResolvedReference
  | [] => []
  | index :: rest =>
      match picture.reference? index with
      | some frame => .ofFrame frame :: picture.fillReferences frame.slot rest
      | none => .standIn near :: picture.fillReferences near rest

/-- Whether a reference may stand in for damaged areas: its buffer is known and sound, and its
frame number precedes the picture's. -/
def mayConceal (picture : Picture) (frame? : Nat → Option FrameBuffer) (frame : ReferenceFrame) :
    Bool :=
  (frame? frame.slot).any (fun buffer => !buffer.damaged) &&
    frame.frameNumber < picture.frameNumber

/-- The earlier candidate, unless the later one has a smaller frame number. -/
def betterConcealment (best : Option ReferenceFrame) (frame : ReferenceFrame) :
    Option ReferenceFrame :=
  match best with
  | none => some frame
  | some other => if frame.frameNumber < other.frameNumber then some frame else some other

/-- The reference that stands in for damaged areas, among the first `count` rows. -/
def concealment (picture : Picture) (frame? : Nat → Option FrameBuffer) (count : Nat) :
    Option ReferenceFrame :=
  let candidates := ((List.range count).filterMap picture.reference?).filter
    (picture.mayConceal frame?)
  candidates.foldl betterConcealment none

/-- Fills `count` hardware reference slots. -/
def resolveReferences (picture : Picture) (frame? : Nat → Option FrameBuffer) (count : Nat) :
    ReferenceBlock :=
  let slots := picture.fillReferences picture.slot (List.range count)
  let first := (slots.head?.map (·.slot)).getD picture.slot
  { slots
    concealSlot := ((picture.concealment frame? count).map (·.slot)).getD first }

theorem length_fillReferences (picture : Picture) (near : Nat) (rows : List Nat) :
    (picture.fillReferences near rows).length = rows.length := by
  induction rows generalizing near with
  | nil => rfl
  | cons index rest ih =>
    unfold fillReferences
    split <;> simp [ih]

end Picture

end VideoAccel
