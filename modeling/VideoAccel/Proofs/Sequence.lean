import VideoAccel.Sequence
import Mathlib.Data.List.Nodup
import Mathlib.Data.Int.ModEq

/-!
What the pictures of a made-up sequence refer to.

The pictures are decoded in order, each into the slot of the picture store that it names, and a slot
keeps its picture until as many more are decoded as the store has slots
(`Sequence.store_eq_some_iff`). As a store has more slots than a picture has references, no picture is
decoded over one that it refers to; `Sequence.refersBack` says so together with everything a picture
says about its references.
-/

namespace VideoAccel

namespace Picture

/-- The row of the table of references that describes a decoded picture: a short-term reference of
which both fields and the motion vectors may be used. -/
def asReference (picture : Picture) : ReferenceFrame :=
  { present := true
    slot := picture.slot
    longTerm := false
    frameNumber := picture.frameNumber
    isField := picture.isField
    topUsed := true
    bottomUsed := true
    motionUsed := true
    topOrder := picture.topOrder
    bottomOrder := picture.bottomOrder }

/-- The present rows of the table of references, in order. -/
def presentReferences (picture : Picture) : List ReferenceFrame :=
  picture.references.toList.filter (·.present)

end Picture

namespace Sequence

variable {sequence : Sequence} {index : Nat}

/-! ### The picture store -/

/-- Which pictures the slots of the picture store hold when `count` pictures have been decoded. -/
def store (sequence : Sequence) : Nat → Nat → Option Nat
  | 0, _ => none
  | count + 1, slot =>
      if (sequence.coded count).picture.slot = slot then some count else sequence.store count slot

@[simp] theorem slot_coded (sequence : Sequence) (index : Nat) :
    (sequence.coded index).picture.slot = sequence.slotOf index := rfl

/-- Among as many pictures in a row as the store has slots no two share a slot. -/
theorem eq_of_slotOf_eq {a b : Nat} (near : a < b + sequence.slots ∧ b < a + sequence.slots)
    (same : sequence.slotOf a = sequence.slotOf b) : a = b := by
  have congruent : a ≡ b [MOD sequence.slots] := same
  exact congruent.eq_of_abs_lt (abs_lt.mpr ⟨by omega, by omega⟩)

/-- A slot holds a picture from when it is decoded until the store has gone round once. -/
theorem store_eq_some_iff (some_ : 0 < sequence.slots) {count slot : Nat} :
    sequence.store count slot = some index ↔
      sequence.slotOf index = slot ∧ index < count ∧ count ≤ index + sequence.slots := by
  induction count with
  | zero => simp [store]
  | succ count ih =>
      rw [store, slot_coded]
      by_cases here : sequence.slotOf count = slot
      · rw [if_pos here]
        constructor
        · rintro ⟨⟩
          exact ⟨here, by omega, by omega⟩
        · rintro ⟨same, before, kept⟩
          exact congrArg some (eq_of_slotOf_eq (by omega) (here.trans same.symm))
      · rw [if_neg here, ih]
        constructor
        · rintro ⟨same, before, kept⟩
          have around : count ≠ index + sequence.slots := by
            rintro rfl
            exact here ((Nat.add_mod_right ..).trans same)
          exact ⟨same, by omega, by omega⟩
        · rintro ⟨same, before, kept⟩
          have other : index ≠ count := by
            rintro rfl
            exact here same
          exact ⟨same, by omega, by omega⟩

/-! ### The table and the lists -/

theorem asReference_coded (sequence : Sequence) (index : Nat) :
    (sequence.coded index).picture.asReference = sequence.asReference index := rfl

theorem toList_references (sequence : Sequence) (index : Nat) :
    (sequence.coded index).picture.references.toList =
      (List.range (referenceCount index)).map
          (fun k => (sequence.coded (index - 1 - k)).picture.asReference) ++
        List.replicate (16 - referenceCount index) ({} : ReferenceFrame) := by
  have few : referenceCount index ≤ 4 := Nat.min_le_right ..
  have rows : Layout.referenceCount = 16 := rfl
  simp only [asReference_coded]
  apply List.ext_getElem
  · simp
    omega
  · intro k inTable inList
    simp [coded, picture, List.getElem_append]

theorem presentReferences_coded (sequence : Sequence) (index : Nat) :
    (sequence.coded index).picture.presentReferences =
      (List.range (referenceCount index)).map
        fun k => (sequence.coded (index - 1 - k)).picture.asReference := by
  have all : ∀ frame ∈ (List.range (referenceCount index)).map
      (fun k => (sequence.coded (index - 1 - k)).picture.asReference), frame.present = true := by
    simp [Picture.asReference]
  rw [Picture.presentReferences, toList_references, List.filter_append,
    List.filter_eq_self.mpr all, List.filter_replicate]
  simp

/-- The rows of the table that are present, and what they say. -/
theorem reference?_coded {row : Nat} {frame : ReferenceFrame} :
    (sequence.coded index).picture.reference? row = some frame ↔
      row < referenceCount index ∧
        frame = (sequence.coded (index - 1 - row)).picture.asReference := by
  rw [Picture.reference?, ← Vector.getElem?_toList, toList_references, List.getElem?_append]
  by_cases there : row < referenceCount index
  · simp [there, Picture.asReference, Option.filter, eq_comm]
  · have absent : (List.replicate (16 - referenceCount index)
        ({} : ReferenceFrame))[row - referenceCount index]?.filter (·.present) = none := by
      rw [List.getElem?_replicate]
      split <;> rfl
    simp [there, absent]

/-- List 0 names the present rows of the table in their order. -/
theorem list0_coded (sequence : Sequence) (index : Nat) :
    (sequence.coded index).lists.list0 =
      (sequence.coded index).picture.presentReferences.mapIdx
        fun k frame => { present := true, index := k, slot := frame.slot, bottom := false } := by
  rw [presentReferences_coded]
  apply List.ext_getElem
  · simp [coded]
  · intro k inList inTable
    have there : k < referenceCount index := by simpa using inTable
    have row : (sequence.coded index).picture.reference? k =
        some (sequence.coded (index - 1 - k)).picture.asReference :=
      reference?_coded.mpr ⟨there, rfl⟩
    have entry : (sequence.coded index).picture.listEntry k false =
        { present := true
          index := k
          slot := (sequence.coded (index - 1 - k)).picture.asReference.slot
          bottom := false } := by
      rw [Picture.listEntry, row]
    simpa [coded] using entry

/-! ### No picture over its references -/

/-- What picture `index` of a sequence says about the pictures before it. -/
structure RefersBack (sequence : Sequence) (index : Nat) : Prop where
  /-- The table starts with the pictures right before this one, four at most and the latest first;
  no other row is present. -/
  table : (sequence.coded index).picture.references.toList =
    (List.range (min index 4)).map
        (fun k => (sequence.coded (index - 1 - k)).picture.asReference) ++
      List.replicate (16 - min index 4) ({} : ReferenceFrame)
  count : (sequence.coded index).picture.presentReferences.length = min index 4
  /-- The picture and its references are all in different slots. -/
  apart : ((sequence.coded index).picture.slot ::
    (sequence.coded index).picture.presentReferences.map (·.slot)).Nodup
  /-- The slot of a reference holds the picture that the reference describes, when this picture is
  about to be decoded and still when it has been. -/
  held : ∀ row frame, (sequence.coded index).picture.reference? row = some frame →
    sequence.store index frame.slot = some (index - 1 - row) ∧
      sequence.store (index + 1) frame.slot = some (index - 1 - row)
  /-- List 0 names the references in their order, each with its slot. -/
  list0 : (sequence.coded index).lists.list0 =
    (sequence.coded index).picture.presentReferences.mapIdx
      fun k frame => { present := true, index := k, slot := frame.slot, bottom := false }
  list1 : (sequence.coded index).lists.list1 = []
  refresh : (sequence.coded index).picture.isInstantRefresh = true ↔ index = 0

/-- No reference is in the slot of the picture, and no two are in one slot. -/
theorem nodup_slots (wide : maxReferences < sequence.slots) (index : Nat) :
    ((sequence.coded index).picture.slot ::
      (sequence.coded index).picture.presentReferences.map (·.slot)).Nodup := by
  have few : referenceCount index ≤ index ∧ referenceCount index ≤ maxReferences :=
    ⟨Nat.min_le_left .., Nat.min_le_right ..⟩
  rw [presentReferences_coded, List.map_map, List.nodup_cons]
  constructor
  · intro among
    obtain ⟨k, inside, same⟩ := List.mem_map.mp among
    have near := List.mem_range.mp inside
    have back := eq_of_slotOf_eq (by omega) same
    omega
  · refine List.nodup_range.map_on ?_
    intro a aInside b bInside same
    have aNear := List.mem_range.mp aInside
    have bNear := List.mem_range.mp bInside
    have back := eq_of_slotOf_eq (by omega) same
    omega

/-- The slot of a reference holds the picture it describes, and decoding the picture that refers to
it does not change that. -/
theorem store_reference (wide : maxReferences < sequence.slots) {row : Nat} {frame : ReferenceFrame}
    (there : (sequence.coded index).picture.reference? row = some frame) :
    sequence.store index frame.slot = some (index - 1 - row) ∧
      sequence.store (index + 1) frame.slot = some (index - 1 - row) := by
  obtain ⟨inside, rfl⟩ := reference?_coded.mp there
  have few : referenceCount index ≤ index ∧ referenceCount index ≤ maxReferences :=
    ⟨Nat.min_le_left .., Nat.min_le_right ..⟩
  constructor
  · exact (store_eq_some_iff (by omega)).mpr ⟨rfl, by omega, by omega⟩
  · exact (store_eq_some_iff (by omega)).mpr ⟨rfl, by omega, by omega⟩

theorem lt_slots_of (width height : Nat) (fields : Bool) (slots : Nat) :
    maxReferences < (Sequence.of width height fields slots).slots :=
  Nat.le_max_right ..

/-- Whatever the size and the kind of the pictures, and however small a picture store is asked for, no
picture of a sequence is decoded over one that it refers to. -/
theorem refersBack (width height : Nat) (fields : Bool) (slots index : Nat) :
    (Sequence.of width height fields slots).RefersBack index where
  table := toList_references _ index
  count := by
    rw [presentReferences_coded, List.length_map, List.length_range]
    rfl
  apart := nodup_slots (lt_slots_of ..) index
  held _ _ there := store_reference (lt_slots_of ..) there
  list0 := list0_coded _ index
  list1 := rfl
  refresh := decide_eq_true_iff

end Sequence

end VideoAccel
