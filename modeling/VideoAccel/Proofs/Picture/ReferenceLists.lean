import VideoAccel.Picture.Blob
import VideoAccel.Proofs.Bits.Records
import VideoAccel.Proofs.Bytes

/-!
What the hardware finds in the reference lists and the scaling matrices.

`ListBlock` is the meaning of the block of reference lists: sixteen frame numbers, and what stands in
each of the 32 places of either list. `ListBlock.read` reads it off a string of bits, and in the
serialised lists of a picture it finds `ListBlock.of` that picture with nothing but zeros behind
(`Blob.referenceLists_reads`). The scaling matrices are found coefficient by coefficient.
-/

namespace VideoAccel

/-! ### The meaning of the block -/

/-- What stands in one place of a reference list. -/
structure ListPlace where
  /-- The row of the table of references. -/
  index : BitVec 5
  bottom : Bool
  valid : Bool
deriving DecidableEq, Repr

/-- The block of reference lists. -/
structure ListBlock where
  frameNumbers : List (BitVec 16)
  list0 : List ListPlace
  list1 : List ListPlace
deriving DecidableEq, Repr

namespace ListPlace

/-- A place that no present entry takes is zero. -/
def of (entry : Option ListEntry) : ListPlace :=
  match entry with
  | some entry =>
      if entry.present then ⟨BitVec.ofNat 5 entry.index, entry.bottom, true⟩ else ⟨0, false, false⟩
  | none => ⟨0, false, false⟩

def read : Action Reader ListPlace := do
  let index ← Reader.readBits 5
  let bottom ← Reader.readBit
  let valid ← Reader.readBit
  return ⟨index, bottom, valid⟩

theorem reads (entry : Option ListEntry) :
    Reader.Reads read (Writer.string (Blob.listEntryFields entry)) (of entry) := by
  have taken : ∀ (index : Nat) (bottom valid : Bool), Reader.Reads read
      (Writer.string [(BitVec.ofNat 64 index, 5), (Word.ofBool bottom, 1), (Word.ofBool valid, 1)])
      ⟨BitVec.ofNat 5 index, bottom, valid⟩ :=
    fun index bottom valid => .number (by decide) (.flag (.flag (.pure _)))
  have empty : Reader.Reads read (Writer.string [(0, 7)]) ⟨0, false, false⟩ := taken 0 false false
  cases entry with
  | none => exact empty
  | some entry =>
      cases present : entry.present with
      | false =>
          have absent : (some entry).filter (·.present) = none := by simp [Option.filter, present]
          simp only [of, Blob.listEntryFields, absent, present, Bool.false_eq_true, if_false]
          exact empty
      | true =>
          have there : (some entry).filter (·.present) = some entry := by
            simp [Option.filter, present]
          simp only [of, Blob.listEntryFields, there, present, if_true]
          exact taken entry.index entry.bottom true

end ListPlace

namespace ListBlock

/-- What there is to learn from the table of references and the two lists; an absent row counts as
zero, and a list is as if it had 32 entries. -/
def of (coded : CodedPicture) : ListBlock :=
  { frameNumbers := coded.picture.references.toList.map fun frame =>
      if frame.present then BitVec.ofNat 16 frame.frameNumber else 0
    list0 := (List.range 32).map fun place => .of coded.lists.list0[place]?
    list1 := (List.range 32).map fun place => .of coded.lists.list1[place]? }

def read : Action Reader ListBlock := do
  let frameNumbers ← Reader.readMany (Reader.readBits 16) 16
  let list0 ← Reader.readMany ListPlace.read 32
  let list1 ← Reader.readMany ListPlace.read 32
  return ⟨frameNumbers, list0, list1⟩

theorem frameNumbers_reads (picture : Picture) :
    Reader.Reads (Reader.readMany (Reader.readBits 16) 16)
      (Writer.string (Blob.frameNumberFields picture))
      (picture.references.toList.map fun frame =>
        if frame.present then BitVec.ofNat 16 frame.frameNumber else 0) := by
  have each : ∀ frame : ReferenceFrame, Reader.Reads (Reader.readBits 16)
      (Writer.string [(if frame.present then BitVec.ofNat 64 frame.frameNumber else 0, 16)])
      (if frame.present then BitVec.ofNat 16 frame.frameNumber else 0) := by
    intro frame
    have narrow : 16 ≤ 64 := by decide
    have cut := Reader.reads_field
      (if frame.present then BitVec.ofNat 64 frame.frameNumber else 0) narrow
    rw [Writer.string, List.flatMap_singleton]
    cases present : frame.present with
    | false => simpa [present] using cut
    | true => simpa [present, BitVec.setWidth_ofNat_of_le] using cut
  have many := Reader.Reads.many each picture.references.toList
  rw [Vector.length_toList] at many
  rw [Blob.frameNumberFields, List.map_eq_flatMap]
  exact many

theorem list_reads (list : List ListEntry) :
    Reader.Reads (Reader.readMany ListPlace.read 32) (Writer.string (Blob.listFields list))
      ((List.range 32).map fun place => .of list[place]?) := by
  have many := Reader.Reads.many (fun place => ListPlace.reads list[place]?) (List.range 32)
  rwa [List.length_range] at many

theorem reads (coded : CodedPicture) :
    Reader.Reads read
      (Writer.string (Blob.frameNumberFields coded.picture ++ Blob.listFields coded.lists.list0 ++
        Blob.listFields coded.lists.list1)) (of coded) := by
  rw [List.append_assoc, ← List.append_nil (Blob.listFields coded.lists.list1)]
  refine .record (frameNumbers_reads _) (.record (list_reads _) (.record (list_reads _) ?_))
  exact .pure _

end ListBlock

/-! ### The serialised lists -/

namespace Blob

/-- All fields of the serialised lists. -/
def allListFields (coded : CodedPicture) : List (Word × Nat) :=
  frameNumberFields coded.picture ++ listFields coded.lists.list0 ++ listFields coded.lists.list1

theorem sum_widths_flatMap {α : Type} {fields : α → List (Word × Nat)} {width : Nat}
    (each : ∀ item, ((fields item).map (·.2)).sum = width) (items : List α) :
    ((items.flatMap fields).map (·.2)).sum = items.length * width := by
  induction items with
  | nil => simp
  | cons item rest ih =>
      rw [List.flatMap_cons, List.map_append, List.sum_append, each, ih, List.length_cons,
        Nat.succ_mul, Nat.add_comm]

theorem widths_listEntry (entry : Option ListEntry) :
    ((listEntryFields entry).map (·.2)).sum = 7 := by
  unfold listEntryFields
  split <;> rfl

theorem narrow_listEntry (entry : Option ListEntry) :
    ∀ field ∈ listEntryFields entry, field.2 ≤ 64 := by
  unfold listEntryFields
  split <;> simp

theorem narrow_listFields (list : List ListEntry) : ∀ field ∈ listFields list, field.2 ≤ 64 := by
  intro field member
  obtain ⟨place, -, among⟩ := List.mem_flatMap.mp member
  exact narrow_listEntry _ field among

theorem widths_listFields (list : List ListEntry) : ((listFields list).map (·.2)).sum = 224 := by
  rw [listFields, sum_widths_flatMap (fun place => widths_listEntry list[place]?)]
  decide

theorem widths_frameNumbers (picture : Picture) :
    ((frameNumberFields picture).map (·.2)).sum = 256 := by
  have widths : (frameNumberFields picture).map (·.2) =
      picture.references.toList.map fun _ => 16 := List.map_map
  rw [widths, List.map_const', Vector.length_toList]
  decide

theorem narrow_allListFields (coded : CodedPicture) :
    ∀ field ∈ allListFields coded, field.2 ≤ 64 := by
  have numbers : ∀ field ∈ frameNumberFields coded.picture, field.2 ≤ 64 := by
    intro field member
    obtain ⟨frame, -, rfl⟩ := List.mem_map.mp member
    simp only
    decide
  refine List.forall_mem_append.mpr ⟨List.forall_mem_append.mpr ⟨numbers, ?_⟩, ?_⟩
  · exact narrow_listFields _
  · exact narrow_listFields _

theorem widths_allListFields (coded : CodedPicture) :
    ((allListFields coded).map (·.2)).sum = 704 := by
  rw [allListFields, List.map_append, List.map_append, List.sum_append, List.sum_append,
    widths_frameNumbers, widths_listFields, widths_listFields]

/-- The words of the serialised lists. -/
def listWords (coded : CodedPicture) : Array Word :=
  ((Writer.ofWords (Array.replicate 16 0)).putAll (allListFields coded)).words

theorem size_listWords (coded : CodedPicture) : (listWords coded).size = 16 :=
  (Writer.size_ofWords_putAll (narrow_allListFields coded)).trans Array.size_replicate

theorem referenceLists_eq (coded : CodedPicture) :
    referenceLists coded = Bytes.spread (listWords coded) (Bytes.zeros (8 * 16)) := by
  rw [referenceLists, Writer.words_align_zero]
  rfl

/-- A reader of the serialised lists finds the block, and zeros behind it. -/
theorem referenceLists_reads (coded : CodedPicture) :
    ∃ next, ListBlock.read (.ofWords (listWords coded)) = .ok (.of coded) next ∧
      next.ahead = List.replicate 320 false := by
  have fits : ((allListFields coded).map (·.2)).sum ≤ 64 * (Array.replicate 16 (0 : Word)).size := by
    rw [widths_allListFields, Array.size_replicate]
    decide
  have bits := Writer.toBits_ofWords_putAll (narrow_allListFields coded) fits
  rw [widths_allListFields, Array.size_replicate] at bits
  exact ListBlock.reads coded _ _ bits

/-- Entries behind the 32nd of a list do not matter. -/
theorem referenceLists_congr {coded other : CodedPicture} (picture : coded.picture = other.picture)
    (list0 : coded.lists.list0.take 32 = other.lists.list0.take 32)
    (list1 : coded.lists.list1.take 32 = other.lists.list1.take 32) :
    referenceLists coded = referenceLists other := by
  have same : ∀ {a b : List ListEntry}, a.take 32 = b.take 32 → listFields a = listFields b := by
    intro a b cut
    refine congrArg List.flatten (List.map_congr_left fun place member => ?_)
    have inside : place < 32 := List.mem_range.mp member
    rw [← List.getElem?_take_of_lt inside, cut, List.getElem?_take_of_lt inside]
  rw [referenceLists, referenceLists, picture, same list0, same list1]

end Blob

/-! ### The scaling matrices -/

namespace ScalingLists

theorem flatMap_toList {n m : Nat} (rows : Vector (Vector Byte n) m) :
    rows.toList.flatMap (·.toList) = rows.flatten.toList := by
  rw [Vector.toList, Vector.toList, Vector.flatten, Array.toList_flatten, Array.toList_map,
    List.map_map]
  rfl

theorem toBytes_eq (lists : ScalingLists) :
    lists.toBytes = (lists.small.flatten ++ lists.large.flatten).toArray := by
  rw [toBytes, flatMap_toList, flatMap_toList, Vector.toArray_append]
  apply Array.toList_inj.mp
  rw [Array.toList_append]
  rfl

/-- The 4x4 matrices come first. -/
theorem at0_small (lists : ScalingLists) {i k : Nat} (matrix : i < 6) (place : k < 16) :
    lists.toBytes.at0 (16 * i + k) = lists.small[i][k] := by
  have inside : 16 * i + k < 6 * 16 := by omega
  have row : (16 * i + k) / 16 = i := by omega
  have column : (16 * i + k) % 16 = k := by omega
  rw [Bytes.at0_eq, toBytes_eq, Vector.getElem?_toArray, Vector.getElem?_append_left inside,
    Vector.getElem?_eq_getElem inside, Option.getD_some, Vector.getElem_flatten]
  simp only [row, column]

/-- The 8x8 matrices follow. -/
theorem at0_large (lists : ScalingLists) {i k : Nat} (matrix : i < 6) (place : k < 64) :
    lists.toBytes.at0 (96 + 64 * i + k) = lists.large[i][k] := by
  have behind : 6 * 16 ≤ 96 + 64 * i + k := by omega
  have inside : 96 + 64 * i + k - 6 * 16 < 6 * 64 := by omega
  have row : (96 + 64 * i + k - 6 * 16) / 64 = i := by omega
  have column : (96 + 64 * i + k - 6 * 16) % 64 = k := by omega
  rw [Bytes.at0_eq, toBytes_eq, Vector.getElem?_toArray, Vector.getElem?_append_right behind,
    Vector.getElem?_eq_getElem inside, Option.getD_some, Vector.getElem_flatten]
  simp only [row, column]

/-- Flat matrices are 16 throughout. -/
theorem at0_flat {position : Nat} (inside : position < byteCount) :
    flat.toBytes.at0 position = 16 := by
  unfold byteCount at inside
  by_cases first : position < 96
  · have place : position = 16 * (position / 16) + position % 16 := by omega
    rw [place, at0_small flat (by omega) (Nat.mod_lt _ (by decide))]
    simp [flat]
  · have place : position = 96 + 64 * ((position - 96) / 64) + (position - 96) % 64 := by omega
    rw [place, at0_large flat (by omega) (Nat.mod_lt _ (by decide))]
    simp [flat]

end ScalingLists

end VideoAccel
