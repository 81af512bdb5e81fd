import Mathlib.Algebra.Ring.Int.Defs
import Mathlib.Data.List.Nodup
import VideoAccel.Proofs.Picture.References
import VideoAccel.Proofs.Program.Handles

/-!
How a built register file shows the references.

Every hardware reference slot has two order counts, two addresses and one bit in each of four bitmaps,
in registers that nothing else goes to. A build stores each of them once, so that after it every slot is
shown with the values it was filled with (`Job.shows_image`). The addresses are those of buffers if every
picture that is named has some (`Layout.ShowsReference.backed`).
-/

namespace VideoAccel

/-! ### Fields that are stored once -/

namespace Assignment

/-- A field whose register gets no other value has the bits of that value. -/
theorem getLsbD_get_store {assignment : Assignment} {file : Bytes} {field : Field}
    {value : BitVec 32} (placed : ∀ entry ∈ assignment, entry.1.Addressable)
    (lies : field.lies file = true) (member : (field, value) ∈ assignment)
    (only : ∀ entry ∈ assignment, entry.1.reg = field.reg → entry = (field, value)) {k : Nat}
    (small : k < field.width) :
    (field.get (assignment.store file)).getLsbD k = value.getLsbD k := by
  have covers : field.Covers (field.firstBit + k) := ⟨by omega, by omega⟩
  -- Whatever is stored after the value leaves it there or is the value itself.
  have stays : ∀ later : Assignment, (∀ entry ∈ later, entry ∈ assignment) → ∀ file : Bytes,
      field.lies file = true → file.bitAt (field.firstBit + k) = value.getLsbD k →
      (later.store file).bitAt (field.firstBit + k) = value.getLsbD k := by
    intro later within
    induction later with
    | nil => exact fun file _ there => there
    | cons entry rest ih =>
        intro file lies there
        have inside : field.lies (entry.1.set entry.2 file) = true := by
          rwa [Field.lies_congr (Field.size_set entry.1 entry.2 file)]
        refine ih (fun other member => within other (List.mem_cons_of_mem _ member)) _ inside ?_
        by_cases same : entry.1.reg = field.reg
        · rw [only entry (within entry List.mem_cons_self) same, Field.bitAt_set,
            if_pos ⟨lies, covers⟩, Nat.add_sub_cancel_left]
        · rw [Field.bitAt_set,
            if_neg fun both => Field.apart_of_reg_ne (placed _ (within entry List.mem_cons_self))
              (placed _ member) same _ both.2 covers]
          exact there
  obtain ⟨earlier, later, same⟩ := List.append_of_mem member
  have here : field.lies (store earlier file) = true := by
    rwa [Field.lies_congr (size_store earlier file)]
  have whole : field.lies (store assignment file) = true := by
    rwa [Field.lies_congr (size_store assignment file)]
  rw [Field.getLsbD_get, whole, decide_eq_true small, Bool.true_and, Bool.true_and]
  have split : store assignment file = store later (field.set value (store earlier file)) := by
    rw [same, store_append]
    rfl
  rw [split]
  apply stays later
  · intro entry after
    rw [same]
    exact List.mem_append_right _ (List.mem_cons_of_mem _ after)
  · rwa [Field.lies_congr (Field.size_set _ _ _)]
  · rw [Field.bitAt_set, if_pos ⟨here, covers⟩, Nat.add_sub_cancel_left]

end Assignment

/-- Bit `i` of a bitmap is the condition on reference slot `i`. -/
theorem ReferenceBlock.getLsbD_bitmap {block : ReferenceBlock} {i : Nat} (small : i < 32)
    {entry : ResolvedReference} (there : block.slots[i]? = some entry)
    (condition : ResolvedReference → Bool) :
    (block.bitmap condition).getLsbD i = condition entry := by
  unfold bitmap
  rw [BitVec.getLsbD_setWidth, decide_eq_true small, Bool.true_and, BitVec.getLsbD_ofBoolListLE,
    List.getD_eq_getElem?_getD, List.getElem?_map, there]
  rfl

/-- The registers of a file show reference slot `i` as it was filled: the order counts, the addresses
of the picture and of its motion vectors, and the bits of the four bitmaps. An unknown picture has
address zero. -/
structure Layout.ShowsReference (frame? : Nat → Option FrameBuffer) (motion : MotionPool)
    (file : Bytes) (i : Nat) (entry : ResolvedReference) : Prop where
  picture : (referenceBase i).get file =
    ((frame? entry.slot).map (·.handle.registerValue)).getD 0
  motion : (referenceMotionBase i).get file = (motion.handle entry.slot).registerValue
  topOrder : (referenceOrder i false).get file = BitVec.ofInt 32 entry.topOrder
  bottomOrder : (referenceOrder i true).get file = BitVec.ofInt 32 entry.bottomOrder
  isField : (referenceIsField.get file).getLsbD i = entry.isField
  topUsed : (referenceTopUsed.get file).getLsbD i = entry.topUsed
  bottomUsed : (referenceBottomUsed.get file).getLsbD i = entry.bottomUsed
  motionUsed : (referenceMotionUsed.get file).getLsbD i = entry.motionUsed

/-- The fields of the output geometry. -/
def Layout.geometryFields : List Field :=
  [compressOutput, lumaStride, chromaStride, lumaSize, payloadOffset]

/-- The fields that a build stores once, besides those of the output geometry and of the references. -/
def Layout.single : List Field :=
  [streamLength, topOrder, bottomOrder, isField, isBottomField, isAdaptive, isInstantRefresh,
    streamBase, outputBase, motionBase, concealBase, errorInfoBase] ++ scratchFields

/-- The registers that describe the reference slots, in the order in which they are stored. -/
def Layout.referenceRegisters : List Nat :=
  ((List.range' 0 referenceCount).flatMap fun i =>
      [(referenceOrder i false).reg, (referenceOrder i true).reg]) ++
    [referenceIsField.reg, referenceTopUsed.reg, referenceBottomUsed.reg,
      referenceMotionUsed.reg] ++
    (List.range' 0 referenceCount).flatMap fun i =>
      [(referenceBase i).reg, (referenceMotionBase i).reg]

namespace Job

variable {job : Job} {scratch : Handle} {entry : Field × BitVec 32}

/-- The order counts of a reference slot. -/
def orderRow : ResolvedReference × Nat → Assignment := fun (reference, i) =>
  [(Layout.referenceOrder i false, BitVec.ofInt 32 reference.topOrder),
    (Layout.referenceOrder i true, BitVec.ofInt 32 reference.bottomOrder)]

/-- The addresses of a reference slot. -/
def addressRow (job : Job) : ResolvedReference × Nat → Assignment := fun (reference, i) =>
  [(Layout.referenceBase i, job.frameValue reference.slot),
    (Layout.referenceMotionBase i, (job.motion.handle reference.slot).registerValue)]

/-- The bitmaps of the reference slots. -/
def referenceBitmaps (job : Job) : Assignment :=
  [(Layout.referenceIsField, job.references.fieldBitmap),
    (Layout.referenceTopUsed, job.references.topBitmap),
    (Layout.referenceBottomUsed, job.references.bottomBitmap),
    (Layout.referenceMotionUsed, job.references.motionBitmap)]

/-- All that a build stores to describe the reference slots. -/
def referenceFields (job : Job) : Assignment :=
  job.references.slots.zipIdx.flatMap orderRow ++ job.referenceBitmaps ++
    job.references.slots.zipIdx.flatMap job.addressRow

/-- What else a build stores to describe the current picture. -/
def pictureFlags (job : Job) : Assignment :=
  let picture := job.coded.picture
  [(Layout.isField, flagValue picture.isField),
    (Layout.isBottomField, flagValue (picture.isField && picture.isBottomField)),
    (Layout.isAdaptive, flagValue picture.isAdaptive),
    (Layout.isInstantRefresh, flagValue picture.isInstantRefresh)]

theorem pictureFields_eq (job : Job) : job.pictureFields =
    [(Layout.topOrder, BitVec.ofInt 32 job.coded.picture.topOrder),
      (Layout.bottomOrder, BitVec.ofInt 32 job.coded.picture.bottomOrder)] ++
    job.references.slots.zipIdx.flatMap orderRow ++ (job.referenceBitmaps ++ job.pictureFlags) := rfl

theorem referenceAddresses_eq (job : Job) :
    job.referenceAddresses = job.references.slots.zipIdx.flatMap job.addressRow := rfl

/-- What is stored row by row goes to the registers of the rows. -/
theorem map_reg_rows {slots : List ResolvedReference} {count : Nat} (length : slots.length = count)
    (row : ResolvedReference × Nat → Assignment) (registers : Nat → List Nat)
    (same : ∀ reference i, (row (reference, i)).map (·.1.reg) = registers i) :
    (slots.zipIdx.flatMap row).map (·.1.reg) = (List.range' 0 count).flatMap registers := by
  have rows : (fun pair => (row pair).map (·.1.reg)) = fun pair => registers pair.2 :=
    funext fun pair => same pair.1 pair.2
  rw [List.map_flatMap, rows, ← length, ← List.zipIdx_map_snd 0 slots, List.flatMap_map]

theorem map_reg_referenceFields (sound : job.Sound) :
    job.referenceFields.map (·.1.reg) = Layout.referenceRegisters := by
  have orders := map_reg_rows sound.references orderRow
    (fun i => [(Layout.referenceOrder i false).reg, (Layout.referenceOrder i true).reg])
    fun _ _ => rfl
  have addresses := map_reg_rows sound.references job.addressRow
    (fun i => [(Layout.referenceBase i).reg, (Layout.referenceMotionBase i).reg])
    fun _ _ => rfl
  rw [referenceFields, List.map_append, List.map_append, orders, addresses]
  rfl

/-- What else a build stores goes to the registers of the output geometry, to those of the line buffers
or to one of the fields that are stored once. -/
theorem mem_assignment_cases (sound : job.Sound) (member : entry ∈ job.assignment scratch) :
    entry ∈ job.geometry ∨ entry ∈ job.referenceFields ∨
      entry.1.reg ∈ Layout.lineBufferRegisters ∨ entry.1 ∈ Layout.single := by
  have once : ∀ fields : List Field, entry.1 ∈ fields → (∀ field ∈ fields, field ∈ Layout.single) →
      entry ∈ job.geometry ∨ entry ∈ job.referenceFields ∨
        entry.1.reg ∈ Layout.lineBufferRegisters ∨ entry.1 ∈ Layout.single :=
    fun fields among every => .inr (.inr (.inr (every entry.1 among)))
  simp only [assignment, pictureFields_eq, pointers, List.map_append, List.mem_append] at member
  rcases member with
    (((((stream | geometry) | ((orders | rows) | bitmaps | flags)) | addresses) |
      (lines | areas)) | errorInfo) | references
  · exact once [Layout.streamLength] (List.mem_map_of_mem (f := Prod.fst) stream) (by decide)
  · exact .inl geometry
  · exact once [Layout.topOrder, Layout.bottomOrder]
      (List.mem_map_of_mem (f := Prod.fst) orders) (by decide)
  · exact .inr (.inl (List.mem_append_left _ (List.mem_append_left _ rows)))
  · exact .inr (.inl (List.mem_append_left _ (List.mem_append_right _ bitmaps)))
  · exact once [Layout.isField, Layout.isBottomField, Layout.isAdaptive,
      Layout.isInstantRefresh] (List.mem_map_of_mem (f := Prod.fst) flags) (by decide)
  · exact once [Layout.streamBase, Layout.outputBase, Layout.motionBase, Layout.concealBase]
      (List.mem_map_of_mem (f := Prod.fst) addresses) (by decide)
  · obtain ⟨pointer, among, rfl⟩ := List.mem_map.mp lines
    obtain ⟨buffer, used, rfl⟩ := List.mem_map.mp among
    exact .inr (.inr (.inl (sound.lines buffer (List.mem_filter.mp used).1)))
  · exact once Layout.scratchFields (List.mem_map_of_mem (f := Prod.fst) areas) (by decide)
  · exact once [Layout.errorInfoBase] (List.mem_map_of_mem (f := Prod.fst) errorInfo) (by decide)
  · exact .inr (.inl (List.mem_append_right _ references))

/-- The values of the output geometry go to its own fields. -/
theorem mem_geometryFields (member : entry ∈ job.geometry) : entry.1 ∈ Layout.geometryFields := by
  obtain ⟨luma, chroma, size, payload, eq⟩ := job.geometry_eq
  rw [eq] at member
  exact List.mem_map_of_mem (f := Prod.fst) member

/-- Nothing else that a build stores goes to one of these registers. -/
theorem mem_referenceFields_of_mem (sound : job.Sound) (member : entry ∈ job.assignment scratch)
    (own : entry.1.reg ∈ Layout.referenceRegisters) : entry ∈ job.referenceFields := by
  rcases mem_assignment_cases sound member with geometry | references | lines | once
  · have apart : ∀ field ∈ Layout.geometryFields, field.reg ∉ Layout.referenceRegisters := by decide
    exact absurd own (apart _ (mem_geometryFields geometry))
  · exact references
  · have apart : ∀ reg ∈ Layout.lineBufferRegisters, reg ∉ Layout.referenceRegisters := by decide
    exact absurd own (apart _ lines)
  · have apart : ∀ field ∈ Layout.single, field.reg ∉ Layout.referenceRegisters := by decide
    exact absurd own (apart _ once)

theorem mem_of_mem_referenceFields (member : entry ∈ job.referenceFields) (scratch : Handle) :
    entry ∈ job.assignment scratch := by
  simp only [assignment, pictureFields_eq, referenceAddresses_eq, List.mem_append]
  simp only [referenceFields, List.mem_append] at member
  rcases member with (orders | bitmaps) | addresses
  · exact .inl (.inl (.inl (.inl (.inr (.inl (.inr orders))))))
  · exact .inl (.inl (.inl (.inl (.inr (.inr (.inl bitmaps))))))
  · exact .inr addresses

/-- After a build a field whose register got no other value has the bits of the value stored. -/
theorem getLsbD_get_image_of_only (sound : job.Sound) {draft : Draft}
    (full : draft.file.size = Layout.fileBytes) {field : Field} {value : BitVec 32}
    (stored : (field, value) ∈ job.assignment draft.scratch.handle)
    (only : ∀ entry ∈ job.assignment draft.scratch.handle,
      entry.1.reg = field.reg → entry = (field, value)) {k : Nat} (small : k < field.width) :
    (field.get (Draft.image job draft)).getLsbD k = value.getLsbD k := by
  have lies : field.lies (Draft.clearedFile draft.file) = true := by
    apply ((stores_of_mem sound stored).ofTask sound).lies
    rw [Draft.size_clearedFile, full]
  exact Assignment.getLsbD_get_store (fun _ => addressable_of_mem sound) lies stored only small

/-- After a build a field that describes the reference slots has the bits of the value stored. -/
theorem getLsbD_get_image (sound : job.Sound) {draft : Draft}
    (full : draft.file.size = Layout.fileBytes) {field : Field} {value : BitVec 32}
    (member : (field, value) ∈ job.referenceFields) {k : Nat} (small : k < field.width) :
    (field.get (Draft.image job draft)).getLsbD k = value.getLsbD k := by
  have stored := mem_of_mem_referenceFields member draft.scratch.handle
  have registers := map_reg_referenceFields sound
  have distinct : (job.referenceFields.map (·.1.reg)).Nodup := by
    rw [registers]
    decide
  refine getLsbD_get_image_of_only sound full stored (fun entry among same => ?_) small
  have own : entry.1.reg ∈ Layout.referenceRegisters := by
    rw [same, ← registers]
    exact List.mem_map_of_mem member
  exact List.inj_on_of_nodup_map distinct (mem_referenceFields_of_mem sound among own) member same

/-- A whole register then has the value stored. -/
theorem get_word_image_of_mem (sound : job.Sound) {draft : Draft}
    (full : draft.file.size = Layout.fileBytes) {reg : Nat} {value : BitVec 32}
    (member : (Field.word reg, value) ∈ job.referenceFields) :
    (Field.word reg).get (Draft.image job draft) = value :=
  BitVec.eq_of_getLsbD_eq fun _ small => getLsbD_get_image sound full member small

/-- A build shows every reference slot as it was filled. -/
theorem shows_image (sound : job.Sound) {draft : Draft}
    (full : draft.file.size = Layout.fileBytes) {i : Nat} {reference : ResolvedReference}
    (there : job.references.slots[i]? = some reference) :
    Layout.ShowsReference job.frame? job.motion (Draft.image job draft) i reference := by
  have row : (reference, i) ∈ job.references.slots.zipIdx := List.mem_zipIdx_iff_getElem?.mpr there
  have small : i < 16 := index_lt_of_mem_zipIdx sound row
  have order : ∀ entry ∈ orderRow (reference, i), entry ∈ job.referenceFields := fun entry among =>
    List.mem_append_left _ (List.mem_append_left _ (List.mem_flatMap.mpr ⟨_, row, among⟩))
  have address : ∀ entry ∈ job.addressRow (reference, i), entry ∈ job.referenceFields :=
    fun entry among => List.mem_append_right _ (List.mem_flatMap.mpr ⟨_, row, among⟩)
  have flag : ∀ (field : Field) (condition : ResolvedReference → Bool),
      (field, job.references.bitmap condition) ∈ job.referenceBitmaps → i < field.width →
      (field.get (Draft.image job draft)).getLsbD i = condition reference := by
    intro field condition among within
    rw [getLsbD_get_image sound full
      (List.mem_append_left _ (List.mem_append_right _ among)) within]
    exact ReferenceBlock.getLsbD_bitmap (by omega) there condition
  exact
    { picture := get_word_image_of_mem sound full (address _ (.head _))
      motion := get_word_image_of_mem sound full (address _ (.tail _ (.head _)))
      topOrder := get_word_image_of_mem sound full (order _ (.head _))
      bottomOrder := get_word_image_of_mem sound full (order _ (.tail _ (.head _)))
      isField := flag Layout.referenceIsField (·.isField) (.head _) small
      topUsed := flag Layout.referenceTopUsed (·.topUsed) (.tail _ (.head _)) small
      bottomUsed := flag Layout.referenceBottomUsed (·.bottomUsed) (.tail _ (.tail _ (.head _))) small
      motionUsed := flag Layout.referenceMotionUsed (·.motionUsed)
        (.tail _ (.tail _ (.tail _ (.head _)))) small }

end Job

/-! ### Reading the registers back -/

namespace Handle

/-- A handle that names a buffer in an address register: a positive number of 31 bits. -/
def Proper (handle : Handle) : Prop :=
  0 < handle.value ∧ handle.value < 2 ^ 31

theorem Proper.toInt_registerValue {handle : Handle} (proper : handle.Proper) :
    handle.registerValue.toInt = handle.value := by
  have valid : handle.isValid = true := decide_eq_true (Int.le_of_lt proper.1)
  rw [registerValue, if_pos valid, BitVec.toInt_ofInt_eq_self (by decide)
    (Int.le_trans (by decide) (Int.le_of_lt proper.1)) proper.2]

theorem Proper.registerValue_ne_zero {handle : Handle} (proper : handle.Proper) :
    handle.registerValue ≠ 0 := by
  intro zero
  have value := proper.toInt_registerValue
  rw [zero] at value
  exact absurd proper.1 (value ▸ Int.lt_irrefl 0)

end Handle

/-- All pictures that a picture names have a buffer in the picture store and one for their motion
vectors. -/
structure Picture.Backed (picture : Picture) (frame? : Nat → Option FrameBuffer)
    (motion : MotionPool) : Prop where
  known : ∀ slot, picture.Names slot → ∃ buffer, frame? slot = some buffer ∧ buffer.handle.Proper
  motion : ∀ slot, picture.Names slot → (motion.handle slot).Proper

/-- The order counts of all present rows have 32 bits. -/
def Picture.Ordered (picture : Picture) : Prop :=
  ∀ index frame, picture.reference? index = some frame →
    (-2 ^ 31 ≤ frame.topOrder ∧ frame.topOrder < 2 ^ 31) ∧
      (-2 ^ 31 ≤ frame.bottomOrder ∧ frame.bottomOrder < 2 ^ 31)

/-- The address registers of reference slot `i` name the buffers of its picture; they are not zero. -/
structure Layout.NamesBuffers (frame? : Nat → Option FrameBuffer) (motion : MotionPool)
    (file : Bytes) (i : Nat) (entry : ResolvedReference) : Prop where
  picture : ∃ buffer, frame? entry.slot = some buffer ∧ (referenceBase i).get file ≠ 0 ∧
    ((referenceBase i).get file).toInt = buffer.handle.value
  motion : (referenceMotionBase i).get file ≠ 0 ∧
    ((referenceMotionBase i).get file).toInt = (motion.handle entry.slot).value

namespace Layout.ShowsReference

variable {picture : Picture} {frame? : Nat → Option FrameBuffer} {motion : MotionPool}
  {file : Bytes} {start i : Nat} {entry : ResolvedReference}

theorem backed (shows : ShowsReference frame? motion file i entry)
    (fills : picture.Fills picture.slot start i entry) (backed : picture.Backed frame? motion) :
    NamesBuffers frame? motion file i entry := by
  obtain ⟨buffer, found, proper⟩ := backed.known _ fills.names
  have vectors := backed.motion _ fills.names
  have base := shows.picture
  rw [found, Option.map_some, Option.getD_some] at base
  refine ⟨⟨buffer, found, ?_⟩, ?_⟩
  · rw [base]
    exact ⟨proper.registerValue_ne_zero, proper.toInt_registerValue⟩
  · rw [shows.motion]
    exact ⟨vectors.registerValue_ne_zero, vectors.toInt_registerValue⟩

/-- The order counts are read back as signed numbers. -/
theorem ordered (shows : ShowsReference frame? motion file i entry)
    (fills : picture.Fills picture.slot start i entry) (ordered : picture.Ordered) :
    ((referenceOrder i false).get file).toInt = entry.topOrder ∧
      ((referenceOrder i true).get file).toInt = entry.bottomOrder := by
  rw [shows.topOrder, shows.bottomOrder]
  cases fills with
  | row found present =>
      obtain ⟨top, bottom⟩ := ordered i _ (Picture.reference?_eq_some_iff.mpr ⟨found, present⟩)
      exact ⟨BitVec.toInt_ofInt_eq_self (by decide) top.1 top.2,
        BitVec.toInt_ofInt_eq_self (by decide) bottom.1 bottom.2⟩
  | standIn absent nearest => exact ⟨rfl, rfl⟩

end Layout.ShowsReference

end VideoAccel
