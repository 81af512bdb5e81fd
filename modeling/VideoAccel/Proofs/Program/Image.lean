import VideoAccel.Program.Build
import VideoAccel.Proofs.Memory.Scratch
import VideoAccel.Proofs.Register.Bits

/-!
The register image that building a task leaves behind.

`Job.assignment` lists every value a build stores, in order. A build that answers leaves the
assignment stored over the cleared file (`Draft.image`), so that what it does is known without
following its steps again. Whether a build answers or is refused, it changes only the transient
bits of the file (`Layout.Transient`: the cleared sections and the common fields that belong to a
task) and only those bytes of the scratch buffer that its own region covers.
-/

namespace VideoAccel

/-! ### Stored assignments -/

namespace Assignment

theorem store_append (first second : Assignment) (file : Bytes) :
    (first ++ second).store file = second.store (first.store file) :=
  List.foldl_append ..

/-- Values stored over two files leave the same file if the files agree on every bit that no
value covers. -/
theorem store_congr {assignment : Assignment} {a b : Bytes} (size : a.size = b.size)
    (lies : ∀ entry ∈ assignment, entry.1.lies b = true)
    (same : ∀ i, (∀ entry ∈ assignment, ¬ entry.1.Covers i) → a.bitAt i = b.bitAt i) :
    assignment.store a = assignment.store b := by
  induction assignment generalizing a b with
  | nil =>
      apply Bytes.ext_bitAt size
      intro i
      exact same i fun _ impossible => absurd impossible List.not_mem_nil
  | cons entry rest ih =>
      have sizes : (entry.1.set entry.2 a).size = (entry.1.set entry.2 b).size := by
        rw [Field.size_set, Field.size_set, size]
      have inside := lies entry List.mem_cons_self
      apply ih sizes
      · intro other member
        rw [Field.lies_congr (Field.size_set entry.1 entry.2 b)]
        exact lies other (List.mem_cons_of_mem _ member)
      intro i uncovered
      rw [Field.bitAt_set, Field.bitAt_set, Field.lies_congr size]
      by_cases covers : entry.1.Covers i
      · rw [if_pos ⟨inside, covers⟩, if_pos ⟨inside, covers⟩]
      · rw [if_neg fun both => covers both.2, if_neg fun both => covers both.2]
        apply same
        intro other member
        rcases List.mem_cons.mp member with rfl | later
        · exact covers
        · exact uncovered other later

/-- Storing values changes no bit that none of them covers. -/
theorem bitAt_store {assignment : Assignment} (file : Bytes) {i : Nat}
    (uncovered : ∀ entry ∈ assignment, ¬ entry.1.Covers i) :
    (assignment.store file).bitAt i = file.bitAt i := by
  induction assignment generalizing file with
  | nil => rfl
  | cons entry rest ih =>
      have here := uncovered entry List.mem_cons_self
      show (store rest (entry.1.set entry.2 file)).bitAt i = _
      rw [ih _ fun other member => uncovered other (List.mem_cons_of_mem _ member),
        Field.bitAt_set, if_neg fun both => here both.2]

/-- A register that is only ever stored as a whole holds one of the values stored in it, or what
it held before. -/
theorem get_word_store {P : BitVec 32 → Prop} {assignment : Assignment} {file : Bytes} {reg : Nat}
    (own : (Field.word reg).Addressable) (placed : ∀ entry ∈ assignment, entry.1.Addressable)
    (lies : (Field.word reg).lies file = true)
    (whole : ∀ entry ∈ assignment, entry.1.reg = reg → entry.1 = .word reg ∧ P entry.2)
    (before : P ((Field.word reg).get file)) : P ((Field.word reg).get (assignment.store file)) := by
  induction assignment generalizing file with
  | nil => exact before
  | cons entry rest ih =>
      have later := fun other member => whole other (List.mem_cons_of_mem _ member)
      obtain ⟨here', placed'⟩ := List.forall_mem_cons.mp placed
      show P ((Field.word reg).get (store rest (entry.1.set entry.2 file)))
      have inside : (Field.word reg).lies (entry.1.set entry.2 file) = true := by
        rwa [Field.lies_congr (Field.size_set entry.1 entry.2 file)]
      apply ih placed' inside later
      · by_cases here : entry.1.reg = reg
        · obtain ⟨same, holds⟩ := whole entry List.mem_cons_self here
          rw [same, Field.get_word_set lies]
          exact holds
        · rw [Field.get_set_of_apart (Field.apart_of_reg_ne own here' (Ne.symm here))]
          exact before

/-- A register for which only one value is stored holds that value. -/
theorem get_word_store_of_mem {assignment : Assignment} {file : Bytes} {reg : Nat}
    {value : BitVec 32} (placed : ∀ entry ∈ assignment, entry.1.Addressable)
    (lies : (Field.word reg).lies file = true)
    (member : (Field.word reg, value) ∈ assignment)
    (only : ∀ entry ∈ assignment, entry.1.reg = reg → entry.1 = .word reg ∧ entry.2 = value) :
    (Field.word reg).get (assignment.store file) = value := by
  obtain ⟨earlier, later, rfl⟩ := List.append_of_mem member
  have here : (Field.word reg).lies (store earlier file) = true := by
    rw [Field.lies_congr (size_store earlier file)]
    exact lies
  have there : (Field.word reg).lies ((Field.word reg).set value (store earlier file)) = true := by
    rw [Field.lies_congr (Field.size_set _ _ _)]
    exact here
  rw [store_append]
  exact @get_word_store (fun stored => stored = value) later _ reg (placed _ member)
    (fun entry after => placed entry (List.mem_append_right _ (List.mem_cons_of_mem _ after))) there
    (fun entry after => only entry (List.mem_append_right _ (List.mem_cons_of_mem _ after)))
    (Field.get_word_set here value)

end Assignment

/-! ### The bits that belong to a task -/

namespace Layout

/-- The sections that a build clears. -/
def cleared : List Section :=
  [codecParameters, commonAddresses, codecAddresses, interruptStatus, statistics]

/-- The common fields that every build stores anew. -/
def rewritten : List Field :=
  [streamLength, compressOutput, lumaStride, chromaStride, lumaSize, payloadOffset]

/-- The bit belongs to the task that a register file describes, and not to all of them. -/
def Transient (i : Nat) : Prop :=
  (∃ sec ∈ cleared, sec.Covers i) ∨ ∃ field ∈ rewritten, field.Covers i

/-- The field lies in a cleared section or is stored anew by every build. -/
def OfTask (field : Field) : Prop :=
  (∃ sec ∈ cleared, sec.contains field.reg = true) ∨ field ∈ rewritten

instance (field : Field) : Decidable (OfTask field) :=
  inferInstanceAs (Decidable (_ ∨ _))

/-- The address fields of the areas of scratch memory. -/
def scratchFields : List Field :=
  [parameterBase, listBase, scalingBase, entropyBase]

/-- The fields that every build stores once and that hold no handle of a line buffer, of a motion
vector buffer or of scratch memory. -/
def plain : List Field :=
  rewritten ++
    [topOrder, bottomOrder, referenceIsField, referenceTopUsed, referenceBottomUsed,
      referenceMotionUsed, isField, isBottomField, isAdaptive, isInstantRefresh, streamBase,
      outputBase, concealBase, errorInfoBase]

/-- The number of bytes in a register file. -/
def fileBytes : Nat :=
  registerCount * registerBytes

/-- The field's register is one of the file's. -/
theorem OfTask.reg_lt {field : Field} (ofTask : OfTask field) : field.reg < registerCount := by
  have sections : ∀ sec ∈ cleared, sec.first + sec.count ≤ registerCount := by decide
  have fields : ∀ field ∈ rewritten, field.reg < registerCount := by decide
  rcases ofTask with ⟨sec, member, contains⟩ | member
  · have last := sections sec member
    rw [Section.contains_iff] at contains
    omega
  · exact fields field member

theorem OfTask.addressable {field : Field} (ofTask : OfTask field) : field.Addressable :=
  Field.addressable_of_lt (Nat.lt_trans ofTask.reg_lt (by decide))

theorem OfTask.transient {field : Field} (ofTask : OfTask field) {i : Nat}
    (covers : field.Covers i) : Transient i := by
  have place := Field.byteOffset_eq ofTask.addressable
  rcases ofTask with ⟨sec, member, contains⟩ | member
  · refine .inl ⟨sec, member, ?_⟩
    have fits := field.fits
    rw [Section.contains_iff] at contains
    obtain ⟨low, high⟩ := covers
    unfold Field.firstBit at low high
    unfold Section.Covers
    omega
  · exact .inr ⟨field, member, covers⟩

theorem OfTask.lies {field : Field} (ofTask : OfTask field) {file : Bytes}
    (size : file.size = fileBytes) : field.lies file = true := by
  rw [Field.lies_iff, size, Field.byteOffset_eq ofTask.addressable]
  have low := ofTask.reg_lt
  have bytes : fileBytes = 4 * registerCount := rfl
  omega

end Layout

/-! ### What a build stores -/

namespace Job

/-- All pointers that a build stores and records, in order. -/
def pointers (job : Job) (scratch : Handle) : List (Field × BitVec 32 × Nat) :=
  job.lineBufferPointers ++ job.scratchPointers scratch

/-- All values that a build stores, in order. -/
def assignment (job : Job) (scratch : Handle) : Assignment :=
  [(Layout.streamLength, BitVec.ofNat 32 job.streamLength)] ++ job.geometry ++ job.pictureFields ++
    job.pictureAddresses ++ (job.pointers scratch).map (fun (field, value, _) => (field, value)) ++
    [(Layout.errorInfoBase, 0)] ++ job.referenceAddresses

/-- The line buffers have their own address registers, and every hardware reference slot is
filled. -/
structure Sound (job : Job) : Prop where
  lines : ∀ buffer ∈ job.lines.buffers, buffer.reg ∈ Layout.lineBufferRegisters
  references : job.references.slots.length = Layout.referenceCount

/-- The fields of the output geometry do not depend on the picture; their values do. -/
theorem geometry_eq (job : Job) : ∃ luma chroma size payload : BitVec 32,
    job.geometry = [(Layout.compressOutput, flagValue job.compressed), (Layout.lumaStride, luma),
      (Layout.chromaStride, chroma), (Layout.lumaSize, size), (Layout.payloadOffset, payload)] := by
  unfold geometry
  cases job.frame? job.outputSlot with
  | none => exact ⟨_, _, _, _, rfl⟩
  | some output =>
      by_cases compressed : job.compressed = true
      · simp only [compressed, if_true]
        exact ⟨_, _, _, _, rfl⟩
      · simp only [compressed]
        exact ⟨_, _, _, _, rfl⟩

/-- What a build can store: a picture address or plain value in one of the fields that every
picture has, an order count or address for each reference, or a handle. -/
inductive Stores (job : Job) (scratch : Handle) : Field × BitVec 32 → Prop where
  | plain {field : Field} (value : BitVec 32) (known : field ∈ Layout.plain) :
      Stores job scratch (field, value)
  | order {i : Nat} (bottom : Bool) (value : BitVec 32) (known : i < Layout.referenceCount) :
      Stores job scratch (Layout.referenceOrder i bottom, value)
  | reference {i : Nat} (value : BitVec 32) (known : i < Layout.referenceCount) :
      Stores job scratch (Layout.referenceBase i, value)
  | motion (slot : Nat) :
      Stores job scratch (Layout.motionBase, (job.motion.handle slot).registerValue)
  | referenceMotion {i : Nat} (slot : Nat) (known : i < Layout.referenceCount) :
      Stores job scratch (Layout.referenceMotionBase i, (job.motion.handle slot).registerValue)
  | lineBuffer {buffer : LineBuffer} (known : buffer ∈ job.lines.buffers) :
      Stores job scratch (.word buffer.reg, job.lines.handle.registerValue)
  | scratch {field : Field} (known : field ∈ Layout.scratchFields) :
      Stores job scratch (field, scratch.registerValue)

theorem index_lt_of_mem_zipIdx {job : Job} (sound : job.Sound) {reference : ResolvedReference}
    {i : Nat} (member : (reference, i) ∈ job.references.slots.zipIdx) :
    i < Layout.referenceCount := by
  have bound := List.snd_lt_of_mem_zipIdx member
  rwa [sound.references, Nat.add_zero] at bound

theorem stores_of_mem_geometry {job : Job} {scratch : Handle} {entry : Field × BitVec 32}
    (member : entry ∈ job.geometry) : job.Stores scratch entry := by
  obtain ⟨luma, chroma, size, payload, eq⟩ := job.geometry_eq
  have known : ∀ field ∈ [Layout.compressOutput, Layout.lumaStride, Layout.chromaStride,
      Layout.lumaSize, Layout.payloadOffset], field ∈ Layout.plain := by decide
  rw [eq] at member
  exact .plain entry.2 (known entry.1 (List.mem_map_of_mem (f := Prod.fst) member))

theorem stores_of_mem_pictureFields {job : Job} (sound : job.Sound) {scratch : Handle}
    {entry : Field × BitVec 32} (member : entry ∈ job.pictureFields) :
    job.Stores scratch entry := by
  simp only [pictureFields, List.mem_append, List.mem_flatMap] at member
  rcases member with (orders | ⟨⟨reference, i⟩, row, member⟩) | bitmaps
  · have known : ∀ field ∈ [Layout.topOrder, Layout.bottomOrder], field ∈ Layout.plain := by decide
    exact .plain entry.2 (known entry.1 (List.mem_map_of_mem (f := Prod.fst) orders))
  · have known := index_lt_of_mem_zipIdx sound row
    simp only [List.mem_cons, List.not_mem_nil, or_false] at member
    rcases member with rfl | rfl
    · exact .order false _ known
    · exact .order true _ known
  · have known : ∀ field ∈ [Layout.referenceIsField, Layout.referenceTopUsed,
        Layout.referenceBottomUsed, Layout.referenceMotionUsed, Layout.isField,
        Layout.isBottomField, Layout.isAdaptive, Layout.isInstantRefresh],
        field ∈ Layout.plain := by decide
    exact .plain entry.2 (known entry.1 (List.mem_map_of_mem (f := Prod.fst) bitmaps))

/-- A build stores nothing else. -/
theorem stores_of_mem {job : Job} (sound : job.Sound) {scratch : Handle}
    {entry : Field × BitVec 32} (member : entry ∈ job.assignment scratch) :
    job.Stores scratch entry := by
  simp only [assignment, List.mem_append] at member
  rcases member with
    (((((stream | geometry) | picture) | addresses) | pointers) | errorInfo) | references
  · rw [List.mem_singleton.mp stream]
    exact .plain _ (by decide)
  · exact stores_of_mem_geometry geometry
  · exact stores_of_mem_pictureFields sound picture
  · simp only [pictureAddresses, List.mem_cons, List.not_mem_nil, or_false] at addresses
    rcases addresses with rfl | rfl | rfl | rfl
    · exact .plain _ (by decide)
    · exact .plain _ (by decide)
    · exact .motion _
    · exact .plain _ (by decide)
  · simp only [Job.pointers, List.map_append, List.mem_append] at pointers
    rcases pointers with lines | areas
    · obtain ⟨pointer, member, rfl⟩ := List.mem_map.mp lines
      obtain ⟨buffer, used, rfl⟩ := List.mem_map.mp member
      exact .lineBuffer (List.mem_filter.mp used).1
    · simp only [scratchPointers, List.map_cons, List.map_nil, List.mem_cons, List.not_mem_nil,
        or_false] at areas
      rcases areas with rfl | rfl | rfl | rfl <;> exact .scratch (by decide)
  · rw [List.mem_singleton.mp errorInfo]
    exact .plain _ (by decide)
  · simp only [referenceAddresses, List.mem_flatMap] at references
    obtain ⟨⟨reference, i⟩, row, member⟩ := references
    have known := index_lt_of_mem_zipIdx sound row
    simp only [List.mem_cons, List.not_mem_nil, or_false] at member
    rcases member with rfl | rfl
    · exact .reference _ known
    · exact .referenceMotion _ known

/-- A build stores nothing but fields that belong to the task. -/
theorem Stores.ofTask {job : Job} (sound : job.Sound) {scratch : Handle}
    {entry : Field × BitVec 32} (stores : job.Stores scratch entry) : Layout.OfTask entry.1 := by
  cases stores with
  | plain value known =>
      have every : ∀ field ∈ Layout.plain, Layout.OfTask field := by decide
      exact every _ known
  | @order i bottom value known =>
      have small : i < 16 := known
      refine .inl ⟨Layout.codecParameters, by decide, Section.contains_iff.mpr ?_⟩
      show 64 ≤ 66 + 2 * i + bottom.toNat ∧ 66 + 2 * i + bottom.toNat < 64 + 48
      have bit := bottom.toNat_le
      omega
  | @reference i value known =>
      have small : i < 16 := known
      refine .inl ⟨Layout.codecAddresses, by decide, Section.contains_iff.mpr ?_⟩
      show 160 ≤ 165 + i ∧ 165 + i < 160 + 40
      omega
  | motion slot =>
      show Layout.OfTask Layout.motionBase
      decide
  | @referenceMotion i slot known =>
      have small : i < 16 := known
      refine .inl ⟨Layout.codecAddresses, by decide, Section.contains_iff.mpr ?_⟩
      show 160 ≤ 165 + 16 + i ∧ 165 + 16 + i < 160 + 40
      omega
  | lineBuffer known =>
      have every : ∀ reg ∈ Layout.lineBufferRegisters, Layout.OfTask (.word reg) := by decide
      exact every _ (sound.lines _ known)
  | scratch known =>
      have every : ∀ field ∈ Layout.scratchFields, Layout.OfTask field := by decide
      exact every _ known

theorem addressable_of_mem {job : Job} (sound : job.Sound) {scratch : Handle}
    {entry : Field × BitVec 32} (member : entry ∈ job.assignment scratch) :
    entry.1.Addressable :=
  ((stores_of_mem sound member).ofTask sound).addressable

end Job

end VideoAccel
