import VideoAccel.Proofs.Program.Build

/-!
The handles that a built register file holds.

The address registers of line buffers, of areas of scratch memory and of motion vector buffers are
cleared by every build and then hold nothing but handles: zero, or the handle of the line buffers,
of the scratch buffer or of a motion vector buffer that the build was given.
-/

namespace VideoAccel

namespace Layout

/-- The address fields of motion vector buffers. -/
def motionFields : List Field :=
  motionBase :: (List.range referenceCount).map referenceMotionBase

theorem mem_lineBufferRegisters {reg : Nat} (member : reg ∈ lineBufferRegisters) :
    132 ≤ reg ∧ reg ≤ 140 := by
  obtain ⟨i, inside, rfl⟩ := List.mem_map.mp member
  have small : i < 9 := List.mem_range.mp inside
  omega

end Layout

namespace Handle

theorem registerValue_none : Handle.none.registerValue = 0 :=
  registerValue_of_not_isValid rfl

end Handle

namespace MotionPool

/-- A handle of the pool that is written to a register is that of one of its buffers. -/
theorem mem_of_registerValue_ne_zero {pool : MotionPool} {slot : Nat}
    (written : (pool.handle slot).registerValue ≠ 0) :
    ∃ buffer ∈ pool.buffers, pool.handle slot = buffer.handle := by
  unfold handle at written ⊢
  cases found : pool.buffers[slot]? with
  | none =>
      rw [found] at written
      exact absurd Handle.registerValue_none written
  | some buffer => exact ⟨buffer, List.mem_of_getElem? found, rfl⟩

end MotionPool

namespace Job

variable {job : Job} {scratch : Handle} {entry : Field × BitVec 32}

/-- The registers of the fields that hold no handle of a shared buffer. -/
theorem reg_of_mem_plain {field : Field} (member : field ∈ Layout.plain) :
    field.reg < 130 ∨ field.reg = 131 ∨ field.reg = 164 := by
  have every : ∀ field ∈ Layout.plain, field.reg < 130 ∨ field.reg = 131 ∨ field.reg = 164 := by
    decide
  exact every field member

theorem reg_of_mem_scratchFields {field : Field} (member : field ∈ Layout.scratchFields) :
    160 ≤ field.reg ∧ field.reg ≤ 163 ∧ field = .word field.reg := by
  have every : ∀ field ∈ Layout.scratchFields,
      160 ≤ field.reg ∧ field.reg ≤ 163 ∧ field = .word field.reg := by
    decide
  exact every field member

/-- The register a value goes to tells what it is. Registers of motion vector buffers, of line
buffers and of areas of scratch memory are stored as a whole, with handles. -/
theorem Stores.places (sound : job.Sound) (stores : job.Stores scratch entry) :
    (entry.1.reg < 130 ∨ entry.1.reg = 131 ∨ (164 ≤ entry.1.reg ∧ entry.1.reg ≤ 180)) ∨
    entry.1 = .word entry.1.reg ∧
      ((entry.1.reg = 130 ∨ (181 ≤ entry.1.reg ∧ entry.1.reg ≤ 196)) ∧
          (∃ slot, entry.2 = (job.motion.handle slot).registerValue) ∨
        (132 ≤ entry.1.reg ∧ entry.1.reg ≤ 140) ∧ entry.2 = job.lines.handle.registerValue ∨
        (160 ≤ entry.1.reg ∧ entry.1.reg ≤ 163) ∧ entry.2 = scratch.registerValue) := by
  cases stores with
  | plain value known =>
      have apart := reg_of_mem_plain known
      left
      simp only
      omega
  | @order i bottom value known =>
      have small : i < 16 := known
      have bit := bottom.toNat_le
      have reg : (Layout.referenceOrder i bottom).reg = 66 + 2 * i + bottom.toNat := rfl
      left
      simp only [reg]
      omega
  | @reference i value known =>
      have small : i < 16 := known
      have reg : (Layout.referenceBase i).reg = 165 + i := rfl
      left
      simp only [reg]
      omega
  | motion slot => exact .inr ⟨rfl, .inl ⟨.inl rfl, slot, rfl⟩⟩
  | @referenceMotion i slot known =>
      have small : i < 16 := known
      have reg : (Layout.referenceMotionBase i).reg = 165 + 16 + i := rfl
      refine .inr ⟨rfl, .inl ⟨?_, slot, rfl⟩⟩
      simp only [reg]
      omega
  | lineBuffer known =>
      exact .inr ⟨rfl, .inr (.inl ⟨Layout.mem_lineBufferRegisters (sound.lines _ known), rfl⟩)⟩
  | scratch known =>
      obtain ⟨low, high, whole⟩ := reg_of_mem_scratchFields known
      exact .inr ⟨whole, .inr (.inr ⟨⟨low, high⟩, rfl⟩)⟩

/-- A register in a cleared section reads zero. -/
theorem get_word_clearedFile {reg : Nat}
    (inside : ∃ sec ∈ Layout.cleared, sec.contains reg = true) (file : Bytes) :
    (Field.word reg).get (Draft.clearedFile file) = 0 := by
  have ofTask : Layout.OfTask (.word reg) := .inl inside
  have place : (Field.word reg).byteOffset = 4 * reg := Field.byteOffset_eq ofTask.addressable
  obtain ⟨sec, member, contains⟩ := inside
  rw [Section.contains_iff] at contains
  apply BitVec.eq_of_getLsbD_eq
  intro k small
  have start : (Field.word reg).firstBit = 8 * (Field.word reg).byteOffset + 0 := rfl
  have covered : ∃ sec ∈ Layout.cleared, sec.Covers ((Field.word reg).firstBit + k) := by
    refine ⟨sec, member, ?_⟩
    unfold Section.Covers
    omega
  rw [Field.getLsbD_get, Draft.bitAt_clearedFile, decide_eq_true covered]
  simp

/-- A register that every build clears and that is only ever stored as a whole holds one of the
values that a build stores in it, or zero. -/
theorem get_word_image (sound : job.Sound) {draft : Draft}
    (full : draft.file.size = Layout.fileBytes) {reg : Nat}
    (inside : ∃ sec ∈ Layout.cleared, sec.contains reg = true) {P : BitVec 32 → Prop} (zero : P 0)
    (stored : ∀ entry, job.Stores draft.scratch.handle entry → entry.1.reg = reg →
      entry.1 = .word reg ∧ P entry.2) :
    P ((Field.word reg).get (Draft.image job draft)) := by
  have ofTask : Layout.OfTask (.word reg) := .inl inside
  have lies : (Field.word reg).lies (Draft.clearedFile draft.file) = true := by
    apply ofTask.lies
    rw [Draft.size_clearedFile, full]
  apply Assignment.get_word_store ofTask.addressable (fun _ => addressable_of_mem sound) lies
  · exact fun entry member => stored entry (stores_of_mem sound member)
  · rw [get_word_clearedFile inside]
    exact zero

/-- What the address registers of line buffers hold after a build. -/
theorem get_lineBuffer_image (sound : job.Sound) {draft : Draft}
    (full : draft.file.size = Layout.fileBytes) {reg : Nat}
    (known : reg ∈ Layout.lineBufferRegisters)
    (written : (Field.word reg).get (Draft.image job draft) ≠ 0) :
    (Field.word reg).get (Draft.image job draft) = job.lines.handle.registerValue := by
  have inside : ∀ reg ∈ Layout.lineBufferRegisters,
      ∃ sec ∈ Layout.cleared, sec.contains reg = true := by decide
  refine (get_word_image sound full (inside reg known)
    (P := fun value => value = 0 ∨ value = job.lines.handle.registerValue) (.inl rfl)
    ?_).resolve_left written
  rintro entry stores rfl
  have range := Layout.mem_lineBufferRegisters known
  rcases stores.places sound with other | ⟨whole, ⟨other, -⟩ | ⟨-, value⟩ | ⟨other, -⟩⟩
  · omega
  · omega
  · exact ⟨whole, .inr value⟩
  · omega

/-- What the address registers of scratch memory hold after a build. -/
theorem get_scratch_image (sound : job.Sound) {draft : Draft}
    (full : draft.file.size = Layout.fileBytes) {field : Field}
    (known : field ∈ Layout.scratchFields) (written : field.get (Draft.image job draft) ≠ 0) :
    field.get (Draft.image job draft) = draft.scratch.handle.registerValue := by
  have inside : ∀ field ∈ Layout.scratchFields,
      ∃ sec ∈ Layout.cleared, sec.contains field.reg = true := by decide
  obtain ⟨low, high, word⟩ := reg_of_mem_scratchFields known
  rw [word] at written ⊢
  refine (get_word_image sound full (inside field known)
    (P := fun value => value = 0 ∨ value = draft.scratch.handle.registerValue) (.inl rfl)
    ?_).resolve_left written
  intro entry stores same
  rw [← same] at low high ⊢
  rcases stores.places sound with other | ⟨whole, ⟨other, -⟩ | ⟨other, -⟩ | ⟨-, value⟩⟩
  · omega
  · omega
  · omega
  · exact ⟨whole, .inr value⟩

/-- The address register of a line buffer that is in use names the buffer behind all line
buffers. -/
theorem get_lineBuffer_image_of_mem (sound : job.Sound) {draft : Draft}
    (full : draft.file.size = Layout.fileBytes) {buffer : LineBuffer}
    (member : buffer ∈ job.lines.buffers) (used : buffer.size ≠ 0) :
    (Field.word buffer.reg).get (Draft.image job draft) = job.lines.handle.registerValue := by
  have known := sound.lines buffer member
  have inside : ∀ reg ∈ Layout.lineBufferRegisters,
      ∃ sec ∈ Layout.cleared, sec.contains reg = true := by decide
  have lies : (Field.word buffer.reg).lies (Draft.clearedFile draft.file) = true := by
    apply Layout.OfTask.lies (.inl (inside buffer.reg known))
    rw [Draft.size_clearedFile, full]
  have stored : (Field.word buffer.reg, job.lines.handle.registerValue) ∈
      job.assignment draft.scratch.handle := by
    have pointer : (Field.word buffer.reg, job.lines.handle.registerValue, buffer.offset) ∈
        job.lineBufferPointers :=
      List.mem_map.mpr ⟨buffer, List.mem_filter.mpr ⟨member, decide_eq_true used⟩, rfl⟩
    have either := List.mem_append_left (job.scratchPointers draft.scratch.handle) pointer
    simp only [assignment, List.mem_append]
    exact .inl (.inl (.inr (List.mem_map.mpr ⟨_, either, rfl⟩)))
  refine Assignment.get_word_store_of_mem (fun _ => addressable_of_mem sound) lies stored ?_
  intro entry entered same
  have range := Layout.mem_lineBufferRegisters known
  have stores := stores_of_mem sound entered
  rw [← same] at range ⊢
  rcases stores.places sound with other | ⟨whole, ⟨other, -⟩ | ⟨-, value⟩ | ⟨other, -⟩⟩
  · omega
  · omega
  · exact ⟨whole, value⟩
  · omega

theorem reg_of_mem_motionFields {field : Field} (member : field ∈ Layout.motionFields) :
    field = .word field.reg ∧ (field.reg = 130 ∨ (181 ≤ field.reg ∧ field.reg ≤ 196)) := by
  rcases List.mem_cons.mp member with rfl | reference
  · exact ⟨rfl, .inl rfl⟩
  · obtain ⟨i, inside, rfl⟩ := List.mem_map.mp reference
    have small : i < 16 := List.mem_range.mp inside
    have reg : (Layout.referenceMotionBase i).reg = 165 + 16 + i := rfl
    refine ⟨rfl, .inr ?_⟩
    omega

/-- What the address registers of motion vector buffers hold after a build. -/
theorem get_motion_image (sound : job.Sound) {draft : Draft}
    (full : draft.file.size = Layout.fileBytes) {field : Field}
    (known : field ∈ Layout.motionFields) (written : field.get (Draft.image job draft) ≠ 0) :
    ∃ buffer ∈ job.motion.buffers,
      field.get (Draft.image job draft) = buffer.handle.registerValue := by
  have inside : ∀ field ∈ Layout.motionFields,
      ∃ sec ∈ Layout.cleared, sec.contains field.reg = true := by decide
  obtain ⟨word, range⟩ := reg_of_mem_motionFields known
  rw [word] at written ⊢
  obtain ⟨slot, value⟩ := (get_word_image sound full (inside field known)
    (P := fun value => value = 0 ∨ ∃ slot, value = (job.motion.handle slot).registerValue)
    (.inl rfl) (by
      intro entry stores same
      rw [← same] at range ⊢
      rcases stores.places sound with other | ⟨whole, ⟨-, value⟩ | ⟨other, -⟩ | ⟨other, -⟩⟩
      · omega
      · exact ⟨whole, .inr value⟩
      · omega
      · omega)).resolve_left written
  rw [value] at written ⊢
  obtain ⟨buffer, member, same⟩ := MotionPool.mem_of_registerValue_ne_zero written
  exact ⟨buffer, member, by rw [same]⟩

end Job

end VideoAccel
