import VideoAccel.Proofs.Program.Handles
import VideoAccel.Proofs.Register.Patches

/-!
The patches that a build records.

The pointers of a build go to different registers (`Job.nodup_pointers`), so that each gets its own offset
on record (`PatchTable.offsetOf?_pushAll`). So the patch table of a build says of every line buffer
where it lies, if it is in use and does not lie at the start (`Job.offsetOf?_lineBuffer`). A line buffer
that is not in use has neither a patch nor a handle (`Job.get_lineBuffer_image_of_unused`).
-/

namespace VideoAccel

namespace PatchTable

variable {table final : PatchTable} {pointers : List (Field × BitVec 32 × Nat)}

theorem Sound.pushAll (sound : table.Sound) (pushed : pushAll pointers table = .ok final) :
    final.Sound := by
  induction pointers generalizing table with
  | nil =>
      cases pushed
      exact sound
  | cons pointer rest ih =>
      rw [PatchTable.pushAll] at pushed
      cases first : table.push pointer.1.reg pointer.2.2 with
      | error fault =>
          rw [first] at pushed
          cases pushed
      | ok next =>
          rw [first] at pushed
          exact ih (sound.push first) pushed

theorem offsetOf?_pushAll_of_apart (pushed : pushAll pointers table = .ok final) {reg : Nat}
    (apart : ∀ pointer ∈ pointers, pointer.1.reg ≠ reg) :
    final.offsetOf? reg = table.offsetOf? reg := by
  induction pointers generalizing table with
  | nil =>
      cases pushed
      rfl
  | cons pointer rest ih =>
      obtain ⟨field, value, offset⟩ := pointer
      rw [pushAll] at pushed
      cases first : table.push field.reg offset with
      | error fault =>
          rw [first] at pushed
          cases pushed
      | ok next =>
          rw [first] at pushed
          have other : field.reg ≠ reg := apart _ List.mem_cons_self
          rw [ih pushed fun pointer member => apart pointer (List.mem_cons_of_mem _ member),
            offsetOf?_push first, if_neg fun both => other both.1.symm]

/-- Of pointers to different registers each gets its own offset on record. -/
theorem offsetOf?_pushAll (pushed : pushAll pointers table = .ok final)
    (distinct : (pointers.map (·.1.reg)).Nodup) {pointer : Field × BitVec 32 × Nat}
    (member : pointer ∈ pointers) (fresh : table.offsetOf? pointer.1.reg = none) :
    final.offsetOf? pointer.1.reg = if pointer.2.2 = 0 then none else some pointer.2.2 := by
  induction pointers generalizing table with
  | nil => exact absurd member List.not_mem_nil
  | cons head rest ih =>
      obtain ⟨field, value, offset⟩ := head
      obtain ⟨apart, distinct⟩ := List.nodup_cons.mp distinct
      have other : ∀ later ∈ rest, later.1.reg ≠ field.reg := fun later among same =>
        apart (List.mem_map.mpr ⟨later, among, same⟩)
      rw [pushAll] at pushed
      cases first : table.push field.reg offset with
      | error fault =>
          rw [first] at pushed
          cases pushed
      | ok next =>
          rw [first] at pushed
          rcases List.mem_cons.mp member with rfl | among
          · rw [offsetOf?_pushAll_of_apart pushed other, offsetOf?_push first, fresh]
            simp
          · refine ih pushed distinct among ?_
            rw [offsetOf?_push first, if_neg fun both => other pointer among both.1, fresh]

end PatchTable

namespace Job

variable {job : Job} {scratch : Handle} {buffer : LineBuffer}

/-- The line buffers in use, and nothing else of the job. -/
def trimmed (job : Job) : Job :=
  { job with lines := { job.lines with buffers := job.lines.buffers.filter (·.size ≠ 0) } }

/-- A build takes no notice of line buffers that are not in use. -/
theorem assignment_trimmed (job : Job) (scratch : Handle) :
    job.trimmed.assignment scratch = job.assignment scratch := by
  have same : job.trimmed.lineBufferPointers = job.lineBufferPointers := by
    show List.map _ (List.filter _ (List.filter _ _)) = _
    rw [List.filter_filter]
    simp only [Bool.and_self]
    rfl
  unfold assignment pointers
  rw [same]
  rfl

theorem Sound.trimmed (sound : job.Sound) : job.trimmed.Sound where
  lines buffer member := sound.lines buffer (List.mem_filter.mp member).1
  references := sound.references

/-- The address register of a line buffer that is not in use holds no handle. -/
theorem get_lineBuffer_image_of_unused (sound : job.Sound) {draft : Draft}
    (full : draft.file.size = Layout.fileBytes)
    (distinct : (job.lines.buffers.map (·.reg)).Nodup) (member : buffer ∈ job.lines.buffers)
    (unused : buffer.size = 0) : (Field.word buffer.reg).get (Draft.image job draft) = 0 := by
  have known := sound.lines buffer member
  have inside : ∀ reg ∈ Layout.lineBufferRegisters,
      ∃ sec ∈ Layout.cleared, sec.contains reg = true := by decide
  have same : Draft.image job draft = Draft.image job.trimmed draft := by
    rw [Draft.image, Draft.image, assignment_trimmed]
  rw [same]
  refine get_word_image sound.trimmed full (inside _ known) (P := (· = 0)) rfl ?_
  intro entry stores own
  exfalso
  have range := Layout.mem_lineBufferRegisters known
  cases stores with
  | @lineBuffer other used =>
      -- Another line buffer has another register, and this one is not in use.
      obtain ⟨among, positive⟩ := List.mem_filter.mp used
      have apart := List.inj_on_of_nodup_map distinct among member own
      rw [apart, unused] at positive
      simp at positive
  | plain value known =>
      have apart := reg_of_mem_plain known
      simp only at own
      omega
  | @order i bottom value small =>
      have small : i < 16 := small
      have bit := bottom.toNat_le
      have reg : (Layout.referenceOrder i bottom).reg = 66 + 2 * i + bottom.toNat := rfl
      simp only [reg] at own
      omega
  | @reference i value small =>
      have reg : (Layout.referenceBase i).reg = 165 + i := rfl
      simp only [reg] at own
      omega
  | motion slot =>
      have reg : Layout.motionBase.reg = 130 := rfl
      simp only [reg] at own
      omega
  | @referenceMotion i slot small =>
      have reg : (Layout.referenceMotionBase i).reg = 165 + 16 + i := rfl
      simp only [reg] at own
      omega
  | scratch among =>
      obtain ⟨low, high, -⟩ := reg_of_mem_scratchFields among
      simp only at own
      omega

/-- The pointers of a build go to different registers. -/
theorem nodup_pointers (registers : ∀ buffer ∈ job.lines.buffers, buffer.reg ∈ Layout.lineBufferRegisters)
    (distinct : (job.lines.buffers.map (·.reg)).Nodup) (scratch : Handle) :
    ((job.pointers scratch).map (·.1.reg)).Nodup := by
  have lines : job.lineBufferPointers.map (·.1.reg) =
      (job.lines.buffers.filter (·.size ≠ 0)).map (·.reg) := by
    rw [lineBufferPointers, List.map_map]
    rfl
  have areas : (job.scratchPointers scratch).map (·.1.reg) = [160, 161, 162, 163] := rfl
  rw [pointers, List.map_append, lines, areas]
  refine List.nodup_append.mpr ⟨distinct.sublist (List.filter_sublist.map _), by decide, ?_⟩
  intro own member other area same
  obtain ⟨buffer, used, rfl⟩ := List.mem_map.mp member
  have range := Layout.mem_lineBufferRegisters (registers buffer (List.mem_filter.mp used).1)
  simp only [List.mem_cons, List.not_mem_nil, or_false] at area
  omega

/-- The patch table of a build says where a line buffer lies, if it is in use and does not lie at
the start. -/
theorem offsetOf?_lineBuffer
    (registers : ∀ buffer ∈ job.lines.buffers, buffer.reg ∈ Layout.lineBufferRegisters)
    (distinct : (job.lines.buffers.map (·.reg)).Nodup) {patches : PatchTable}
    (pushed : PatchTable.pushAll (job.pointers scratch) .empty = .ok patches)
    (member : buffer ∈ job.lines.buffers) :
    patches.offsetOf? buffer.reg =
      if buffer.size = 0 ∨ buffer.offset = 0 then none else some buffer.offset := by
  by_cases unused : buffer.size = 0
  · rw [if_pos (.inl unused)]
    refine (PatchTable.offsetOf?_pushAll_of_apart pushed fun pointer among own => ?_).trans rfl
    rcases List.mem_append.mp among with line | area
    · obtain ⟨other, used, rfl⟩ := List.mem_map.mp line
      obtain ⟨known, positive⟩ := List.mem_filter.mp used
      have apart := List.inj_on_of_nodup_map distinct known member own
      rw [apart, unused] at positive
      simp at positive
    · have range := Layout.mem_lineBufferRegisters (registers buffer member)
      have areas : pointer.1.reg ∈ [160, 161, 162, 163] :=
        List.mem_map_of_mem (f := fun pointer : Field × BitVec 32 × Nat => pointer.1.reg) area
      simp only [List.mem_cons, List.not_mem_nil, or_false] at areas
      omega
  · have used : (Field.word buffer.reg, job.lines.handle.registerValue, buffer.offset) ∈
        job.pointers scratch :=
      List.mem_append_left _
        (List.mem_map.mpr ⟨buffer, List.mem_filter.mpr ⟨member, decide_eq_true unused⟩, rfl⟩)
    have recorded := PatchTable.offsetOf?_pushAll pushed (nodup_pointers registers distinct scratch)
      used rfl
    rw [show (Field.word buffer.reg).reg = buffer.reg from rfl] at recorded
    simpa only [unused, false_or] using recorded

end Job

end VideoAccel
