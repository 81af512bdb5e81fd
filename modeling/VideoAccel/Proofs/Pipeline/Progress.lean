import VideoAccel.Proofs.Device.Ending
import VideoAccel.Proofs.Pipeline.Ownership

/-!
Calls that are answered.

A simulated board that was not told to refuse anything answers every call made in its turn: a
decoder can be initialised (`Decoder.initialise_of_willing`), a task without error flags gets a
slot as long as one is free and its line buffers can be addressed (`Session.generate_of_able`), a
task with built registers can be started, and one that the device works on can be waited for. Each
of these calls leaves a session that answers again (`Session.Able`), so that the life of a task is
followed call by call: `Session.Able.send` and `Session.Able.wait` say what the device, the slots and
the supply are like afterwards.
-/

namespace VideoAccel

/-! ### An arena that grants everything -/

namespace Arena

theorem alloc_of_willing {arena : Arena} (willing : arena.failAfter = none) (size : Nat) :
    ∃ after, alloc size arena = .ok (.blank ⟨arena.nextHandle⟩ size) after ∧
      after.failAfter = none := by
  rcases alloc_cases size arena with ⟨refused, -⟩ | ⟨-, granted⟩
  · rw [refuses, willing] at refused
    cases refused
  · exact ⟨_, granted, willing⟩

end Arena

namespace LineBufferCache

theorem release_willing {arena : Arena} (willing : arena.failAfter = none)
    (cache : LineBufferCache) : (cache.release arena).2.failAfter = none := by
  unfold release
  cases cache.memory with
  | none => exact willing
  | some buffer => exact willing

theorem Ensures.ok_of_willing {shape : PictureShape} {cache after : LineBufferCache}
    {memory final : Arena} {outcome : Except Fault Unit}
    (ensures : cache.Ensures shape memory outcome after final) (willing : memory.failAfter = none) :
    outcome = .ok () ∧ final.failAfter = none := by
  have granted := Arena.alloc_of_willing (cache.release_willing willing)
    (LineBuffer.totalSize (cache.placed shape))
  cases ensures with
  | kept serves => exact ⟨rfl, willing⟩
  | refused outdated refuses =>
      obtain ⟨_, granted, -⟩ := granted
      cases granted.symm.trans refuses
  | replaced outdated grants =>
      obtain ⟨_, granted, kept⟩ := granted
      cases granted.symm.trans grants
      exact ⟨rfl, kept⟩

end LineBufferCache

namespace MotionPool

theorem release_willing {arena : Arena} (willing : arena.failAfter = none) (pool : MotionPool) :
    (pool.release arena).2.failAfter = none := by
  unfold release
  simp only
  generalize pool.buffers = buffers
  induction buffers generalizing arena with
  | nil => exact willing
  | cons buffer rest ih =>
      have still : (Allocator.release buffer arena).failAfter = none := willing
      exact ih still

theorem allocAll_of_willing {arena : Arena} (willing : arena.failAfter = none) (size count : Nat) :
    ∃ buffers after, allocAll size count arena = .ok buffers after ∧ after.failAfter = none := by
  induction count generalizing arena with
  | zero => exact ⟨[], arena, rfl, willing⟩
  | succ count ih =>
      obtain ⟨middle, granted, still⟩ := Arena.alloc_of_willing willing size
      obtain ⟨buffers, after, further, kept⟩ := ih still
      exact ⟨_, after, allocAll_of_ok granted further, kept⟩

theorem Ensures.ok_of_willing {slots size : Nat} {pool after : MotionPool} {memory final : Arena}
    {outcome : Except Fault Unit} (ensures : pool.Ensures slots size memory outcome after final)
    (willing : memory.failAfter = none) : outcome = .ok () ∧ final.failAfter = none := by
  have granted := allocAll_of_willing (pool.release_willing willing) size slots
  cases ensures with
  | kept serves => exact ⟨rfl, willing⟩
  | refused outgrown refuses =>
      obtain ⟨_, _, granted, -⟩ := granted
      cases granted.symm.trans refuses
  | rebuilt outgrown grants =>
      obtain ⟨_, _, granted, kept⟩ := granted
      cases granted.symm.trans grants
      exact ⟨rfl, kept⟩

end MotionPool

namespace Supply

theorem Provides.ok_of_willing {shape : PictureShape} {slots size : Nat} {supply after : Supply Arena}
    {outcome : Except Fault Unit} (provides : supply.Provides shape slots size outcome after)
    (willing : supply.memory.failAfter = none) :
    outcome = .ok () ∧ after.memory.failAfter = none := by
  cases provides with
  | noLines refused => cases (refused.ok_of_willing willing).1
  | noMotion ready refused =>
      cases (refused.ok_of_willing (ready.ok_of_willing willing).2).1
  | provided ready granted => exact granted.ok_of_willing (ready.ok_of_willing willing).2

/-- An arena that grants everything provides for every picture. -/
theorem provide_of_willing {supply : Supply Arena} (willing : supply.memory.failAfter = none)
    (shape : PictureShape) (slots size : Nat) :
    ∃ after, provide shape slots size supply = .ok () after ∧ after.memory.failAfter = none := by
  have provides := provide_spec shape slots size supply
  cases ran : provide shape slots size supply with
  | ok done after =>
      rw [ran] at provides
      exact ⟨after, rfl, (provides.ok_of_willing willing).2⟩
  | error fault after =>
      rw [ran] at provides
      cases (provides.ok_of_willing willing).1

end Supply

/-! ### Builds with room -/

namespace Job

theorem size_pos_of_mem_blobs {job : Job} {cache : ParameterCache} {piece : Nat × Bytes}
    (member : piece ∈ job.blobs cache) : 0 < piece.2.size := by
  rcases List.mem_append.mp member with copy | rest
  · obtain ⟨i, -, rfl⟩ := List.mem_map.mp copy
    rw [ParameterCache.size_entry]
    decide
  · simp only [List.mem_cons, List.not_mem_nil, or_false] at rest
    rcases rest with rfl | rfl
    · rw [Blob.size_referenceLists]
      decide
    · rw [ScalingLists.size_toBytes]
      decide

theorem reg_lt_of_mem_pointers {job : Job} {scratch : Handle}
    (registers : ∀ buffer ∈ job.lines.buffers, buffer.reg ∈ Layout.lineBufferRegisters) :
    ∀ pointer ∈ job.pointers scratch, pointer.1.reg < Numeral.bound32 := by
  have small : ∀ reg ∈ Layout.lineBufferRegisters, reg < Numeral.bound32 := by decide
  have low : ∀ field ∈ Layout.scratchFields, field.reg < Numeral.bound32 := by decide
  intro pointer member
  rcases List.mem_append.mp member with line | area
  · obtain ⟨buffer, used, rfl⟩ := List.mem_map.mp line
    exact small _ (registers buffer (List.mem_filter.mp used).1)
  · simp only [scratchPointers, List.mem_cons, List.not_mem_nil, or_false] at area
    rcases area with rfl | rfl | rfl | rfl
    · exact low Layout.parameterBase (by decide)
    · exact low Layout.listBase (by decide)
    · exact low Layout.scalingBase (by decide)
    · exact low Layout.entropyBase (by decide)

/-- The patch table has a place for each of at most nine line buffers and of the areas of scratch
memory. -/
theorem length_pointers_le {job : Job} (count : job.lines.buffers.length ≤ Layout.lineBufferCount)
    (scratch : Handle) :
    PatchTable.empty.entries.length + (job.pointers scratch).length ≤ PatchTable.limit := by
  have used := List.length_filter_le (fun buffer : LineBuffer => decide (buffer.size ≠ 0))
    job.lines.buffers
  have nine : Layout.lineBufferCount = 9 := rfl
  have sixteen : PatchTable.limit = 16 := rfl
  have none : PatchTable.empty.entries.length = 0 := rfl
  have four : (job.scratchPointers scratch).length = 4 := rfl
  rw [pointers, List.length_append, lineBufferPointers, List.length_map, four, none]
  omega

/-- Handles and offsets of at most nine line buffers and of the areas of scratch memory fit into
the patch table, if the offsets of those in use have 32 bits. -/
theorem pushAll_pointers {job : Job} (count : job.lines.buffers.length ≤ Layout.lineBufferCount)
    (registers : ∀ buffer ∈ job.lines.buffers, buffer.reg ∈ Layout.lineBufferRegisters)
    (offsets : ∀ buffer ∈ job.lines.buffers, buffer.size ≠ 0 → buffer.offset < Numeral.bound32)
    (areas : job.region.parameters < Numeral.bound32 ∧ job.region.lists < Numeral.bound32 ∧
      job.region.scaling < Numeral.bound32) (scratch : Handle) :
    ∃ patches, PatchTable.pushAll (job.pointers scratch) .empty = .ok patches := by
  refine PatchTable.pushAll_ok (fun pointer member =>
    ⟨reg_lt_of_mem_pointers registers pointer member, ?_⟩) (length_pointers_le count scratch)
  rcases List.mem_append.mp member with line | area
  · obtain ⟨buffer, used, rfl⟩ := List.mem_map.mp line
    obtain ⟨known, positive⟩ := List.mem_filter.mp used
    exact offsets buffer known (of_decide_eq_true positive)
  · obtain ⟨parameters, lists, scaling⟩ := areas
    simp only [scratchPointers, List.mem_cons, List.not_mem_nil, or_false] at area
    rcases area with rfl | rfl | rfl | rfl
    · exact parameters
    · exact lists
    · exact scaling
    · exact show 0 < Numeral.bound32 by decide

/-- A line buffer in use that starts at an offset of more than 32 bits stops the recording. -/
theorem pushAll_pointers_of_far {job : Job}
    (count : job.lines.buffers.length ≤ Layout.lineBufferCount)
    (registers : ∀ buffer ∈ job.lines.buffers, buffer.reg ∈ Layout.lineBufferRegisters)
    (far : ∃ buffer ∈ job.lines.buffers, buffer.size ≠ 0 ∧ Numeral.bound32 ≤ buffer.offset)
    (scratch : Handle) :
    ∃ offset, PatchTable.pushAll (job.pointers scratch) .empty = .error (.patchOffset offset) := by
  refine PatchTable.pushAll_of_far (reg_lt_of_mem_pointers registers)
    (length_pointers_le count scratch) ?_
  obtain ⟨buffer, known, positive, beyond⟩ := far
  have used : buffer ∈ job.lines.buffers.filter fun buffer => buffer.size ≠ 0 :=
    List.mem_filter.mpr ⟨known, decide_eq_true positive⟩
  exact ⟨_, List.mem_append_left _ (List.mem_map_of_mem used), beyond⟩

end Job

/-! ### Room for a build -/

namespace Session

section Room

variable {δ α : Type} {session : Session δ α}

/-- The offsets of the areas that belong to a slot can be recorded. -/
theorem areas_lt (formed : session.Formed) {index : Nat} (known : index < session.layout.copies) :
    (session.layout.region index).parameters < Numeral.bound32 ∧
    (session.layout.region index).lists < Numeral.bound32 ∧
    (session.layout.region index).scaling < Numeral.bound32 := by
  have total : session.layout.totalSize < Numeral.bound32 := by
    rw [formed.fits.totalSize_eq, formed.layout]
    exact ScratchLayout.extent_lt (Config.slotCount_le formed.valid)
  have next := formed.fits.scaling_region_add known
  have last := formed.fits.region_le_totalSize known
  have lists := formed.fits.lists_region known
  have scaling := formed.fits.scaling_region known
  omega

/-- The blobs of a task fit into the scratch buffer: every piece lies in the task's region, and the
region in the buffer. -/
theorem blobs_fit (formed : session.Formed)
    (whole : session.scratch.size = session.layout.totalSize) {index : Nat}
    (known : index < session.layout.copies) (task : Task) (supply : Supply α)
    (cache : ParameterCache) :
    ∃ scratch, Buffer.writeAll ((session.jobWith index task supply).blobs cache) session.scratch =
      .ok () scratch := by
  refine Buffer.writeAll_ok session.scratch fun piece member => ?_
  have positive := Job.size_pos_of_mem_blobs member
  have touches : (session.layout.region index).Touches (piece.1 + (piece.2.size - 1)) :=
    Job.touches_of_mem_blobs member (by omega) (by omega)
  have stop := (ScratchLayout.inRegion_of_touches formed.sizes formed.fits known touches).2
  have last := formed.fits.region_le_totalSize known
  rw [whole]
  omega

/-- There are as many line buffers as there are registers for them. -/
theorem length_buffers {supply : Supply α}
    (registers : supply.lines.registers = LineBufferClass.all.zip Layout.lineBufferRegisters) :
    supply.lines.buffers.length ≤ Layout.lineBufferCount := by
  have length := congrArg List.length registers
  rw [LineBufferCache.registers, List.length_map] at length
  exact Nat.le_of_eq length

/-- Building in a slot has room for everything: the scratch buffer for the blobs, and the patch
table for the offsets, if those of the line buffers in use have 32 bits. -/
theorem build_of_room [Allocator α] (formed : session.Formed)
    (whole : session.scratch.size = session.layout.totalSize) {task : Task} {index : Nat}
    {slot : Slot SlotContent} (found : session.slots.get? index = some slot) {supply : Supply α}
    (granted : session.provision task.coded.picture session.supply = .ok () supply)
    (offsets : ∀ buffer ∈ supply.lines.buffers, buffer.size ≠ 0 → buffer.offset < Numeral.bound32) :
    ∃ full draft, Draft.build (session.jobWith index task supply)
      (slot.content.draft session.scratch) = .ok full draft := by
  have known := formed.index_lt found
  have registers := (registers_provision (by rw [granted, Action.after_ok])).trans formed.registers
  have sound : (session.jobWith index task supply).Sound := Formed.sound registers index task
  obtain ⟨scratch, written⟩ := blobs_fit formed whole known task supply
    ((session.jobWith index task supply).nextCache slot.content.cache)
  obtain ⟨patches, pushed⟩ := @Job.pushAll_pointers (session.jobWith index task supply)
    (length_buffers registers) sound.lines offsets (areas_lt formed known) session.scratch.handle
  exact ⟨_, _, @Draft.build_of_ok _ (slot.content.draft session.scratch) scratch patches
    written pushed⟩

end Room

end Session

/-! ### The calls of a session -/

/-- Neither the arena nor the device was told to refuse. -/
structure Board.Willing (board : Board SimulatedDevice Arena) : Prop where
  memory : board.memory.failAfter = none
  device : board.device.failPolls = false

namespace Session

/-- The session answers every call that is made in its turn. -/
structure Able (session : Session SimulatedDevice Arena) : Prop where
  formed : session.Formed
  whole : session.Whole
  willing : session.board.Willing
  offsets : ∀ buffer ∈ session.lines.buffers, buffer.offset < Numeral.bound32

variable {session : Session SimulatedDevice Arena}

/-- What is on the board does not matter, as long as the memory stays and the device answers. -/
theorem Able.withBoard (able : session.Able) {board : Board SimulatedDevice Arena}
    (memory : board.memory = session.board.memory) (answers : board.device.failPolls = false) :
    (session.withBoard board).Able where
  formed := able.formed.of_same rfl rfl rfl rfl
  whole := able.whole.of_same rfl rfl
  willing := ⟨(congrArg Arena.failAfter memory).trans able.willing.memory, answers⟩
  offsets := able.offsets

theorem Able.recorded (able : session.Able) (journal : Journal) :
    (session.recorded journal).Able :=
  able.withBoard rfl able.willing.device

theorem Able.reported (able : session.Able) (report : Report) : (session.reported report).Able := by
  rw [reported_eq]
  exact able.withBoard rfl able.willing.device

theorem Able.commanded (able : session.Able) (compressed : Bool) (stride : StrideRule)
    (journal : Journal) : (session.commanded compressed stride journal).Able where
  formed := able.formed.commanded
  whole := able.whole.of_same rfl rfl
  willing := ⟨able.willing.memory, able.willing.device⟩
  offsets := by
    have same : (session.commanded compressed stride journal).lines.buffers =
        session.lines.buffers := by
      unfold Session.commanded
      simp only
      split <;> rfl
    rw [same]
    exact able.offsets

/-- The line buffers after readying the shared buffers are those from before, or they were placed
for the picture. -/
theorem lines_provision (formed : session.Formed) {picture : Picture} {supply : Supply Arena}
    (granted : session.provision picture session.supply = .ok () supply) :
    supply.lines.buffers = session.lines.buffers ∨
      supply.lines.buffers = LineBuffer.place (session.shapeOf picture)
        (LineBufferClass.all.zip Layout.lineBufferRegisters) := by
  have provides := session.provision_spec picture
  rw [granted, Action.outcome_ok, Action.after_ok] at provides
  cases provides with
  | provided ready granted =>
      cases ready with
      | kept serves => exact .inl rfl
      | replaced outdated grants =>
          right
          show LineBuffer.place _ session.lines.registers = _
          rw [formed.registers]

/-- A task without error flags that holds no slot gets the first free one, as long as its line
buffers lie where a patch can say so. -/
theorem generate_of_able (able : session.Able) {task : Task}
    (unflagged : task.flags.hasError = false)
    (unheld : ∀ index, task.slot = some index → session.holds index task.id = false)
    {index : Nat} {slot : Slot SlotContent} (first : session.slots.FirstFree index slot)
    (offsets : ∀ buffer ∈ LineBuffer.place (session.shapeOf task.coded.picture)
      (LineBufferClass.all.zip Layout.lineBufferRegisters), buffer.offset < Numeral.bound32) :
    ∃ supply scratch content journal,
      Prepares session index task slot.content (.ok ()) supply scratch content ∧
      generate task session = .ok { task with slot := some index }
        (session.settle index ⟨true, .built, content⟩ supply scratch journal) ∧
      (session.settle index ⟨true, .built, content⟩ supply scratch journal).Able := by
  obtain ⟨supply, granted, still⟩ := @Supply.provide_of_willing session.supply able.willing.memory
    (session.shapeOf task.coded.picture) session.board.frames.slotCount
    (MotionPool.bytesFor task.coded.picture.sequence.width task.coded.picture.sequence.height
      task.coded.picture.sequence.fieldCoding)
  have provided : session.provision task.coded.picture session.supply = .ok () supply := granted
  have low : ∀ buffer ∈ supply.lines.buffers, buffer.offset < Numeral.bound32 := by
    rcases lines_provision able.formed provided with kept | placed
    · rw [kept]
      exact able.offsets
    · rw [placed]
      exact offsets
  obtain ⟨full, draft, built⟩ := build_of_room able.formed able.whole first.found provided
    fun buffer member _ => low buffer member
  -- Nothing but an answer can have come of this.
  have ended := generate_spec session task
  cases ran : generate task session with
  | error fault later =>
      rw [ran, Action.outcome_error, Action.after_error] at ended
      cases ended with
      | @held _ other names held => cases (unheld other names).symm.trans held
      | full _ _ busy => cases first.free.symm.trans (busy index slot first.found)
      | failed _ _ other prepares journal =>
          obtain ⟨rfl, rfl⟩ := first.unique other
          cases prepares with
          | starved refused => cases provided.symm.trans refused
          | unbuilt granted refused =>
              cases provided.symm.trans granted
              cases built.symm.trans refused
          | unsynced granted built refused => cases refused
  | ok owned later =>
      rw [ran, Action.outcome_ok, Action.after_ok] at ended
      have formed := able.formed.generates ended
      have whole := able.whole.generates ended
      cases ended with
      | skipped flagged journal => cases unflagged.symm.trans flagged
      | built _ _ other prepares journal =>
          obtain ⟨rfl, rfl⟩ := first.unique other
          refine ⟨_, _, _, journal, prepares, rfl, formed, whole, ?_, ?_⟩
          · cases prepares with
            | ready granted built synced =>
                cases provided.symm.trans granted
                cases synced
                exact ⟨still, able.willing.device⟩
          · cases prepares with
            | ready granted built synced =>
                cases provided.symm.trans granted
                exact low

/-- A task with error flags is skipped. -/
theorem generate_of_flagged (able : session.Able) {task : Task}
    (flagged : task.flags.hasError = true) :
    ∃ journal, generate task session = .ok { task with slot := none } (session.recorded journal) ∧
      (session.recorded journal).Able := by
  refine ⟨session.board.journal.push (.generationSkipped task.id task.flags), ?_, able.recorded _⟩
  rw [generate, if_pos flagged]
  rfl

/-- A task with built registers can be started. -/
theorem start_of_able (able : session.Able) {task : Task} (unflagged : task.flags.hasError = false)
    {index : Nat} {slot : Slot SlotContent} (owns : session.Owns task .built index slot) :
    ∃ device journal, SimulatedDevice.Sends session.board.device device ∧
      start task session =
        .ok () (session.redevice device index ⟨true, .submitted, slot.content⟩ journal) ∧
      (session.redevice device index ⟨true, .submitted, slot.content⟩ journal).Able := by
  obtain ⟨device, taken, sends⟩ := SimulatedDevice.transmit_run slot.content session.board.device
  have started := start_of_accepted unflagged owns taken
  have ended := start_spec session task
  rw [started, Action.after_ok] at ended
  exact ⟨device, _, sends, started, able.formed.starts ended,
    able.whole.starts ended,
    ⟨able.willing.memory, sends.failPolls.trans able.willing.device⟩, able.offsets⟩

/-- While the device answers and has tasks in flight, a task that was submitted can be waited for; it
is reported with the completion of the oldest task in flight. -/
theorem wait_of_waiting {α : Type} {session : Session SimulatedDevice α} (formed : session.Formed)
    (answers : session.board.device.failPolls = false) {task : Task}
    (unflagged : task.flags.hasError = false) {index : Nat} {slot : Slot SlotContent}
    (owns : session.Owns task .submitted index slot) {completion : Completion}
    {later : List Completion} (waiting : session.board.device.inFlight = completion :: later)
    {file : Bytes}
    (shown : file = completion.readBack session.board.device.registers slot.content.file) :
    ∃ device journal, SimulatedDevice.Collects completion session.board.device device ∧
      wait task session = .ok ()
        ((session.redevice device index
          ⟨false, .idle, slot.content.withFile (Layout.status.set 0 file)⟩ journal).reported
          (finalReport task file (Verdict.ofFile file).isHardError)) := by
  have full := (formed.slots index slot owns.found).file
  obtain ⟨device, collected, collects⟩ := SimulatedDevice.collect_run full waiting answers
  obtain ⟨journal, waited⟩ := wait_of_collected unflagged owns collected shown
  exact ⟨device, journal, collects, waited⟩

/-- A task that was submitted can be waited for while the device has tasks in flight. -/
theorem wait_of_able (able : session.Able) {task : Task} (unflagged : task.flags.hasError = false)
    {index : Nat} {slot : Slot SlotContent} (owns : session.Owns task .submitted index slot)
    {completion : Completion} {later : List Completion}
    (waiting : session.board.device.inFlight = completion :: later) :
    ∃ device file journal,
      SimulatedDevice.Collects completion session.board.device device ∧
      wait task session = .ok ()
        ((session.redevice device index
          ⟨false, .idle, slot.content.withFile (Layout.status.set 0 file)⟩ journal).reported
          (finalReport task file (Verdict.ofFile file).isHardError)) ∧
      ((session.redevice device index
          ⟨false, .idle, slot.content.withFile (Layout.status.set 0 file)⟩ journal).reported
          (finalReport task file (Verdict.ofFile file).isHardError)).Able := by
  obtain ⟨device, journal, collects, waited⟩ :=
    wait_of_waiting able.formed able.willing.device unflagged owns waiting rfl
  have ended := wait_spec session task
  rw [waited, Action.outcome_ok, Action.after_ok] at ended
  refine ⟨device, _, journal, collects, waited, able.formed.waits ended,
    able.whole.waits ended, ?_, ?_⟩
  · unfold reported
    split
    · exact ⟨able.willing.memory, collects.failPolls.trans able.willing.device⟩
    · exact ⟨able.willing.memory, collects.failPolls.trans able.willing.device⟩
  · unfold reported
    split
    · exact able.offsets
    · exact able.offsets

/-! ### The life of a task, call by call -/

variable {task : Task} {index : Nat} {slot : Slot SlotContent}

/-- A task with built registers is started, and the device has taken it. -/
theorem Able.start (able : session.Able) (unflagged : task.flags.hasError = false)
    (owns : session.Owns task .built index slot) :
    ∃ device journal, session.board.device.Sends device ∧
      device.writeCount = session.board.device.writeCount + 5 ∧
      start task session =
        .ok () (session.redevice device index ⟨true, .submitted, slot.content⟩ journal) ∧
      (session.redevice device index ⟨true, .submitted, slot.content⟩ journal).Able := by
  obtain ⟨device, taken, sends⟩ := SimulatedDevice.transmit_run slot.content session.board.device
  have started := start_of_accepted unflagged owns taken
  obtain ⟨_, _, -, ran, able⟩ := start_of_able able unflagged owns
  injection started.symm.trans ran with _ same
  rw [← same] at able
  exact ⟨device, _, sends, SimulatedDevice.writeCount_transmit taken, started, able⟩

/-- A task that was given no slot gets the first free one, and the device takes it there. -/
theorem Able.send (able : session.Able) (unflagged : task.flags.hasError = false)
    (unplaced : task.slot = none) (first : session.slots.FirstFree index slot)
    (offsets : ∀ buffer ∈ LineBuffer.place (session.shapeOf task.coded.picture)
      (LineBufferClass.all.zip Layout.lineBufferRegisters), buffer.offset < Numeral.bound32) :
    ∃ supply scratch content device journal journal', ∃ built later : Session SimulatedDevice Arena,
      built = session.settle index ⟨true, .built, content⟩ supply scratch journal ∧
      later = built.redevice device index ⟨true, .submitted, content⟩ journal' ∧
      generate task session = .ok { task with slot := some index } built ∧
      Session.start { task with slot := some index } built = .ok () later ∧
      session.supply.Provides (session.shapeOf task.coded.picture) session.board.frames.slotCount
        (MotionPool.bytesFor task.coded.picture.sequence.width
          task.coded.picture.sequence.height task.coded.picture.sequence.fieldCoding)
        (.ok ()) supply ∧
      content.task = some task.id ∧ session.board.device.Sends device ∧
      device.writeCount = session.board.device.writeCount + 5 ∧ later.Able := by
  have unheld : ∀ index, task.slot = some index → session.holds index task.id = false := by
    intro index names
    cases unplaced.symm.trans names
  obtain ⟨supply, scratch, content, journal, prepares, generated, able⟩ :=
    generate_of_able able unflagged unheld first offsets
  let placed : Task := { task with slot := some index }
  have clear : placed.flags.hasError = false := unflagged
  have owns : (session.settle index ⟨true, .built, content⟩ supply scratch journal).Owns
      placed .built index ⟨true, .built, content⟩ :=
    ⟨rfl, SlotPool.get?_put_self first.found _, rfl, prepares.serves, rfl⟩
  obtain ⟨device, journal', sends, writes, started, able⟩ := able.start clear owns
  have provides := session.provision_spec task.coded.picture
  rw [prepares.provided, Action.outcome_ok, Action.after_ok] at provides
  exact ⟨supply, scratch, content, device, journal, journal', _, _, rfl, rfl, generated, started,
    provides, prepares.serves, sends, writes, able⟩

/-- A submitted task is reported with the oldest ending that the device has. -/
theorem Able.wait (able : session.Able) (unflagged : task.flags.hasError = false)
    (owns : session.Owns task .submitted index slot) {ending : Ending} {later : List Completion}
    (waiting : session.board.device.inFlight = ending.completion :: later)
    (space : session.board.device.registers.size = SimulatedDevice.registerSpace) :
    ∃ device content journal report, session.board.device.Collects ending.completion device ∧
      device.writeCount = session.board.device.writeCount ∧
      wait task session = .ok ()
        ((session.redevice device index ⟨false, .idle, content⟩ journal).reported report) ∧
      ((session.redevice device index ⟨false, .idle, content⟩ journal).reported report).Able ∧
      report.task = task.id ∧ report.outputSlot = task.outputSlot ∧ report.skipped = false ∧
      report.Tells ending := by
  have full := (able.formed.slots index slot owns.found).file
  obtain ⟨device, collected, collects⟩ :=
    SimulatedDevice.collect_run full waiting able.willing.device
  obtain ⟨journal, waited⟩ := wait_of_collected unflagged owns collected rfl
  obtain ⟨_, _, _, -, ran, able⟩ := wait_of_able able unflagged owns waiting
  injection waited.symm.trans ran with _ same
  rw [← same] at able
  exact ⟨device, _, journal, _, collects, SimulatedDevice.writeCount_collect collected, waited, able,
    rfl, rfl, rfl, ending.tells_of_readBack space full task rfl⟩

end Session

namespace Decoder

/-- A decoder on a willing board can be initialised with any valid settings; its scratch buffer is
the next one that the arena hands out. -/
theorem initialise_of_willing {config : Config} (valid : config.validate = .ok ())
    (reporting : Bool) {board : Board SimulatedDevice Arena} (willing : board.Willing) :
    ∃ scratch memory left,
      Arena.alloc (ScratchLayout.of scratchSizes config.slotCount).totalSize board.memory =
        .ok (.blank ⟨board.memory.nextHandle⟩
          (ScratchLayout.of scratchSizes config.slotCount).totalSize) memory ∧
      scratch.handle = ⟨board.memory.nextHandle⟩ ∧
      (∃ journal, left = { board with memory, journal }) ∧
      initialise config reporting (idle board) =
        .ok (capability config) (working (Session.opened config reporting scratch left)) ∧
      (Session.opened config reporting scratch left).Able := by
  obtain ⟨memory, granted, still⟩ := Arena.alloc_of_willing willing.memory
    (ScratchLayout.of scratchSizes config.slotCount).totalSize
  have fits : (ScratchLayout.of scratchSizes config.slotCount).entropyOffset +
      EntropyTable.table.size ≤ (ScratchLayout.of scratchSizes config.slotCount).totalSize := by
    have start : (ScratchLayout.of scratchSizes config.slotCount).entropyOffset = 0 := rfl
    have front : EntropyTable.byteCount ≤
        (ScratchLayout.of scratchSizes config.slotCount).commonExtent := by
      show EntropyTable.byteCount ≤ (ScratchLayout.of scratchSizes 1).commonExtent
      decide
    rw [start, EntropyTable.size_table, (ScratchLayout.fits_of_valid valid).totalSize_eq,
      ScratchLayout.extent]
    omega
  let blank := Buffer.blank ⟨board.memory.nextHandle⟩
    (ScratchLayout.of scratchSizes config.slotCount).totalSize
  have stored := Buffer.write_of_le blank fits
  have taken := @takeScratch_of_ok SimulatedDevice Arena _
    (.of scratchSizes config.slotCount) board _ _ memory memory granted stored rfl
  rcases initialise_cases config reporting (idle board) with
    ⟨fault, refused, -⟩ | ⟨fault, left, -, refused, -⟩ | ⟨scratch, left, -, took, ran⟩
  · cases valid.symm.trans refused
  · cases taken.symm.trans refused
  · have whole := Session.Whole.opened took reporting
    cases taken.symm.trans took
    refine ⟨_, memory, _, granted, rfl, ⟨_, rfl⟩, ran, .opened valid reporting _ _, whole,
      ⟨still, willing.device⟩, ?_⟩
    show ∀ buffer ∈ (LineBufferCache.empty Layout.lineBufferRegisters).buffers,
      buffer.offset < Numeral.bound32
    decide

end Decoder

/-! ### A board and tasks to try things out on -/

/-- A simulated board at rest with a picture store of the given size; no buffer is out. -/
def Board.atRest (slots width height : Nat) : Board SimulatedDevice Arena :=
  { device := .idle .done
    memory := {}
    frames := .ofSize slots width height .nv12 }

/-- A task for a picture of the given size that refers to no other picture. -/
def Task.ofSize (id width height : Nat) : Task :=
  let sequence : SequenceParameters := {}
  { id
    stream := ⟨1⟩
    streamLength := 4096
    outputSlot := 0
    coded := { picture := { sequence := sequence.withSize width height } } }

/-- The task, once it has the pipeline slot of the given index. -/
def Task.placed (task : Task) (index : Nat) : Task :=
  { task with slot := some index }

theorem Session.shapeOf_ofSize {δ α : Type} {session : Session δ α}
    (uncompressed : session.compressed = false) (id width height : Nat) :
    session.shapeOf (Task.ofSize id width height).coded.picture =
      ⟨width, height, 8, 1, false, false⟩ := by
  unfold shapeOf
  rw [uncompressed]
  rfl

/-- On a board at rest a decoder can be initialised with any valid settings; its scratch buffer is
the only buffer that is out. -/
theorem Decoder.initialise_atRest {config : Config} (valid : config.validate = .ok ())
    (reporting : Bool) (slots width height : Nat) :
    ∃ session : Session SimulatedDevice Arena,
      initialise config reporting (idle (Board.atRest slots width height)) =
        .ok (capability config) (working session) ∧
      session.Able ∧
      session.slots = .ofDepth config.slotCount (fun _ => .fresh config) ∧
      session.board.device = .idle .done ∧
      session.board.frames = .ofSize slots width height .nv12 ∧
      session.compressed = false ∧
      session.reporting = reporting ∧
      session.scratch.handle = ⟨10⟩ ∧
      session.supply = ⟨.empty Layout.lineBufferRegisters, .empty,
        { nextHandle := 11
          live := [(⟨10⟩, (ScratchLayout.of scratchSizes config.slotCount).totalSize)]
          sizes := [(ScratchLayout.of scratchSizes config.slotCount).totalSize] }⟩ := by
  obtain ⟨scratch, memory, left, granted, handle, ⟨journal, rfl⟩, ran, able⟩ :=
    @initialise_of_willing _ valid reporting (Board.atRest slots width height) ⟨rfl, rfl⟩
  have asked : Arena.alloc (ScratchLayout.of scratchSizes config.slotCount).totalSize
      (Board.atRest slots width height).memory =
      .ok (.blank ⟨10⟩ (ScratchLayout.of scratchSizes config.slotCount).totalSize)
        { nextHandle := 11
          live := [(⟨10⟩, (ScratchLayout.of scratchSizes config.slotCount).totalSize)]
          sizes := [(ScratchLayout.of scratchSizes config.slotCount).totalSize] } := rfl
  injection granted.symm.trans asked with _ same
  exact ⟨_, ran, able, rfl, rfl, rfl, rfl, rfl, handle, by rw [same]; rfl⟩

/-- On a board at rest the first picture gets slot 0, and the device takes it. -/
theorem Session.first_picture
    (surroundings : Board SimulatedDevice Arena → Board SimulatedDevice Arena → Prop) :
    ∃ opened generated started : Session SimulatedDevice Arena, ∃ content,
      Reachable surroundings opened ∧
      generate (.ofSize 0 64 64) opened = .ok ((Task.ofSize 0 64 64).placed 0) generated ∧
      generated.slots.get? 0 = some ⟨true, .built, content⟩ ∧ content.task = some 0 ∧
      start ((Task.ofSize 0 64 64).placed 0) generated = .ok () started ∧
      started.Able ∧ started.reporting = true ∧
      started.slots.get? 0 = some ⟨true, .submitted, content⟩ ∧
      started.board.device.inFlight = [.done] ∧ started.slots.inUse = 1 ∧
      opened.slots = .ofDepth 3 (fun _ => .fresh {}) := by
  obtain ⟨opened, initialised, able, slots, device, -, compressed, reporting, -, -⟩ :=
    @Decoder.initialise_atRest {} rfl true 1 64 64
  have run : Run surroundings (.idle (Board.atRest 1 64 64)) _ _ :=
    .call .nil (.initialise {} true)
  rw [Call.next_initialise, initialised, Action.after_ok] at run
  have free : opened.slots.FirstFree 0 ⟨false, .idle, .fresh {}⟩ := by
    rw [slots]
    exact SlotPool.ofDepth_firstFree (by decide) _
  obtain ⟨supply₁, scratch, content, journal, prepares, generated, able₁⟩ :=
    @generate_of_able _ able (.ofSize 0 64 64) rfl (fun _ => nofun) _ _ free (by
      rw [shapeOf_ofSize compressed]
      decide)
  have there := SlotPool.get?_put_self free.found ⟨true, .built, content⟩
  have owns : (opened.settle 0 ⟨true, .built, content⟩ supply₁ scratch journal).Owns
      ((Task.ofSize 0 64 64).placed 0) .built 0 ⟨true, .built, content⟩ :=
    ⟨rfl, there, rfl, prepares.serves, rfl⟩
  obtain ⟨taken, later, sends, started, able₂⟩ :=
    @start_of_able _ able₁ ((Task.ofSize 0 64 64).placed 0) rfl _ _ owns
  refine ⟨opened, _, _, content, ⟨_, _, run⟩, generated, there, prepares.serves, started, able₂,
    reporting, SlotPool.get?_put_self there _, ?_, ?_, slots⟩
  · show taken.inFlight = _
    rw [sends.inFlight]
    show opened.board.device.inFlight ++ [opened.board.device.nextCompletion] = _
    rw [device]
    rfl
  · show ((opened.slots.put 0 _).put 0 _).inUse = 1
    rw [SlotPool.put_put, slots]
    rfl

/-- A board at rest whose device ends its first two tasks in the given ways. -/
def Board.scripted (first second : Completion) : Board SimulatedDevice Arena :=
  { Board.atRest 1 64 64 with
    device := { SimulatedDevice.idle .done with script := [first, second] } }

namespace Session

/-- Pictures 0 and 1 got slots 0 and 1 and were handed to the device, one after the other. The
sessions are those before each of the four calls and after the last. -/
structure TwoStarted (early late : Completion)
    (opened one two three started : Session SimulatedDevice Arena) : Prop where
  initialised : Decoder.initialise {} true (.idle (Board.scripted early late)) =
    .ok (Decoder.capability {}) (.working opened)
  first : generate (.ofSize 0 64 64) opened = .ok ((Task.ofSize 0 64 64).placed 0) one
  second : generate (.ofSize 1 64 64) one = .ok ((Task.ofSize 1 64 64).placed 1) two
  third : start ((Task.ofSize 0 64 64).placed 0) two = .ok () three
  fourth : start ((Task.ofSize 1 64 64).placed 1) three = .ok () started
  next : two.board.device.nextCompletion = early ∧ three.board.device.nextCompletion = late
  able : started.Able
  reporting : started.reporting = true
  reports : started.board.reports = #[]
  inFlight : started.board.device.inFlight = [early, late]
  owns : ∀ n < 2, ∃ slot, started.Owns ((Task.ofSize n 64 64).placed n) .submitted n slot

/-- Registers can be built for two pictures, in slots 0 and 1, without a word to the device. -/
theorem two_built (early late : Completion) :
    ∃ opened one two : Session SimulatedDevice Arena, ∃ left right : Slot SlotContent,
      Decoder.initialise {} true (.idle (Board.scripted early late)) =
        .ok (Decoder.capability {}) (.working opened) ∧
      generate (.ofSize 0 64 64) opened = .ok ((Task.ofSize 0 64 64).placed 0) one ∧
      generate (.ofSize 1 64 64) one = .ok ((Task.ofSize 1 64 64).placed 1) two ∧
      two.Able ∧ two.Owns ((Task.ofSize 0 64 64).placed 0) .built 0 left ∧
      two.Owns ((Task.ofSize 1 64 64).placed 1) .built 1 right ∧
      two.board.device = (Board.scripted early late).device ∧
      two.board.reports = #[] ∧ two.reporting = true := by
  obtain ⟨scratch, memory, left, granted, handle, ⟨journal, rfl⟩, initialised, able⟩ :=
    @Decoder.initialise_of_willing {} rfl true (Board.scripted early late) ⟨rfl, rfl⟩
  let opened := Session.opened {} true scratch { Board.scripted early late with memory, journal }
  have free : opened.slots.FirstFree 0 ⟨false, .idle, .fresh {}⟩ :=
    SlotPool.ofDepth_firstFree (by decide) _
  obtain ⟨supply, scratch₁, content, journal₁, prepares, first, able₁⟩ :=
    @generate_of_able _ able (.ofSize 0 64 64) rfl (fun _ => nofun) _ _ free (by
      rw [shapeOf_ofSize rfl]
      decide)
  have there := SlotPool.get?_put_self free.found ⟨true, .built, content⟩
  -- The first slot is taken, so that the second picture gets the next one.
  let one := opened.settle 0 ⟨true, .built, content⟩ supply scratch₁ journal₁
  have free₁ : one.slots.FirstFree 1 ⟨false, .idle, .fresh {}⟩ :=
    { found := by
        show (SlotPool.put _ 0 _).get? 1 = _
        rw [SlotPool.get?_put_of_ne _ (by decide)]
        exact SlotPool.get?_ofDepth (by decide) _
      free := rfl
      least := fun other before => by
        obtain rfl : other = 0 := by omega
        exact ⟨_, there, rfl⟩ }
  have unheld : ∀ index, (Task.ofSize 1 64 64).slot = some index →
      one.holds index (Task.ofSize 1 64 64).id = false := fun _ => nofun
  obtain ⟨supply₂, scratch₂, content₂, journal₂, prepares₂, second, able₂⟩ :=
    @generate_of_able _ able₁ (.ofSize 1 64 64) rfl unheld _ _ free₁ (by
      rw [shapeOf_ofSize rfl]
      decide)
  refine ⟨opened, one, _, ⟨true, .built, content⟩, ⟨true, .built, content₂⟩, initialised, first,
    second, able₂, ?_, ?_, rfl, rfl, rfl⟩
  · exact ⟨rfl, (SlotPool.get?_put_of_ne _ (by decide) _).trans there, rfl, prepares.serves, rfl⟩
  · exact ⟨rfl, SlotPool.get?_put_self free₁.found _, rfl, prepares₂.serves, rfl⟩

theorem two_started (early late : Completion) :
    ∃ opened one two three started, TwoStarted early late opened one two three started := by
  obtain ⟨opened, one, two, left, right, initialised, first, second, able, owns₀, owns₁, rest,
    reports, reporting⟩ := two_built early late
  obtain ⟨device, journal, sends, third, able₃⟩ :=
    @start_of_able _ able ((Task.ofSize 0 64 64).placed 0) rfl _ _ owns₀
  let three := two.redevice device 0 ⟨true, .submitted, left.content⟩ journal
  have kept₁ : three.Owns ((Task.ofSize 1 64 64).placed 1) .built 1 right :=
    owns₁.of_put rfl (by decide)
  obtain ⟨device', journal', sends', fourth, able₄⟩ :=
    @start_of_able _ able₃ ((Task.ofSize 1 64 64).placed 1) rfl _ _ kept₁
  have submitted : three.Owns ((Task.ofSize 0 64 64).placed 0) .submitted 0
      ⟨true, .submitted, left.content⟩ :=
    ⟨rfl, SlotPool.get?_put_self owns₀.found _, rfl, owns₀.serves, rfl⟩
  have early_next : two.board.device.nextCompletion = early := by
    rw [rest]
    rfl
  have late_next : three.board.device.nextCompletion = late := by
    show device.script.headD device.usual = late
    rw [sends.script, rest]
    rfl
  refine ⟨opened, one, two, three, _, initialised, first, second, third, fourth,
    ⟨early_next, late_next⟩, able₄, reporting, reports, ?_, fun n low => ?_⟩
  · show device'.inFlight = _
    rw [sends'.inFlight]
    show device.inFlight ++ [three.board.device.nextCompletion] = _
    rw [late_next, sends.inFlight, early_next, rest]
    rfl
  match n, low with
  | 0, _ => exact ⟨_, submitted.of_put rfl (by decide)⟩
  | 1, _ => exact ⟨_, rfl, SlotPool.get?_put_self kept₁.found _, rfl, owns₁.serves, rfl⟩

/-- The four calls, and the sessions they were made on. -/
def twoCalls (opened one two three : Session SimulatedDevice Arena) :
    List (Moment SimulatedDevice Arena) :=
  [⟨.working opened, .generate (.ofSize 0 64 64)⟩, ⟨.working one, .generate (.ofSize 1 64 64)⟩,
    ⟨.working two, .start ((Task.ofSize 0 64 64).placed 0)⟩,
    ⟨.working three, .start ((Task.ofSize 1 64 64).placed 1)⟩]

theorem continues_twoCalls {opened one two three : Session SimulatedDevice Arena} :
    ∀ moment ∈ twoCalls opened one two three, moment.call.Continues := by
  intro moment member
  simp only [twoCalls, List.mem_cons, List.not_mem_nil, or_false] at member
  rcases member with rfl | rfl | rfl | rfl <;> trivial

theorem TwoStarted.run {early late : Completion}
    {opened one two three started : Session SimulatedDevice Arena}
    (two_started : TwoStarted early late opened one two three started)
    (surroundings : Board SimulatedDevice Arena → Board SimulatedDevice Arena → Prop) :
    Run surroundings (.working opened) (twoCalls opened one two three) (.working started) := by
  have first : Run surroundings (.working opened) _ _ :=
    .call .nil (.generate (.ofSize 0 64 64))
  rw [Call.next_generate, two_started.first, Action.after_ok] at first
  have second := first.call (.generate (.ofSize 1 64 64))
  rw [Call.next_generate, two_started.second, Action.after_ok] at second
  have third := second.call (.start ((Task.ofSize 0 64 64).placed 0))
  rw [Call.next_start, two_started.third, Action.after_ok] at third
  have fourth := third.call (.start ((Task.ofSize 1 64 64).placed 1))
  rw [Call.next_start, two_started.fourth, Action.after_ok] at fourth
  exact fourth

end Session

end VideoAccel
