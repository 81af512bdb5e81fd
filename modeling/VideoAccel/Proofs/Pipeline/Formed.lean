import VideoAccel.Proofs.Pipeline.Run

/-!
The shape that every session keeps.

The settings are valid, the scratch buffer is divided for as many slots as there are, the line
buffers have their own address registers, every register file has its full length, and a slot is in
use exactly when its stage is not idle. Opening a session establishes this (`Formed.opened`), every
call keeps it, and so every session that a run can reach has it (`Reachable.formed`).
-/

namespace VideoAccel

variable {δ α : Type}

/-- A slot has a full register file, and it is in use exactly when its stage is not idle; in use it
serves a task. -/
structure Slot.Formed (slot : Slot SlotContent) : Prop where
  file : slot.content.file.size = Layout.fileBytes
  stage : slot.taken = true ↔ slot.stage ≠ .idle
  serves : slot.taken = true → ∃ id, slot.content.task = some id

/-- A slot that was given back with a full register file is formed. -/
theorem Slot.Formed.idle {content : SlotContent} (full : content.file.size = Layout.fileBytes) :
    Slot.Formed ⟨false, .idle, content⟩ :=
  ⟨full, ⟨fun impossible => Bool.noConfusion impossible, fun busy => absurd rfl busy⟩,
    fun impossible => Bool.noConfusion impossible⟩

/-- A slot in use with a full register file and a task is formed. -/
theorem Slot.Formed.busy {content : SlotContent} {stage : Stage} {id : Nat}
    (full : content.file.size = Layout.fileBytes) (busy : stage ≠ .idle)
    (serves : content.task = some id) : Slot.Formed ⟨true, stage, content⟩ :=
  ⟨full, ⟨fun _ => busy, fun _ => rfl⟩, fun _ => ⟨id, serves⟩⟩

/-- A free slot is in no stage but idle. -/
theorem Slot.Formed.stage_of_free {slot : Slot SlotContent} (formed : slot.Formed)
    (free : slot.taken = false) : slot.stage = .idle := by
  refine Classical.byContradiction fun busy => ?_
  cases free.symm.trans (formed.stage.mpr busy)

/-- Valid settings ask for few slots. -/
theorem Config.slotCount_le {config : Config} (valid : config.validate = .ok ()) :
    config.slotCount ≤ maxDepth := by
  obtain ⟨positive, few⟩ := validate_eq_ok_iff.mp valid
  unfold slotCount
  split
  · exact few
  · decide

/-- A scratch buffer for few slots is far from the size at which offsets wrap. -/
theorem ScratchLayout.extent_lt {slotCount : Nat} (few : slotCount ≤ Config.maxDepth) :
    (of scratchSizes slotCount).extent < Numeral.bound32 := by
  have copies : (of scratchSizes slotCount).copies ≤ Config.maxDepth := Nat.max_le.mpr ⟨few, by decide⟩
  calc (of scratchSizes slotCount).extent
      ≤ (of scratchSizes slotCount).commonExtent +
          Config.maxDepth * (of scratchSizes slotCount).regionExtent :=
        Nat.add_le_add_left (Nat.mul_le_mul_right _ copies) _
    _ = (of scratchSizes Config.maxDepth).extent := rfl
    _ < Numeral.bound32 := by decide

theorem ScratchLayout.fits_of_valid {config : Config} (valid : config.validate = .ok ()) :
    (of scratchSizes config.slotCount).Fits :=
  Nat.lt_trans (extent_lt (Config.slotCount_le valid)) (by decide)

namespace Session

structure Formed (session : Session δ α) : Prop where
  valid : session.config.validate = .ok ()
  layout : session.layout = .of scratchSizes session.config.slotCount
  capacity : session.slots.capacity = session.config.slotCount
  registers : session.lines.registers = LineBufferClass.all.zip Layout.lineBufferRegisters
  slots : ∀ index slot, session.slots.get? index = some slot → slot.Formed

theorem Formed.sizes {session : Session δ α} (formed : session.Formed) :
    session.layout.sizes = scratchSizes := by
  rw [formed.layout]
  rfl

/-- The offsets into a decoder's scratch buffer do not wrap. -/
theorem Formed.fits {session : Session δ α} (formed : session.Formed) : session.layout.Fits := by
  rw [formed.layout]
  exact ScratchLayout.fits_of_valid formed.valid

theorem Formed.index_lt {session : Session δ α} (formed : session.Formed) {index : Nat}
    {slot : Slot SlotContent} (found : session.slots.get? index = some slot) :
    index < session.layout.copies := by
  obtain ⟨inside, -⟩ := List.getElem?_eq_some_iff.mp found
  have capacity := formed.capacity
  rw [formed.layout]
  exact Nat.lt_of_lt_of_le (capacity ▸ inside) (Nat.le_max_left ..)

/-- Building on a formed session is building with sound pointers. -/
theorem Formed.sound {session : Session δ α} {supply : Supply α}
    (registers : supply.lines.registers = LineBufferClass.all.zip Layout.lineBufferRegisters)
    (index : Nat) (task : Task) : (session.jobWith index task supply).Sound where
  lines buffer member := by
    have known : (buffer.cls, buffer.reg) ∈ LineBufferClass.all.zip Layout.lineBufferRegisters := by
      rw [← registers]
      exact List.mem_map_of_mem member
    exact (List.of_mem_zip known).2
  references := by
    show (Picture.fillReferences _ _ _).length = _
    rw [Picture.length_fillReferences, List.length_range]

theorem Formed.opened {config : Config} (valid : config.validate = .ok ()) (reporting : Bool)
    (scratch : Buffer) (board : Board δ α) :
    (Session.opened config reporting scratch board).Formed where
  valid := valid
  layout := rfl
  capacity := SlotPool.capacity_ofDepth ..
  registers := by
    show (LineBufferCache.empty Layout.lineBufferRegisters).registers = _
    decide
  slots index slot found := by
    have known : slot ∈ (SlotPool.ofDepth config.slotCount fun _ => SlotContent.fresh config).slots :=
      List.mem_of_getElem? found
    obtain ⟨i, -, rfl⟩ := List.mem_map.mp known
    apply Slot.Formed.idle
    simp only [SlotContent.fresh, freshFile, Assignment.size_store, Bytes.size_zeros,
      Layout.fileBytes]

/-- A session stays formed when one slot is replaced by a formed one. -/
theorem Formed.of_put {before after : Session δ α} (formed : before.Formed)
    (config : after.config = before.config) (layout : after.layout = before.layout)
    (registers : after.lines.registers = before.lines.registers) {index : Nat}
    {slot : Slot SlotContent} (slots : after.slots = before.slots.put index slot)
    (good : slot.Formed) : after.Formed where
  valid := config ▸ formed.valid
  layout := by rw [layout, config, formed.layout]
  capacity := by rw [slots, config, SlotPool.capacity_put, formed.capacity]
  registers := registers.trans formed.registers
  slots other final found := by
    rw [slots] at found
    rcases SlotPool.get?_put_cases found with ⟨-, rfl⟩ | ⟨-, before⟩
    · exact good
    · exact formed.slots other final before

theorem Formed.of_same {before after : Session δ α} (formed : before.Formed)
    (config : after.config = before.config) (layout : after.layout = before.layout)
    (registers : after.lines.registers = before.lines.registers)
    (slots : after.slots = before.slots) : after.Formed where
  valid := config ▸ formed.valid
  layout := by rw [layout, config, formed.layout]
  capacity := by rw [slots, config, formed.capacity]
  registers := registers.trans formed.registers
  slots := slots ▸ formed.slots

/-! ### Every call keeps a session formed -/

theorem Formed.reported {session : Session δ α} (formed : session.Formed) (report : Report) :
    (session.reported report).Formed := by
  unfold Session.reported
  split
  · exact formed.of_same rfl rfl rfl rfl
  · exact formed

section Memory

variable [Allocator α]

theorem registers_provision {session : Session δ α} {picture : Picture} {supply : Supply α}
    (after : Action.after (session.provision picture session.supply) = supply) :
    supply.lines.registers = session.lines.registers := by
  rw [← after]
  exact (session.provision_spec picture).registers

/-- What preparing a task leaves in place. -/
theorem Formed.prepares {session : Session δ α} (formed : session.Formed) {index : Nat} {task : Task}
    {content final : SlotContent} {outcome : Except Fault Unit} {supply : Supply α}
    {scratch : Buffer} (prepares : Prepares session index task content outcome supply scratch final)
    (full : content.file.size = Layout.fileBytes) :
    supply.lines.registers = session.lines.registers ∧ final.file.size = Layout.fileBytes := by
  have sound : ∀ {supply : Supply α}, supply.lines.registers = session.lines.registers →
      (session.jobWith index task supply).Sound := fun same =>
    Formed.sound (same.trans formed.registers) index task
  cases prepares with
  | starved refused =>
      exact ⟨registers_provision (by rw [refused, Action.after_error]), full⟩
  | unbuilt granted refused =>
      have same := registers_provision (by rw [granted, Action.after_ok])
      exact ⟨same, ((Draft.build_confined (sound same)).error refused).size.trans full⟩
  | unsynced granted built refused =>
      have same := registers_provision (by rw [granted, Action.after_ok])
      exact ⟨same, ((Draft.build_confined (sound same)).ok built).size.trans full⟩
  | ready granted built synced =>
      have same := registers_provision (by rw [granted, Action.after_ok])
      exact ⟨same, ((Draft.build_confined (sound same)).ok built).size.trans full⟩

/-- Whatever preparing a task ended in, its registers are built from sound pointers. -/
theorem Formed.prepares_sound {session : Session δ α} (formed : session.Formed) {index : Nat}
    {task : Task} {content final : SlotContent} {outcome : Except Fault Unit} {supply : Supply α}
    {scratch : Buffer} (prepares : Prepares session index task content outcome supply scratch final)
    (full : content.file.size = Layout.fileBytes) : (session.jobWith index task supply).Sound :=
  Formed.sound ((formed.prepares prepares full).1.trans formed.registers) index task

theorem Formed.generates {session later : Session δ α} {task : Task} {outcome : Except Fault Task}
    (formed : session.Formed) (generates : Generates session task outcome later) :
    later.Formed := by
  cases generates with
  | skipped flagged journal => exact formed.of_same rfl rfl rfl rfl
  | held unflagged names holds => exact formed
  | full unflagged unheld busy => exact formed
  | failed unflagged unheld first prepares journal =>
      have full := (formed.slots _ _ first.found).file
      obtain ⟨registers, file⟩ := formed.prepares prepares full
      exact formed.of_put rfl rfl registers rfl (.idle file)
  | built unflagged unheld first prepares journal =>
      have full := (formed.slots _ _ first.found).file
      obtain ⟨registers, file⟩ := formed.prepares prepares full
      exact formed.of_put rfl rfl registers rfl (.busy file (by decide) prepares.serves)

end Memory

section Hardware

variable [Device δ]

theorem Formed.starts {session later : Session δ α} {task : Task} {outcome : Except Fault Unit}
    (formed : session.Formed) (starts : Starts session task outcome later) : later.Formed := by
  cases starts with
  | skipped flagged journal => exact formed.of_same rfl rfl rfl rfl
  | refused unflagged misdirected kind => exact formed
  | failed unflagged owns refused journal =>
      exact formed.of_put rfl rfl rfl rfl (.idle (formed.slots _ _ owns.found).file)
  | started unflagged owns accepted journal =>
      exact formed.of_put rfl rfl rfl rfl
        (.busy (formed.slots _ _ owns.found).file (by decide) owns.serves)

theorem Formed.waits {session later : Session δ α} {task : Task} {outcome : Except Fault Unit}
    (formed : session.Formed) (waits : Waits session task outcome later) : later.Formed := by
  cases waits with
  | skipped flagged => exact formed.reported _
  | refused unflagged misdirected kind => exact formed
  | @lost unflagged index slot owns fault device silent journal =>
      have file : (Layout.status.set 0 slot.content.file).size = Layout.fileBytes :=
        (Field.size_set ..).trans (formed.slots _ _ owns.found).file
      have settled : (session.redevice device index
          ⟨false, .idle, slot.content.withFile (Layout.status.set 0 slot.content.file)⟩
          journal).Formed := formed.of_put rfl rfl rfl rfl (.idle file)
      exact settled.reported _
  | @finished unflagged index slot owns status file device collected stored journal =>
      have file : (Layout.status.set 0 file).size = Layout.fileBytes := by
        rw [Field.size_set, stored, Section.size_store]
        exact (formed.slots _ _ owns.found).file
      have settled : (session.redevice device index
          ⟨false, .idle, slot.content.withFile (Layout.status.set 0 _)⟩ journal).Formed :=
        formed.of_put rfl rfl rfl rfl (.idle file)
      exact settled.reported _

end Hardware

theorem Formed.commanded {session : Session δ α} (formed : session.Formed) {compressed : Bool}
    {stride : StrideRule} {journal : Journal} :
    (session.commanded compressed stride journal).Formed := by
  refine formed.of_same rfl rfl ?_ rfl
  show LineBufferCache.registers (if _ then _ else _) = _
  split <;> rfl

end Session

section Runs

variable [Device δ] [Allocator α] {surroundings : Board δ α → Board δ α → Prop}

/-- Every session that a run reaches from a formed one, or from an idle decoder, is formed. -/
theorem Run.formed {first : Decoder δ α} {moments : List (Moment δ α)} {session : Session δ α}
    (run : Run surroundings first moments (.working session))
    (begins : ∀ session, first = .working session → session.Formed) : session.Formed :=
  run.invariant (fun _ reporting scratch board valid => .opened valid reporting scratch board)
    Session.Formed.generates Session.Formed.starts Session.Formed.waits
    (fun formed => formed.commanded) (fun formed => formed.of_same rfl rfl rfl rfl) begins session rfl

theorem Reachable.formed {session : Session δ α} (reached : Reachable surroundings session) :
    session.Formed := by
  obtain ⟨board, moments, run⟩ := reached
  exact run.formed fun _ impossible => by cases impossible

end Runs

end VideoAccel
