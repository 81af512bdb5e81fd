import VideoAccel.Pipeline.Decoder
import VideoAccel.Proofs.Pipeline.Prepare

/-!
What each call of a session comes to.

`Generates`, `Starts` and `Waits` list the ways in which the three calls of a task's life can end,
each with its outcome and with the session it leaves; `generate_spec`, `start_spec` and `wait_spec`
say that there are no others. A `generate` prepares the tasks that it admits and turns the others away
(`Generates.admission`). For a task that has its slot the device decides how it goes on:
`start_of_refusal`, `start_of_accepted`, `wait_of_silent` and `wait_of_collected`. Together with
`control_run` this is all that later proofs need to know about the calls. The journal is not
described, since nothing reads it.
-/

namespace VideoAccel.Session

variable {δ α : Type}

/-- The session with another journal. -/
def recorded (session : Session δ α) (journal : Journal) : Session δ α :=
  { session with board := { session.board with journal } }

/-- The task names a slot, and that slot serves it in the given stage. -/
structure Owns (session : Session δ α) (task : Task) (stage : Stage) (index : Nat)
    (slot : Slot SlotContent) : Prop where
  names : task.slot = some index
  found : session.slots.get? index = some slot
  taken : slot.taken = true
  serves : slot.content.task = some task.id
  stage : slot.stage = stage

/-- A task owns one slot only. -/
theorem Owns.unique {session : Session δ α} {task : Task} {stage other : Stage} {index own : Nat}
    {slot mine : Slot SlotContent} (first : session.Owns task stage index slot)
    (second : session.Owns task other own mine) : index = own ∧ slot = mine := by
  obtain rfl : index = own := Option.some.inj (first.names.symm.trans second.names)
  exact ⟨rfl, Option.some.inj (first.found.symm.trans second.found)⟩

/-- A task keeps its slot when another one is put in place. -/
theorem Owns.of_put {before after : Session δ α} {task : Task} {stage : Stage} {index own : Nat}
    {slot other : Slot SlotContent} (owns : before.Owns task stage index slot)
    (slots : after.slots = before.slots.put own other) (ne : own ≠ index) :
    after.Owns task stage index slot where
  names := owns.names
  found := by
    rw [slots, SlotPool.get?_put_of_ne _ ne]
    exact owns.found
  taken := owns.taken
  serves := owns.serves
  stage := owns.stage

/-- A task works only in a slot that serves it. -/
theorem Owns.ne {session : Session δ α} {task : Task} {stage : Stage} {own index id : Nat}
    {mine slot : Slot SlotContent} (owns : session.Owns task stage own mine)
    (found : session.slots.get? index = some slot) (serves : slot.content.task = some id)
    (other : task.id ≠ id) : own ≠ index := by
  rintro rfl
  have same := owns.found
  rw [found] at same
  cases same
  have mine := owns.serves
  rw [serves] at mine
  cases mine
  exact other rfl

theorem holds_iff {session : Session δ α} {index task : Nat} :
    session.holds index task = true ↔
      ∃ slot, session.slots.get? index = some slot ∧ slot.taken = true ∧
        slot.content.task = some task := by
  unfold holds
  cases session.slots.get? index with
  | none => simp
  | some slot => simp

/-- A task owns its slot, or it is refused and nothing happens. -/
theorem ownedSlot_cases (session : Session δ α) (task : Task) (needed : Stage) :
    (∃ index slot, session.Owns task needed index slot ∧
      ownedSlot task needed session = .ok index session) ∨
    ((∀ index slot, ¬ session.Owns task needed index slot) ∧
      ∃ fault, fault.kind = .invalidState ∧ ownedSlot task needed session = .error fault session) := by
  cases names : task.slot with
  | none =>
      right
      refine ⟨?_, .registersMissing task.id, rfl, by rw [ownedSlot, names]⟩
      intro index slot owns
      have := owns.names
      rw [names] at this
      cases this
  | some index =>
      cases found : session.slots.get? index with
      | none =>
          right
          refine ⟨?_, .slotMissing task.id index, rfl, by simp only [ownedSlot, names, found]⟩
          intro other slot owns
          have same := owns.names
          rw [names] at same
          cases same
          have := owns.found
          rw [found] at this
          cases this
      | some slot =>
          have only : ∀ other otherSlot, session.Owns task needed other otherSlot →
              slot.taken = true ∧ slot.content.task = some task.id ∧ slot.stage = needed := by
            intro other otherSlot owns
            have same := owns.names
            rw [names] at same
            cases same
            have same := owns.found
            rw [found] at same
            cases same
            exact ⟨owns.taken, owns.serves, owns.stage⟩
          by_cases holds : session.holds index task.id = true
          · have mine := holds_iff.mp holds
            obtain ⟨own, same, taken, serves⟩ := mine
            rw [found] at same
            cases same
            by_cases stage : slot.stage = needed
            · left
              refine ⟨index, slot, ⟨names, found, taken, serves, stage⟩, ?_⟩
              simp [ownedSlot, names, found, holds, stage]
            · right
              refine ⟨fun other otherSlot owns => stage (only other otherSlot owns).2.2,
                .slotStage task.id index slot.stage needed, rfl, ?_⟩
              simp [ownedSlot, names, found, holds, stage]
          · right
            refine ⟨?_, .slotForeign index task.id slot.content.task, rfl, ?_⟩
            · intro other otherSlot owns
              obtain ⟨taken, serves, -⟩ := only other otherSlot owns
              exact holds (holds_iff.mpr ⟨slot, found, taken, serves⟩)
            · simp [ownedSlot, names, found, holds]

/-- The ownership check answers with the slot that the task owns. -/
theorem Owns.passes {session : Session δ α} {task : Task} {stage : Stage} {index : Nat}
    {slot : Slot SlotContent} (owns : session.Owns task stage index slot) :
    ownedSlot task stage session = .ok index session := by
  rcases ownedSlot_cases session task stage with ⟨own, mine, other, ran⟩ | ⟨none, -⟩
  · obtain ⟨rfl, rfl⟩ := owns.unique other
    exact ran
  · exact absurd owns (none index slot)

/-! ### Generating -/

theorem settle_modify {session : Session δ α} {index : Nat} {old : Slot SlotContent}
    (found : session.slots.get? index = some old) (slot : Slot SlotContent) (supply : Supply α)
    (scratch : Buffer) (journal : Journal) (change : Slot SlotContent → Slot SlotContent) :
    { session.settle index slot supply scratch journal with
        slots := (session.settle index slot supply scratch journal).slots.modify index change } =
      session.settle index (change slot) supply scratch journal := by
  unfold settle
  simp only
  rw [SlotPool.modify_eq_put (SlotPool.get?_put_self found slot), SlotPool.put_put]

section Memory

variable [Allocator α]

/-- How generating a task's registers can end. -/
inductive Generates (session : Session δ α) (task : Task) :
    Except Fault Task → Session δ α → Prop where
  /-- The task carries error flags. -/
  | skipped (flagged : task.flags.hasError = true) (journal : Journal) :
      Generates session task (.ok { task with slot := none }) (session.recorded journal)
  /-- The task already holds a slot. -/
  | held (unflagged : task.flags.hasError = false) {index : Nat} (names : task.slot = some index)
      (holds : session.holds index task.id = true) :
      Generates session task (.error (.slotHeld task.id index)) session
  /-- Every slot is taken. -/
  | full (unflagged : task.flags.hasError = false)
      (unheld : ∀ index, task.slot = some index → session.holds index task.id = false)
      (busy : ∀ index slot, session.slots.get? index = some slot → slot.taken = true) :
      Generates session task
        (.error (if session.config.fastMode then .pipelineFull session.slots.capacity
          else .previousTaskPending)) session
  /-- Preparing is refused; the slot is free again. -/
  | failed (unflagged : task.flags.hasError = false)
      (unheld : ∀ index, task.slot = some index → session.holds index task.id = false)
      {index : Nat} {slot : Slot SlotContent} (first : session.slots.FirstFree index slot)
      {fault : Fault} {supply : Supply α} {scratch : Buffer} {content : SlotContent}
      (prepares : Prepares session index task slot.content (.error fault) supply scratch content)
      (journal : Journal) :
      Generates session task (.error fault)
        (session.settle index ⟨false, .idle, content⟩ supply scratch journal)
  /-- The registers are built. -/
  | built (unflagged : task.flags.hasError = false)
      (unheld : ∀ index, task.slot = some index → session.holds index task.id = false)
      {index : Nat} {slot : Slot SlotContent} (first : session.slots.FirstFree index slot)
      {supply : Supply α} {scratch : Buffer} {content : SlotContent}
      (prepares : Prepares session index task slot.content (.ok ()) supply scratch content)
      (journal : Journal) :
      Generates session task (.ok { task with slot := some index })
        (session.settle index ⟨true, .built, content⟩ supply scratch journal)

/-- Preparing does not look at the slots. -/
theorem Prepares.of_slots {session : Session δ α} {slots : SlotPool SlotContent} {index : Nat}
    {task : Task} {content final : SlotContent} {outcome : Except Fault Unit} {supply : Supply α}
    {scratch : Buffer}
    (prepares : Prepares { session with slots } index task content outcome supply scratch final) :
    Prepares session index task content outcome supply scratch final := by
  cases prepares with
  | starved refused => exact .starved refused
  | unbuilt granted refused => exact .unbuilt granted refused
  | unsynced granted built refused => exact .unsynced granted built refused
  | ready granted built synced => exact .ready granted built synced

/-- The part of generating that comes after a slot was found. -/
def generateIn (index : Nat) (task : Task) : Action (Session δ α) Task := do
  match ← Action.attempt (prepare index task) with
  | .error fault =>
      releaseSlot index
      throw fault
  | .ok () =>
      changeSlots fun slots => slots.setStage index .built
      return { task with slot := some index }

theorem generate_of_unheld {session : Session δ α} {task : Task}
    (unflagged : task.flags.hasError = false)
    (unheld : ∀ index, task.slot = some index → session.holds index task.id = false) :
    generate task session = (do let index ← acquireSlot; generateIn index task) session := by
  unfold generate
  rw [if_neg (by rw [unflagged]; exact Bool.false_ne_true)]
  rw [Action.bind_of_ok (Action.get_run session)]
  cases names : task.slot with
  | none => rfl
  | some index =>
      have free := unheld index names
      simp only [free]
      rfl

theorem generateIn_spec {session : Session δ α} {index : Nat} {slot : Slot SlotContent}
    (found : session.slots.get? index = some slot) (task : Task) :
    ∃ outcome supply scratch content journal,
      Prepares session index task slot.content outcome supply scratch content ∧
      generateIn index task session =
        match outcome with
        | .error fault =>
            .error fault (session.settle index ⟨false, .idle, content⟩ supply scratch journal)
        | .ok _ =>
            .ok { task with slot := some index }
              (session.settle index { slot with stage := .built, content } supply scratch
                journal) := by
  obtain ⟨supply, scratch, content, journal, prepares, after⟩ := prepare_spec found task
  refine ⟨_, supply, scratch, content, journal, prepares, ?_⟩
  have attempted : Action.attempt (prepare index task) session =
      .ok (Action.outcome (prepare index task session))
        (session.settle index { slot with content } supply scratch journal) := by
    rw [Action.attempt, after]
  rw [generateIn, Action.bind_of_ok attempted]
  cases Action.outcome (prepare index task session) with
  | error fault =>
      have released := settle_modify found { slot with content } supply scratch journal
        fun slot => { slot with taken := false, stage := .idle }
      exact congrArg (EStateM.Result.error fault) released
  | ok done =>
      have staged := settle_modify found { slot with content } supply scratch journal
        fun slot => { slot with stage := .built }
      exact congrArg (EStateM.Result.ok { task with slot := some index }) staged

/-- Generating ends in one of these ways. -/
theorem generate_spec (session : Session δ α) (task : Task) :
    Generates session task (Action.outcome (generate task session))
      (Action.after (generate task session)) := by
  by_cases flagged : task.flags.hasError = true
  · have ran : generate task session = .ok { task with slot := none }
        (session.recorded (session.board.journal.push (.generationSkipped task.id task.flags))) := by
      unfold generate
      rw [if_pos flagged]
      rfl
    rw [ran]
    exact .skipped flagged _
  have unflagged : task.flags.hasError = false := Bool.not_eq_true _ ▸ flagged
  by_cases held : ∃ index, task.slot = some index ∧ session.holds index task.id = true
  · obtain ⟨index, names, holds⟩ := held
    have ran : generate task session = .error (.slotHeld task.id index) session := by
      unfold generate
      rw [if_neg flagged, Action.bind_of_ok (Action.get_run session)]
      simp only [names, holds]
      rfl
    rw [ran]
    exact .held unflagged names holds
  have unheld : ∀ index, task.slot = some index → session.holds index task.id = false := by
    intro index names
    cases holds : session.holds index task.id with
    | false => rfl
    | true => exact absurd ⟨index, names, holds⟩ held
  rw [generate_of_unheld unflagged unheld]
  rcases session.slots.acquire_cases with ⟨index, slot, first, acquired⟩ | ⟨busy, refused⟩
  · have took : acquireSlot session = .ok index
        { session with slots := session.slots.put index ⟨true, .idle, slot.content⟩ } := by
      rw [acquireSlot, acquired]
    rw [Action.bind_of_ok took]
    have found : ({ session with
        slots := session.slots.put index ⟨true, .idle, slot.content⟩ } : Session δ α).slots.get?
          index = some ⟨true, .idle, slot.content⟩ :=
      SlotPool.get?_put_self first.found ⟨true, .idle, slot.content⟩
    obtain ⟨outcome, supply, scratch, content, journal, prepares, ran⟩ := generateIn_spec found task
    have settled : ∀ final, ({ session with
          slots := session.slots.put index ⟨true, .idle, slot.content⟩ } : Session δ α).settle index
            final supply scratch journal = session.settle index final supply scratch journal := by
      intro final
      unfold settle resupply
      simp only [SlotPool.put_put]
    rw [ran]
    cases outcome with
    | error fault =>
        simp only [settled]
        exact .failed unflagged unheld first prepares.of_slots journal
    | ok done =>
        simp only [settled]
        exact .built unflagged unheld first prepares.of_slots journal
  · have ran : acquireSlot session = .error (if session.config.fastMode then
        .pipelineFull session.slots.capacity else .previousTaskPending) session := by
      rw [acquireSlot, refused]
    rw [Action.bind_of_error ran]
    exact .full unflagged unheld busy

end Memory

/-! ### Which tasks are admitted -/

/-- The task gets as far as readying the shared buffers: it carries no error flags, holds no slot,
and there is one for it. -/
structure Admits (session : Session δ α) (task : Task) : Prop where
  unflagged : task.flags.hasError = false
  unheld : ∀ index, task.slot = some index → session.holds index task.id = false
  free : ∃ index slot, session.slots.FirstFree index slot

/-- A `generate` finds a slot for the task. -/
def seats (session : Session δ α) (task : Task) : Bool :=
  !task.flags.hasError && !(task.slot.any fun index => session.holds index task.id) &&
    session.slots.acquire.isSome

theorem seats_iff {session : Session δ α} {task : Task} :
    session.seats task = true ↔ session.Admits task := by
  simp only [seats, Bool.and_eq_true, Bool.not_eq_true']
  constructor
  · rintro ⟨⟨unflagged, unheld⟩, acquires⟩
    refine ⟨unflagged, ?_, ?_⟩
    · intro index names
      rwa [names] at unheld
    · rcases session.slots.acquire_cases with ⟨index, slot, first, -⟩ | ⟨-, none⟩
      · exact ⟨index, slot, first⟩
      · rw [none] at acquires
        cases acquires
  · rintro ⟨unflagged, unheld, index, slot, first⟩
    refine ⟨⟨unflagged, ?_⟩, ?_⟩
    · cases names : task.slot with
      | none => rfl
      | some index => exact unheld index names
    · rw [SlotPool.acquire_of_firstFree first]
      rfl

theorem seats_eq_false_iff {session : Session δ α} {task : Task} :
    session.seats task = false ↔ ¬ session.Admits task := by
  rw [← seats_iff, Bool.not_eq_true]

/-- A `generate` turns the task away and takes no more than note of it, or prepares it in the first
free slot. -/
theorem Generates.admission [Allocator α] {session later : Session δ α} {task : Task}
    {outcome : Except Fault Task} (generates : Generates session task outcome later) :
    (¬ session.Admits task ∧ ∃ journal, later = session.recorded journal) ∨
    (session.Admits task ∧ ∃ index slot answer supply scratch content taken stage journal,
      session.slots.FirstFree index slot ∧
      Prepares session index task slot.content answer supply scratch content ∧
      later = session.settle index ⟨taken, stage, content⟩ supply scratch journal) := by
  cases generates with
  | skipped flagged journal =>
      refine .inl ⟨fun admits => ?_, journal, rfl⟩
      cases admits.unflagged.symm.trans flagged
  | @held unflagged index names held =>
      refine .inl ⟨fun admits => ?_, session.board.journal, rfl⟩
      cases (admits.unheld index names).symm.trans held
  | full unflagged unheld busy =>
      refine .inl ⟨fun admits => ?_, session.board.journal, rfl⟩
      obtain ⟨index, slot, first⟩ := admits.free
      cases first.free.symm.trans (busy index slot first.found)
  | failed unflagged unheld first prepares journal =>
      exact .inr ⟨⟨unflagged, unheld, _, _, first⟩, _, _, _, _, _, _, _, _, journal, first, prepares,
        rfl⟩
  | built unflagged unheld first prepares journal =>
      exact .inr ⟨⟨unflagged, unheld, _, _, first⟩, _, _, _, _, _, _, _, _, journal, first, prepares,
        rfl⟩

/-! ### Work on the device -/

/-- The session with another device, another slot and another journal. -/
def redevice (session : Session δ α) (device : δ) (index : Nat) (slot : Slot SlotContent)
    (journal : Journal) : Session δ α :=
  { session with
    board := { session.board with device, journal }
    slots := session.slots.put index slot }

@[simp] theorem redevice_device (session : Session δ α) (device : δ) (index : Nat)
    (slot : Slot SlotContent) (journal : Journal) :
    (session.redevice device index slot journal).board.device = device := rfl

@[simp] theorem redevice_slots (session : Session δ α) (device : δ) (index : Nat)
    (slot : Slot SlotContent) (journal : Journal) :
    (session.redevice device index slot journal).slots = session.slots.put index slot := rfl

theorem onDevice_run {β : Type} (action : Action δ β) (session : Session δ α) :
    onDevice action session =
      match action session.board.device with
      | .ok value device => .ok value { session with board := { session.board with device } }
      | .error fault device =>
          .error fault { session with board := { session.board with device } } := by
  unfold onDevice Action.on
  cases action session.board.device <;> rfl

theorem onDevice_bind {β γ : Type} (action : Action δ β) (next : β → Action δ γ) :
    (onDevice (action >>= next) : Action (Session δ α) γ) =
      onDevice action >>= fun value => onDevice (next value) :=
  Action.on_bind (fun session : Session δ α => session.board.device)
    (fun device (session : Session δ α) => { session with board := { session.board with device } })
    (fun _ _ => rfl) (fun _ _ _ => rfl) action next

theorem onDevice_forM {β : Type} (list : List β) (action : β → Action δ PUnit) :
    (onDevice (list.forM action) : Action (Session δ α) PUnit) =
      list.forM fun item => onDevice (action item) := by
  induction list with
  | nil => rfl
  | cons item rest ih =>
      show onDevice (action item >>= fun _ => rest.forM action) = _
      rw [onDevice_bind, ih]
      rfl

/-! ### Reports -/

/-- The session with a report delivered, if reports are wanted. -/
def reported (session : Session δ α) (report : Report) : Session δ α :=
  if session.reporting then
    { session with board := { session.board with reports := session.board.reports.push report } }
  else session

/-- Reporting a task changes nothing but the reports. -/
theorem reported_eq (session : Session δ α) (report : Report) :
    session.reported report =
      { session with board := { session.board with
          reports := if session.reporting then session.board.reports.push report
            else session.board.reports } } := by
  unfold reported
  split <;> rfl

theorem reports_reported (session : Session δ α) (reporting : session.reporting = true)
    (report : Report) :
    (session.reported report).board.reports = session.board.reports.push report := by
  rw [reported, if_pos reporting]

theorem reported_slots (session : Session δ α) (report : Report) :
    (session.reported report).slots = session.slots := by
  rw [reported_eq]

theorem reported_layout (session : Session δ α) (report : Report) :
    (session.reported report).layout = session.layout := by
  rw [reported_eq]

theorem reported_scratch (session : Session δ α) (report : Report) :
    (session.reported report).scratch = session.scratch := by
  rw [reported_eq]

theorem reported_device (session : Session δ α) (report : Report) :
    (session.reported report).board.device = session.board.device := by
  rw [reported_eq]

theorem deliver_run (report : Report) (session : Session δ α) :
    deliver report session = .ok () (session.reported report) := by
  rw [deliver, Action.modify_run, reported]

/-- The report on a task whose register file is as given at its end. -/
def finalReport (task : Task) (file : Bytes) (hardError : Bool) : Report :=
  { task := task.id
    outputSlot := task.outputSlot
    hardError
    skipped := false
    status := Layout.status.get file
    file }

/-- The part of waiting that comes after the device was asked. -/
def conclude (index : Nat) (task : Task) (outcome : Except Fault Unit) :
    Action (Session δ α) Unit := do
  let content ← content index
  let (hardError, event) := judge task content.file outcome
  noteSome event
  changeSlots fun slots => slots.setContent index
    { content with file := Layout.status.set 0 content.file }
  deliver (finalReport task content.file hardError)
  releaseSlot index
  Action.ofExcept outcome

theorem conclude_run {session : Session δ α} {index : Nat} {slot : Slot SlotContent}
    (found : session.slots.get? index = some slot) (task : Task) (outcome : Except Fault Unit) :
    ∃ journal, conclude index task outcome session =
      (Action.ofExcept outcome : Action (Session δ α) Unit)
        ((session.redevice session.board.device index
          ⟨false, .idle, slot.content.withFile (Layout.status.set 0 slot.content.file)⟩
          journal).reported
            (finalReport task slot.content.file (judge task slot.content.file outcome).1)) := by
  cases judged : judge task slot.content.file outcome
  rename_i hardError event
  obtain ⟨journal, noted⟩ := noteSome_run event session
  refine ⟨journal, ?_⟩
  rw [conclude, Action.bind_of_ok (content_run found)]
  simp only [judged]
  rw [Action.bind_of_ok noted]
  have filed : ∀ content, session.slots.setContent index content =
      session.slots.put index { slot with content } := SlotPool.setContent_eq_put found
  have released : ∀ content,
      ((session.slots.put index { slot with content }).release index).2 =
        session.slots.put index ⟨false, .idle, content⟩ := by
    intro content
    rw [SlotPool.release_eq_put (SlotPool.get?_put_self found _), SlotPool.put_put]
  simp only [changeSlots, releaseSlot, Bind.bind, EStateM.bind, Action.modify_run, deliver_run,
    filed]
  congr 1
  unfold reported redevice
  simp only
  cases session.reporting with
  | true => simp only [if_true, released, SlotContent.withFile]
  | false => simp only [released, SlotContent.withFile, Bool.false_eq_true, if_false]

theorem judge_ok (task : Task) (file : Bytes) :
    (judge task file (.ok ())).1 = (Verdict.ofFile file).isHardError := by
  cases hard : (Verdict.ofFile file).isHardError with
  | false => simp [judge, hard]
  | true => simp [judge, hard]

/-! ### Starting -/

section Hardware

variable [Device δ]

/-- Hands the content of a slot to the device. -/
def transmit (content : SlotContent) : Action δ Unit := do
  Layout.written.forM fun sec =>
    Device.writeRegisters sec.offset (sec.view content.file)
  Device.announcePatches content.patches
  Device.announceLineBuffers content.lineBuffers
  Device.send

/-- How starting a task can end. -/
inductive Starts (session : Session δ α) (task : Task) : Except Fault Unit → Session δ α → Prop where
  /-- The task carries error flags. -/
  | skipped (flagged : task.flags.hasError = true) (journal : Journal) :
      Starts session task (.ok ()) (session.recorded journal)
  /-- The task has no slot with built registers. -/
  | refused (unflagged : task.flags.hasError = false)
      (misdirected : ∀ index slot, ¬ session.Owns task .built index slot) {fault : Fault}
      (kind : fault.kind = .invalidState) : Starts session task (.error fault) session
  /-- The device refuses; the slot is free again. -/
  | failed (unflagged : task.flags.hasError = false) {index : Nat} {slot : Slot SlotContent}
      (owns : session.Owns task .built index slot) {fault : Fault} {device : δ}
      (refused : transmit slot.content session.board.device = .error fault device)
      (journal : Journal) :
      Starts session task (.error fault)
        (session.redevice device index ⟨false, .idle, slot.content⟩ journal)
  /-- The device works on the task. -/
  | started (unflagged : task.flags.hasError = false) {index : Nat} {slot : Slot SlotContent}
      (owns : session.Owns task .built index slot) {device : δ}
      (accepted : transmit slot.content session.board.device = .ok () device) (journal : Journal) :
      Starts session task (.ok ())
        (session.redevice device index ⟨true, .submitted, slot.content⟩ journal)

/-- Submitting a slot is handing its content to the device. -/
theorem submit_run {session : Session δ α} {index : Nat} {slot : Slot SlotContent}
    (found : session.slots.get? index = some slot) :
    submit index session = onDevice (transmit slot.content) session := by
  rw [submit, Action.bind_of_ok (content_run found)]
  simp only [transmit, onDevice_bind, onDevice_forM]

/-- A task without built registers cannot be started, and nothing happens. -/
theorem start_of_misdirected {session : Session δ α} {task : Task}
    (unflagged : task.flags.hasError = false)
    (misdirected : ∀ index slot, ¬ session.Owns task .built index slot) :
    ∃ fault, fault.kind = .invalidState ∧ start task session = .error fault session := by
  rcases ownedSlot_cases session task .built with ⟨index, slot, owns, -⟩ | ⟨-, fault, kind, ran⟩
  · exact absurd owns (misdirected index slot)
  · refine ⟨fault, kind, ?_⟩
    unfold start
    rw [if_neg (by rw [unflagged]; exact Bool.false_ne_true), Action.bind_of_error ran]

/-- When the device refuses, the task's slot is free again. -/
theorem start_of_refusal {session : Session δ α} {task : Task}
    (unflagged : task.flags.hasError = false) {index : Nat} {slot : Slot SlotContent}
    (owns : session.Owns task .built index slot) {fault : Fault} {device : δ}
    (refused : transmit slot.content session.board.device = .error fault device) :
    ∃ journal, start task session =
      .error fault (session.redevice device index ⟨false, .idle, slot.content⟩ journal) := by
  let journal := session.board.journal.push (.submissionFailed task.id fault)
  have submitted : Action.attempt (submit index) session = .ok (.error fault)
      { session with board := { session.board with device } } := by
    rw [Action.attempt, submit_run owns.found, onDevice_run, refused]
    rfl
  have released : session.redevice device index ⟨false, .idle, slot.content⟩ journal =
      { session with
        board := { session.board with device, journal }
        slots := session.slots.modify index fun slot =>
          { slot with taken := false, stage := .idle } } := by
    rw [redevice, SlotPool.modify_eq_put owns.found]
  refine ⟨journal, ?_⟩
  unfold start
  rw [if_neg (by rw [unflagged]; exact Bool.false_ne_true), Action.bind_of_ok owns.passes,
    Action.bind_of_ok submitted, released]
  rfl

/-- When the device accepts, the task's slot is submitted. -/
theorem start_of_accepted {session : Session δ α} {task : Task}
    (unflagged : task.flags.hasError = false) {index : Nat} {slot : Slot SlotContent}
    (owns : session.Owns task .built index slot) {device : δ}
    (accepted : transmit slot.content session.board.device = .ok () device) :
    start task session = .ok ()
      (session.redevice device index ⟨true, .submitted, slot.content⟩ session.board.journal) := by
  have submitted : Action.attempt (submit index) session = .ok (.ok ())
      { session with board := { session.board with device } } := by
    rw [Action.attempt, submit_run owns.found, onDevice_run, accepted]
    rfl
  have staged : session.redevice device index ⟨true, .submitted, slot.content⟩
        session.board.journal =
      { session with
        board := { session.board with device }
        slots := session.slots.modify index fun slot => { slot with stage := .submitted } } := by
    rw [redevice, SlotPool.modify_eq_put owns.found, ← owns.taken]
  unfold start
  rw [if_neg (by rw [unflagged]; exact Bool.false_ne_true), Action.bind_of_ok owns.passes,
    Action.bind_of_ok submitted, staged]
  rfl

/-- Starting ends in one of these ways. -/
theorem start_spec (session : Session δ α) (task : Task) :
    Starts session task (Action.outcome (start task session))
      (Action.after (start task session)) := by
  by_cases flagged : task.flags.hasError = true
  · unfold start
    rw [if_pos flagged]
    exact .skipped flagged _
  have unflagged : task.flags.hasError = false := Bool.not_eq_true _ ▸ flagged
  by_cases owned : ∃ index slot, session.Owns task .built index slot
  · obtain ⟨index, slot, owns⟩ := owned
    cases transmitted : transmit slot.content session.board.device with
    | error fault device =>
        obtain ⟨journal, ran⟩ := start_of_refusal unflagged owns transmitted
        rw [ran]
        exact .failed unflagged owns transmitted journal
    | ok done device =>
        rw [start_of_accepted unflagged owns transmitted]
        exact .started unflagged owns transmitted _
  · have misdirected : ∀ index slot, ¬ session.Owns task .built index slot :=
      fun index slot owns => owned ⟨index, slot, owns⟩
    obtain ⟨fault, kind, ran⟩ := start_of_misdirected unflagged misdirected
    rw [ran]
    exact .refused unflagged misdirected kind

/-! ### Waiting -/

/-- Waits for the device and reads the interrupt status. -/
def collect (file : Bytes) : Action δ Bytes := do
  Device.poll
  Device.readRegisters Layout.interruptStatus.offset (Layout.interruptStatus.view file).size

/-- How waiting for a task can end. -/
inductive Waits (session : Session δ α) (task : Task) : Except Fault Unit → Session δ α → Prop where
  /-- The task carries error flags. -/
  | skipped (flagged : task.flags.hasError = true) :
      Waits session task (.ok ()) (session.reported (.skip task))
  /-- The task has no slot that was submitted. -/
  | refused (unflagged : task.flags.hasError = false)
      (misdirected : ∀ index slot, ¬ session.Owns task .submitted index slot) {fault : Fault}
      (kind : fault.kind = .invalidState) : Waits session task (.error fault) session
  /-- The device does not answer; the task is reported and its slot is free again. -/
  | lost (unflagged : task.flags.hasError = false) {index : Nat} {slot : Slot SlotContent}
      (owns : session.Owns task .submitted index slot) {fault : Fault} {device : δ}
      (silent : collect slot.content.file session.board.device = .error fault device)
      (journal : Journal) :
      Waits session task (.error fault)
        ((session.redevice device index
          ⟨false, .idle, slot.content.withFile (Layout.status.set 0 slot.content.file)⟩
          journal).reported (finalReport task slot.content.file true))
  /-- The device is done; the task is reported and its slot is free again. -/
  | finished (unflagged : task.flags.hasError = false) {index : Nat} {slot : Slot SlotContent}
      (owns : session.Owns task .submitted index slot) {status file : Bytes} {device : δ}
      (collected : collect slot.content.file session.board.device = .ok status device)
      (stored : file = Layout.interruptStatus.store status slot.content.file)
      (journal : Journal) :
      Waits session task (.ok ())
        ((session.redevice device index
          ⟨false, .idle, slot.content.withFile (Layout.status.set 0 file)⟩ journal).reported
          (finalReport task file (Verdict.ofFile file).isHardError))

theorem poll_run {session : Session δ α} {index : Nat} {slot : Slot SlotContent}
    (found : session.slots.get? index = some slot) :
    poll index session =
      match collect slot.content.file session.board.device with
      | .error fault device =>
          .error fault { session with board := { session.board with device } }
      | .ok status device =>
          .ok () { session with
            board := { session.board with device }
            slots := session.slots.put index { slot with
              content := slot.content.withFile
                (Layout.interruptStatus.store status slot.content.file) } } := by
  unfold collect
  cases polled : (Device.poll : Action δ Unit) session.board.device with
  | error fault device =>
      have ran := onDevice_run (Device.poll : Action δ Unit) session
      rw [polled] at ran
      rw [poll, Action.bind_of_error ran, Action.bind_of_error polled]
  | ok done device =>
      have ran := onDevice_run (Device.poll : Action δ Unit) session
      rw [polled] at ran
      have kept : ({ session with board := { session.board with device } } :
        Session δ α).slots.get? index = some slot := found
      rw [poll, Action.bind_of_ok ran, Action.bind_of_ok (content_run kept),
        Action.bind_of_ok polled]
      have read := onDevice_run (Device.readRegisters Layout.interruptStatus.offset
        (Layout.interruptStatus.view slot.content.file).size)
        ({ session with board := { session.board with device } } : Session δ α)
      cases answered : Device.readRegisters Layout.interruptStatus.offset
          (Layout.interruptStatus.view slot.content.file).size device with
      | error fault last =>
          rw [answered] at read
          exact Action.bind_of_error read _
      | ok status last =>
          rw [answered] at read
          refine (Action.bind_of_ok read _).trans ?_
          rw [changeSlots, Action.modify_run, SlotPool.setContent_eq_put found]
          rfl

theorem wait_of_owns {session polled : Session δ α} {task : Task} {index : Nat}
    {slot : Slot SlotContent} (unflagged : task.flags.hasError = false)
    (owns : session.Owns task .submitted index slot) {outcome : Except Fault Unit}
    (attempted : Action.attempt (poll index) session = .ok outcome polled) :
    wait task session = conclude index task outcome polled := by
  unfold wait
  rw [if_neg (by rw [unflagged]; exact Bool.false_ne_true), Action.bind_of_ok owns.passes,
    Action.bind_of_ok attempted]
  rfl

/-- A task with error flags is only reported. -/
theorem wait_of_flagged {task : Task} (flagged : task.flags.hasError = true)
    (session : Session δ α) : wait task session = .ok () (session.reported (.skip task)) := by
  unfold wait
  rw [if_pos flagged, deliver_run]

/-- A task without a submitted slot cannot be waited for, and nothing happens. -/
theorem wait_of_misdirected {session : Session δ α} {task : Task}
    (unflagged : task.flags.hasError = false)
    (misdirected : ∀ index slot, ¬ session.Owns task .submitted index slot) :
    ∃ fault, fault.kind = .invalidState ∧ wait task session = .error fault session := by
  rcases ownedSlot_cases session task .submitted with ⟨index, slot, owns, -⟩ | ⟨-, fault, kind, ran⟩
  · exact absurd owns (misdirected index slot)
  · refine ⟨fault, kind, ?_⟩
    unfold wait
    rw [if_neg (by rw [unflagged]; exact Bool.false_ne_true), Action.bind_of_error ran]

/-- When the device does not answer, the task is reported as failed and its slot is free again. -/
theorem wait_of_silent {session : Session δ α} {task : Task}
    (unflagged : task.flags.hasError = false) {index : Nat} {slot : Slot SlotContent}
    (owns : session.Owns task .submitted index slot) {fault : Fault} {device : δ}
    (silent : collect slot.content.file session.board.device = .error fault device) :
    ∃ journal, wait task session = .error fault
      ((session.redevice device index
        ⟨false, .idle, slot.content.withFile (Layout.status.set 0 slot.content.file)⟩
        journal).reported (finalReport task slot.content.file true)) := by
  have attempted : Action.attempt (poll index) session = .ok (.error fault)
      { session with board := { session.board with device } } := by
    rw [Action.attempt, poll_run owns.found, silent]
    rfl
  have kept : ({ session with board := { session.board with device } } :
    Session δ α).slots.get? index = some slot := owns.found
  obtain ⟨journal, concluded⟩ := conclude_run kept task (.error fault)
  exact ⟨journal, (wait_of_owns unflagged owns attempted).trans concluded⟩

/-- When the device is done, the task is reported and its slot is free again. -/
theorem wait_of_collected {session : Session δ α} {task : Task}
    (unflagged : task.flags.hasError = false) {index : Nat} {slot : Slot SlotContent}
    (owns : session.Owns task .submitted index slot) {status file : Bytes} {device : δ}
    (collected : collect slot.content.file session.board.device = .ok status device)
    (stored : file = Layout.interruptStatus.store status slot.content.file) :
    ∃ journal, wait task session = .ok ()
      ((session.redevice device index
        ⟨false, .idle, slot.content.withFile (Layout.status.set 0 file)⟩ journal).reported
        (finalReport task file (Verdict.ofFile file).isHardError)) := by
  subst stored
  let file := Layout.interruptStatus.store status slot.content.file
  let answered : Slot SlotContent := { slot with content := slot.content.withFile file }
  let polled : Session δ α :=
    { session with
      board := { session.board with device }
      slots := session.slots.put index answered }
  have attempted : Action.attempt (poll index) session = .ok (.ok ()) polled := by
    rw [Action.attempt, poll_run owns.found, collected]
    rfl
  have kept : polled.slots.get? index = some answered := SlotPool.get?_put_self owns.found _
  obtain ⟨journal, concluded⟩ := conclude_run kept task (.ok ())
  refine ⟨journal, (wait_of_owns unflagged owns attempted).trans (concluded.trans ?_)⟩
  -- The slot was changed twice; what counts is the second time.
  have settled : polled.redevice polled.board.device index
        ⟨false, .idle, answered.content.withFile (Layout.status.set 0 answered.content.file)⟩
        journal =
      session.redevice device index
        ⟨false, .idle, slot.content.withFile (Layout.status.set 0 file)⟩ journal := by
    unfold redevice
    simp only [polled, SlotPool.put_put]
    rfl
  rw [settled, judge_ok]
  rfl

/-- Waiting ends in one of these ways. -/
theorem wait_spec (session : Session δ α) (task : Task) :
    Waits session task (Action.outcome (wait task session)) (Action.after (wait task session)) := by
  by_cases flagged : task.flags.hasError = true
  · rw [wait_of_flagged flagged]
    exact .skipped flagged
  have unflagged : task.flags.hasError = false := Bool.not_eq_true _ ▸ flagged
  by_cases owned : ∃ index slot, session.Owns task .submitted index slot
  · obtain ⟨index, slot, owns⟩ := owned
    cases collected : collect slot.content.file session.board.device with
    | error fault device =>
        obtain ⟨journal, ran⟩ := wait_of_silent unflagged owns collected
        rw [ran]
        exact .lost unflagged owns collected journal
    | ok status device =>
        obtain ⟨journal, ran⟩ := wait_of_collected unflagged owns collected rfl
        rw [ran]
        exact .finished unflagged owns collected rfl journal
  · have misdirected : ∀ index slot, ¬ session.Owns task .submitted index slot :=
      fun index slot owns => owned ⟨index, slot, owns⟩
    obtain ⟨fault, kind, ran⟩ := wait_of_misdirected unflagged misdirected
    rw [ran]
    exact .refused unflagged misdirected kind

end Hardware

/-! ### Commands -/

/-- Whether a command asks for compressed output, if it says anything about it. -/
def compressionOf : Command → Option Bool
  | .setOutput info => some info.compressed
  | .setFormat _ compressed => some compressed
  | .other _ _ => none

/-- The session after a command: a change of compression makes the line buffers outdated, and the
stride rule of the picture store may be another one. -/
def commanded (session : Session δ α) (compressed : Bool) (stride : StrideRule)
    (journal : Journal) : Session δ α :=
  { session with
    board := { session.board with frames := { session.board.frames with stride }, journal }
    compressed
    lines := if session.compressed = compressed then session.lines else session.lines.invalidate }

theorem setCompressed_run (session : Session δ α) (compressed : Bool) : ∃ journal,
    setCompressed compressed session =
      .ok () (session.commanded compressed session.board.frames.stride journal) := by
  by_cases same : session.compressed = compressed
  · refine ⟨session.board.journal, ?_⟩
    rw [setCompressed, Action.bind_of_ok (Action.get_run session), if_neg (not_not_intro same)]
    rw [commanded, if_pos same, ← same]
    rfl
  · refine ⟨session.board.journal.push (.compressionSwitched compressed), ?_⟩
    rw [setCompressed, Action.bind_of_ok (Action.get_run session), if_pos same, commanded,
      if_neg same]
    rfl

/-- A command is never refused, and it changes nothing but compression, line buffers, stride rule
and journal. -/
theorem control_run (command : Command) (session : Session δ α) : ∃ stride journal,
    control command session =
      .ok () (session.commanded ((compressionOf command).getD session.compressed) stride
        journal) := by
  cases command with
  | setOutput info =>
      let stride := StrideRule.forSize info.width info.height
      let strided : Session δ α := { session with
        board := { session.board with frames := { session.board.frames with stride } } }
      obtain ⟨journal, switched⟩ := setCompressed_run strided info.compressed
      refine ⟨stride, journal.push (.outputSized info.width info.height info.format stride), ?_⟩
      have first : (modify fun session : Session δ α => { session with
          board := { session.board with frames := { session.board.frames with stride } } } :
            Action (Session δ α) PUnit) session = .ok ⟨⟩ strided := rfl
      rw [control, Action.bind_of_ok first, Action.bind_of_ok switched]
      rfl
  | setFormat format compressed =>
      obtain ⟨journal, switched⟩ := setCompressed_run session compressed
      refine ⟨session.board.frames.stride, journal.push (.outputFormatted format), ?_⟩
      rw [control, Action.bind_of_ok switched]
      rfl
  | other id parameter =>
      refine ⟨session.board.frames.stride, session.board.journal.push (.commandIgnored id), ?_⟩
      rw [control, note_run, compressionOf, Option.getD_none, commanded, if_pos rfl]
      rfl

end VideoAccel.Session
