import VideoAccel.Proofs.Memory.Numbering
import VideoAccel.Proofs.Pipeline.Files
import VideoAccel.Proofs.Pipeline.Schedule

/-!
Pipelining is transparent.

What a simulated board reports on a list of tasks can be foretold from the board, the common
registers and the tasks alone (`Plan.reports`): handles are numbered in the order of the tasks, an
image depends on nothing else, and the device answers in the order of its script. Every schedule of
the calls that is answered to its end delivers these reports (`Plan.Underway.play`), whatever the
number of slots and whichever slots the tasks had.
-/

namespace VideoAccel

/-- All that the reports on a list of tasks depend on. -/
structure Plan where
  /-- A register file with only the common registers set. -/
  common : Bytes
  /-- The board before anything was called. -/
  board : Board SimulatedDevice Arena
  /-- Finished tasks are reported. -/
  reporting : Bool
  tasks : List Task

namespace Plan

/-! ### What is to come -/

/-- Goes through the first `count` tasks in order. -/
def through {σ : Type} (plan : Plan) (step : σ → Nat → Task → σ) (start : σ) : Nat → σ
  | 0 => start
  | count + 1 =>
      match plan.tasks[count]? with
      | none => through plan step start count
      | some task => step (through plan step start count) count task

theorem through_succ {σ : Type} {plan : Plan} {count : Nat} {task : Task}
    (found : plan.tasks[count]? = some task) (step : σ → Nat → Task → σ) (start : σ) :
    plan.through step start (count + 1) = step (plan.through step start count) count task := by
  rw [through, found]

/-- The line buffers that a picture asks for; output is not compressed unless a command says so. -/
def shapeOf (picture : Picture) : PictureShape :=
  { width := picture.sequence.width
    height := picture.sequence.height
    bitDepth := picture.sequence.lumaDepth
    chroma := picture.sequence.chroma
    fieldCoding := picture.sequence.fieldCoding
    compressed := false }

/-- Readies the shared buffers for a picture. -/
def provide (plan : Plan) (picture : Picture) : Action (Supply Arena) Unit :=
  Supply.provide (shapeOf picture) plan.board.frames.slotCount
    (MotionPool.bytesFor picture.sequence.width picture.sequence.height
      picture.sequence.fieldCoding)

/-- The shared buffers after the registers of the first `count` tasks, on an arena that refuses
nothing. The scratch buffer was handed out before them. -/
def supply (plan : Plan) : Nat → Supply Arena :=
  plan.through
    (fun supply _ task =>
      if task.flags.hasError then supply else Action.after (plan.provide task.coded.picture supply))
    ⟨.empty Layout.lineBufferRegisters, .empty, { nextHandle := plan.board.memory.nextHandle + 1 }⟩

/-- What the registers of a task depend on, but for what belongs to its slot. -/
def job (plan : Plan) (task : Task) (supply : Supply Arena) : Job :=
  { coded := task.coded
    references := task.coded.picture.resolveReferences plan.board.frames.frame?
      Layout.referenceCount
    frame? := plan.board.frames.frame?
    stream := task.stream
    streamLength := task.streamLength
    outputSlot := task.outputSlot
    region := ⟨0, 0, 0⟩
    motion := supply.motion
    lines := supply.lines
    compressed := false
    serialiseAll := false }

/-- The register file of the task with the given place in the list, once its registers are built. -/
def file (plan : Plan) (index : Nat) (task : Task) : Bytes :=
  Draft.image (plan.job task (plan.supply (index + 1)))
    { file := plan.common
      patches := .empty
      cache := {}
      scratch := .blank ⟨plan.board.memory.nextHandle⟩ 0 }

/-- The completions of the tasks to come, the oldest first. -/
def completion (plan : Plan) (index : Nat) : Completion :=
  (plan.board.device.inFlight ++ plan.board.device.script).getD index plan.board.device.usual

/-- The registers of the device after the given number of polls, as far as its interrupt status is
concerned. -/
def registers (plan : Plan) : Nat → Bytes
  | 0 => plan.board.device.registers
  | count + 1 => (plan.completion count).apply (plan.registers count)

/-- The number of polls for the first `count` tasks. -/
def polls (plan : Plan) : Nat → Nat :=
  plan.through (fun polls _ task => if task.flags.hasError then polls else polls + 1) 0

/-- The report on the task with the given place in the list. -/
def report (plan : Plan) (index : Nat) (task : Task) : Report :=
  if task.flags.hasError then .skip task
  else
    let status := Layout.interruptStatus.view (plan.registers (plan.polls index + 1))
    let file := Layout.interruptStatus.store status (plan.file index task)
    Session.finalReport task file (Verdict.ofFile file).isHardError

/-- The reports after the first `count` tasks. -/
def reports (plan : Plan) : Nat → Array Report :=
  plan.through
    (fun reports index task =>
      if plan.reporting then reports.push (plan.report index task) else reports)
    plan.board.reports

/-! ### The device -/

/-- The device has reported the first `polls` tasks and is going to report the others. -/
structure Answers (plan : Plan) (polls : Nat) (device : SimulatedDevice) : Prop where
  usual : device.usual = plan.board.device.usual
  queue : ∀ i, (device.inFlight ++ device.script).getD i device.usual = plan.completion (polls + i)
  status : Layout.interruptStatus.Agree device.registers (plan.registers polls)

variable {plan : Plan} {polls : Nat} {device after : SimulatedDevice}

/-- A task that is sent gets the completion that was meant for it. -/
theorem Answers.sends (answers : plan.Answers polls device) (sends : device.Sends after) :
    plan.Answers polls after where
  usual := sends.usual.trans answers.usual
  status := sends.status.trans answers.status
  queue i := by
    rw [← answers.queue i, sends.inFlight, sends.script, sends.usual, List.append_assoc,
      SimulatedDevice.nextCompletion]
    cases device.script with
    | nil =>
        show (device.inFlight ++ [device.usual]).getD i device.usual =
          (device.inFlight ++ []).getD i device.usual
        rw [List.append_nil, List.getD_eq_getElem?_getD, List.getD_eq_getElem?_getD,
          List.getElem?_append]
        split
        · rfl
        · rename_i beyond
          rw [List.getElem?_eq_none (Nat.not_lt.mp beyond)]
          cases i - device.inFlight.length <;> rfl
    | cons next later => rfl

/-- The oldest task gets the next completion. -/
theorem Answers.collects (answers : plan.Answers polls device) {completion : Completion}
    (collects : device.Collects completion after) :
    completion = plan.completion polls ∧ plan.Answers (polls + 1) after := by
  have oldest := answers.queue 0
  rw [collects.waiting] at oldest
  have same : completion = plan.completion polls := oldest
  refine ⟨same, collects.usual.trans answers.usual, ?_, ?_⟩
  · intro i
    have next := answers.queue (i + 1)
    rw [collects.waiting, ← collects.script, ← collects.usual] at next
    rw [Nat.add_assoc, Nat.add_comm 1 i, ← next]
    rfl
  · rw [collects.registers, same]
    exact answers.status.apply _

/-! ### The session -/

/-- The session was opened with the settings and on the board of the plan. -/
structure Fits (plan : Plan) (session : Session SimulatedDevice Arena) : Prop where
  formed : session.Formed
  uniform : session.Uniform
  common : freshFile session.config = plan.common
  frames : session.board.frames = plan.board.frames
  uncompressed : session.compressed = false
  reporting : session.reporting = plan.reporting
  scratch : session.scratch.handle = ⟨plan.board.memory.nextHandle⟩

variable {session later : Session SimulatedDevice Arena} {task : Task}

theorem Fits.generates (fits : plan.Fits session) {outcome : Except Fault Task}
    (generates : Session.Generates session task outcome later) : plan.Fits later := by
  have formed := fits.formed.generates generates
  have uniform := fits.uniform.generates fits.formed generates
  obtain ⟨-, -, common, frames, uncompressed, reporting, scratch⟩ := fits
  cases generates with
  | skipped flagged journal =>
      exact ⟨formed, uniform, common, frames, uncompressed, reporting, scratch⟩
  | held unflagged names holds =>
      exact ⟨formed, uniform, common, frames, uncompressed, reporting, scratch⟩
  | full unflagged unheld busy =>
      exact ⟨formed, uniform, common, frames, uncompressed, reporting, scratch⟩
  | failed unflagged unheld first prepares journal =>
      exact ⟨formed, uniform, common, frames, uncompressed, reporting,
        prepares.changedIn.handle.trans scratch⟩
  | built unflagged unheld first prepares journal =>
      exact ⟨formed, uniform, common, frames, uncompressed, reporting,
        prepares.changedIn.handle.trans scratch⟩

theorem Fits.starts (fits : plan.Fits session) {outcome : Except Fault Unit}
    (starts : Session.Starts session task outcome later) : plan.Fits later := by
  have formed := fits.formed.starts starts
  have uniform := fits.uniform.starts starts
  obtain ⟨-, -, common, frames, uncompressed, reporting, scratch⟩ := fits
  cases starts <;> exact ⟨formed, uniform, common, frames, uncompressed, reporting, scratch⟩

theorem Fits.waits (fits : plan.Fits session) {outcome : Except Fault Unit}
    (waits : Session.Waits session task outcome later) : plan.Fits later := by
  have formed := fits.formed.waits waits
  have uniform := fits.uniform.waits waits
  obtain ⟨-, -, common, frames, uncompressed, reporting, scratch⟩ := fits
  cases waits with
  | skipped flagged =>
      rw [Session.reported_eq] at formed uniform ⊢
      exact ⟨formed, uniform, common, frames, uncompressed, reporting, scratch⟩
  | refused unflagged misdirected kind =>
      exact ⟨formed, uniform, common, frames, uncompressed, reporting, scratch⟩
  | lost unflagged owns silent journal =>
      rw [Session.reported_eq] at formed uniform ⊢
      exact ⟨formed, uniform, common, frames, uncompressed, reporting, scratch⟩
  | finished unflagged owns collected stored journal =>
      rw [Session.reported_eq] at formed uniform ⊢
      exact ⟨formed, uniform, common, frames, uncompressed, reporting, scratch⟩

/-! ### Readying the shared buffers -/

theorem provide_of_willing (plan : Plan) (picture : Picture) {supply : Supply Arena}
    (willing : supply.memory.failAfter = none) :
    ∃ after, plan.provide picture supply = .ok () after ∧ after.memory.failAfter = none :=
  Supply.provide_of_willing willing ..

theorem provide_twins {picture : Picture} {first second first' second' : Supply Arena}
    (twins : first.Twins second) (granted : plan.provide picture first = .ok () first')
    (also : plan.provide picture second = .ok () second') : first'.Twins second' := by
  have every : ∀ {supply after : Supply Arena}, plan.provide picture supply = .ok () after →
      supply.Provides (shapeOf picture) plan.board.frames.slotCount
        (MotionPool.bytesFor picture.sequence.width picture.sequence.height
          picture.sequence.fieldCoding) (.ok ()) after := by
    intro supply after granted
    have ended : supply.Provides _ _ _ (Action.outcome (plan.provide picture supply))
        (Action.after (plan.provide picture supply)) := Supply.provide_spec ..
    rwa [granted, Action.outcome_ok, Action.after_ok] at ended
  exact (every granted).twins twins (every also)

/-- The foretold arena refuses nothing. -/
theorem supply_willing (plan : Plan) (count : Nat) : (plan.supply count).memory.failAfter = none := by
  induction count with
  | zero => rfl
  | succ count ih =>
      cases found : plan.tasks[count]? with
      | none =>
          unfold supply
          rw [through, found]
          exact ih
      | some task =>
          unfold supply
          rw [through_succ found]
          split
          · exact ih
          · obtain ⟨after, granted, willing⟩ := plan.provide_of_willing task.coded.picture ih
            unfold supply at granted
            rw [granted, Action.after_ok]
            exact willing

theorem supply_of_flagged {count : Nat} (found : plan.tasks[count]? = some task)
    (flagged : task.flags.hasError = true) : plan.supply (count + 1) = plan.supply count := by
  unfold supply
  rw [through_succ found, if_pos flagged]

theorem supply_of_unflagged {count : Nat} (found : plan.tasks[count]? = some task)
    (unflagged : task.flags.hasError = false) :
    plan.supply (count + 1) =
      Action.after (plan.provide task.coded.picture (plan.supply count)) := by
  unfold supply
  rw [through_succ found, if_neg (by rw [unflagged]; exact Bool.false_ne_true)]

theorem Fits.provision (fits : plan.Fits session) (picture : Picture) :
    session.provision picture = plan.provide picture := by
  have shape : session.shapeOf picture = shapeOf picture := by
    rw [Session.shapeOf, fits.uncompressed]
    rfl
  rw [Session.provision, shape, fits.frames]
  rfl

/-- Readying the shared buffers of a session for a task leaves those that the plan foretells. -/
theorem Fits.supply_twins (fits : plan.Fits session) {count : Nat}
    (twins : session.supply.Twins (plan.supply count)) (found : plan.tasks[count]? = some task)
    (unflagged : task.flags.hasError = false) {supply : Supply Arena}
    (granted : session.provision task.coded.picture session.supply = .ok () supply) :
    supply.Twins (plan.supply (count + 1)) := by
  obtain ⟨after, foretold, -⟩ :=
    plan.provide_of_willing task.coded.picture (plan.supply_willing count)
  rw [fits.provision] at granted
  rw [supply_of_unflagged found unflagged, foretold, Action.after_ok]
  exact provide_twins twins granted foretold

/-- The register file that a task is given in a slot is the one foretold. -/
theorem Fits.file (fits : plan.Fits session) {count place : Nat} {slot : Slot SlotContent}
    (found : session.slots.get? place = some slot) {names : Option Nat} {supply : Supply Arena}
    {scratch : Buffer} {content : SlotContent}
    (prepares : Session.Prepares session place { task with slot := names } slot.content (.ok ())
      supply scratch content)
    (twins : supply.Twins (plan.supply (count + 1))) : content.file = plan.file count task := by
  have full := (fits.formed.slots place slot found).file
  have sound := fits.formed.prepares_sound prepares full
  have job : session.jobWith place { task with slot := names } supply =
      { plan.job task (plan.supply (count + 1)) with
        region := session.layout.region place
        serialiseAll := session.config.fastMode } := by
    unfold Session.jobWith Plan.job
    rw [fits.frames, fits.uncompressed, twins.lines, twins.motion]
  have akin := fits.uniform place slot found
  rw [fits.common] at akin
  have blank : plan.common.size = Layout.fileBytes := akin.size.symm.trans full
  rw [prepares.file, Plan.file, @Draft.image_akin _ sound (slot.content.draft session.scratch)
    ⟨plan.common, .empty, {}, .blank ⟨plan.board.memory.nextHandle⟩ 0⟩ akin blank fits.scratch,
    job, Draft.image, Job.assignment_relocated]
  rfl

/-! ### A run under way -/

/-- The first `built` tasks have their registers, and the first `waited` were reported as foretold.
`tasks` are the tasks as the caller has them. -/
structure Underway (plan : Plan) (built waited : Nat) (session : Session SimulatedDevice Arena)
    (tasks : List Task) : Prop where
  fits : plan.Fits session
  supply : session.supply.Twins (plan.supply built)
  device : plan.Answers (plan.polls waited) session.board.device
  reports : session.board.reports = plan.reports waited
  known : ∀ (index : Nat) (task : Task), plan.tasks[index]? = some task →
    ∃ names, tasks[index]? = some { task with slot := names }
  flights : ∀ (index : Nat) (task : Task), waited ≤ index → index < built →
    plan.tasks[index]? = some task → task.flags.hasError = false → ∃ place slot,
      tasks[index]? = some { task with slot := some place } ∧
      session.slots.get? place = some slot ∧ slot.taken = true ∧
      slot.content.task = some task.id ∧ slot.content.file = plan.file index task

variable {built waited : Nat} {tasks : List Task} {names : Option Nat}

theorem Underway.generates (underway : plan.Underway built waited session tasks)
    (found : plan.tasks[built]? = some task)
    (known : tasks[built]? = some { task with slot := names }) {mine : Task}
    (generates : Session.Generates session { task with slot := names } (.ok mine) later) :
    plan.Underway (built + 1) waited later (tasks.set built mine) := by
  have fits := underway.fits.generates generates
  have inside : built < tasks.length := (List.getElem?_eq_some_iff.mp known).1
  have here : (tasks.set built mine)[built]? = some mine := List.getElem?_set_self inside
  have elsewhere : ∀ index, index ≠ built → (tasks.set built mine)[index]? = tasks[index]? :=
    fun index other => List.getElem?_set_ne (Ne.symm other)
  have stillKnown : (∃ place, mine = { task with slot := place }) →
      ∀ (index : Nat) (task : Task), plan.tasks[index]? = some task →
      ∃ names, (tasks.set built mine)[index]? = some { task with slot := names } := by
    rintro ⟨place, placed⟩ index other there
    by_cases same : index = built
    · subst same
      cases found.symm.trans there
      exact ⟨place, here.trans (congrArg some placed)⟩
    · rw [elsewhere index same]
      exact underway.known index other there
  cases generates with
  | skipped flagged journal =>
      refine ⟨fits, ?_, underway.device, underway.reports, stillKnown ⟨none, rfl⟩, ?_⟩
      · rw [supply_of_flagged found flagged]
        exact underway.supply
      · intro index other low high there unflagged
        have before : index ≠ built := by
          rintro rfl
          cases found.symm.trans there
          cases flagged.symm.trans unflagged
        rw [elsewhere index before]
        exact underway.flights index other low (by omega) there unflagged
  | @built unflagged unheld place slot first supply scratch content prepares journal =>
      have twins := underway.fits.supply_twins underway.supply found unflagged prepares.provided
      refine ⟨fits, twins, underway.device, underway.reports, stillKnown ⟨some place, rfl⟩, ?_⟩
      intro index other low high there clear
      by_cases same : index = built
      · subst same
        cases found.symm.trans there
        exact ⟨place, _, here, SlotPool.get?_put_self first.found _, rfl, prepares.serves,
          underway.fits.file first.found prepares twins⟩
      · obtain ⟨own, old, mine, held, taken, serves, file⟩ :=
          underway.flights index other low (by omega) there clear
        have ne : place ≠ own := by
          rintro rfl
          cases first.found.symm.trans held
          cases first.free.symm.trans taken
        exact ⟨own, old, (elsewhere index same).trans mine,
          (SlotPool.get?_put_of_ne _ ne _).trans held, taken, serves, file⟩

theorem Underway.starts (underway : plan.Underway built waited session tasks) {owned : Task}
    (starts : Session.Starts session owned (.ok ()) later) :
    plan.Underway built waited later tasks := by
  have fits := underway.fits.starts starts
  cases starts with
  | skipped flagged journal =>
      exact ⟨fits, underway.supply, underway.device, underway.reports, underway.known,
        underway.flights⟩
  | @started unflagged place slot owns device accepted journal =>
      obtain ⟨sent, taken, sends⟩ :=
        SimulatedDevice.transmit_run slot.content session.board.device
      cases taken.symm.trans accepted
      refine ⟨fits, underway.supply, underway.device.sends sends, underway.reports, underway.known,
        ?_⟩
      intro index task low high there clear
      obtain ⟨own, old, mine, held, taken, serves, file⟩ :=
        underway.flights index task low high there clear
      by_cases same : place = own
      · subst same
        cases owns.found.symm.trans held
        exact ⟨place, _, mine, SlotPool.get?_put_self held _, rfl, serves, file⟩
      · exact ⟨own, old, mine, (SlotPool.get?_put_of_ne _ same _).trans held, taken, serves, file⟩

theorem reports_succ {count : Nat} (found : plan.tasks[count]? = some task) :
    plan.reports (count + 1) =
      if plan.reporting then (plan.reports count).push (plan.report count task)
      else plan.reports count := by
  unfold reports
  rw [through_succ found]

theorem polls_of_flagged {count : Nat} (found : plan.tasks[count]? = some task)
    (flagged : task.flags.hasError = true) : plan.polls (count + 1) = plan.polls count := by
  unfold Plan.polls
  rw [through_succ found, if_pos flagged]

theorem polls_of_unflagged {count : Nat} (found : plan.tasks[count]? = some task)
    (unflagged : task.flags.hasError = false) : plan.polls (count + 1) = plan.polls count + 1 := by
  unfold Plan.polls
  rw [through_succ found, if_neg (by rw [unflagged]; exact Bool.false_ne_true)]

/-- A task whose slot the device is done with is reported as foretold. -/
theorem Underway.waits (underway : plan.Underway built waited session tasks)
    (distinct : (plan.tasks.map (·.id)).Nodup) (found : plan.tasks[waited]? = some task)
    (known : tasks[waited]? = some { task with slot := names }) (ready : waited < built)
    (waits : Session.Waits session { task with slot := names } (.ok ()) later) :
    plan.Underway built (waited + 1) later tasks := by
  have fits := underway.fits.waits waits
  have reporting := underway.fits.reporting
  cases waits with
  | skipped flagged =>
      rw [Session.reported_eq] at fits ⊢
      refine ⟨fits, underway.supply, ?_, ?_, underway.known, ?_⟩
      · rw [polls_of_flagged found flagged]
        exact underway.device
      · have report : plan.report waited task = .skip task := if_pos flagged
        rw [reports_succ found, report]
        show (if session.reporting then session.board.reports.push _ else session.board.reports) = _
        rw [reporting, underway.reports]
        rfl
      · exact fun index other low => underway.flights index other (by omega)
  | @finished unflagged place slot owns status file device collected stored journal =>
      obtain ⟨own, held, mine, there, -, -, image⟩ :=
        underway.flights waited task (Nat.le_refl _) ready found unflagged
      obtain rfl : names = some own := by
        have same := known.symm.trans mine
        injection same with same
        exact congrArg Task.slot same
      obtain rfl : own = place := Option.some.inj owns.names
      cases there.symm.trans owns.found
      have full := (underway.fits.formed.slots own slot owns.found).file
      obtain ⟨completion, collects, shown⟩ := SimulatedDevice.collect_eq_ok full collected
      obtain ⟨same, answers⟩ := underway.device.collects collects
      rw [Session.reported_eq] at fits ⊢
      refine ⟨fits, underway.supply, ?_, ?_, underway.known, ?_⟩
      · rw [polls_of_unflagged found unflagged]
        exact answers
      · have status : status =
            Layout.interruptStatus.view (plan.registers (plan.polls waited + 1)) := by
          rw [shown, ← collects.registers]
          exact answers.status.view
        have report : plan.report waited task =
            Session.finalReport { task with slot := some own } file
              (Verdict.ofFile file).isHardError := by
          rw [Plan.report, if_neg (by rw [unflagged]; exact Bool.false_ne_true), stored, status,
            image]
          rfl
        rw [reports_succ found, report]
        show (if session.reporting then session.board.reports.push _ else session.board.reports) = _
        rw [reporting, underway.reports]
      · intro index other low high elsewhere clear
        obtain ⟨next, old, hers, held, taken, serves, file⟩ :=
          underway.flights index other (by omega) high elsewhere clear
        have ne : own ≠ next := by
          rintro rfl
          cases owns.found.symm.trans held
          have same := owns.serves.symm.trans serves
          injection same with same
          have place := Task.index_unique distinct found elsewhere same
          omega
        exact ⟨next, old, hers, (SlotPool.get?_put_of_ne _ ne _).trans held, taken, serves, file⟩

/-! ### Whole runs -/

/-- The plan of a decoder that is opened on a board and given tasks. -/
def of (config : Config) (reporting : Bool) (board : Board SimulatedDevice Arena)
    (tasks : List Task) : Plan :=
  ⟨freshFile config, board, reporting, tasks⟩

/-- Plans do not differ if only the pipelining does. -/
theorem of_pipelined {config : Config} {reporting : Bool} {board : Board SimulatedDevice Arena}
    {tasks : List Task} (fastMode : Bool) (pipelineDepth : Nat) :
    of { config with fastMode, pipelineDepth } reporting board tasks =
      of config reporting board tasks := by
  have same : commonAssignment { config with fastMode, pipelineDepth } = commonAssignment config :=
    rfl
  unfold of freshFile
  rw [same]

variable {config : Config} {reporting : Bool} {board : Board SimulatedDevice Arena}
  {decoder final : Decoder SimulatedDevice Arena}

/-- A decoder that was just opened has its run before it. -/
theorem Underway.opened {capability : Capability}
    (initialised : Decoder.initialise config reporting (.idle board) = .ok capability decoder)
    (tasks : List Task) :
    ∃ session, decoder = .working session ∧
      (of config reporting board tasks).Underway 0 0 session tasks := by
  rcases Decoder.initialise_cases config reporting (.idle board) with
    ⟨_, -, ran⟩ | ⟨_, _, -, -, ran⟩ | ⟨scratch, left, valid, taken, ran⟩
  · cases initialised.symm.trans ran
  · cases initialised.symm.trans ran
  · cases initialised.symm.trans ran
    obtain ⟨handle, memory, journal, rfl, next⟩ := Decoder.takeScratch_eq_ok taken
    let opened := Session.opened config reporting scratch { board with memory, journal }
    have common : freshFile opened.config = (of config reporting board tasks).common := by
      unfold of
      rw [show opened.config = config from rfl]
    have fits : (of config reporting board tasks).Fits opened :=
      ⟨.opened valid reporting _ _, .opened config reporting _ _, common, rfl, rfl, rfl, handle⟩
    refine ⟨opened, rfl, fits, ⟨rfl, rfl, next⟩, ⟨rfl, ?_, .refl _ _⟩, rfl, ?_, ?_⟩
    · intro i
      show _ = Plan.completion _ (0 + i)
      rw [Nat.zero_add]
      rfl
    · exact fun index task found => ⟨task.slot, found⟩
    · intro index task low high
      exact absurd high (Nat.not_lt_zero index)

/-- A schedule that is answered to its end delivers the reports that were foretold. -/
theorem Underway.play (underway : plan.Underway built waited session tasks)
    (distinct : (plan.tasks.map (·.id)).Nodup) {started : Nat} (order : started ≤ built)
    {turns : List Turn} (schedule : Schedule plan.tasks.length built started waited turns)
    {last : List Task} (ran : Decoder.play turns tasks (.working session) = .ok last final) :
    final.board.reports = plan.reports plan.tasks.length := by
  induction schedule generalizing session tasks with
  | done =>
      cases ran
      exact underway.reports
  | @generate built started waited turns left rest ih =>
      obtain ⟨middle, next, took, further⟩ := Action.bind_eq_ok_iff.mp ran
      have found := List.getElem?_eq_getElem left
      obtain ⟨names, known⟩ := underway.known _ _ found
      obtain ⟨mine, later, generates, rfl, rfl⟩ := Decoder.take_generate known took
      exact ih (underway.generates found known generates) (Nat.le_succ_of_le order) further
  | @start built started waited turns ready rest ih =>
      obtain ⟨middle, next, took, further⟩ := Action.bind_eq_ok_iff.mp ran
      have found := List.getElem?_eq_getElem (Nat.lt_of_lt_of_le ready rest.built_le)
      obtain ⟨names, known⟩ := underway.known _ _ found
      obtain ⟨later, starts, rfl, rfl⟩ := Decoder.take_start known took
      exact ih (underway.starts starts) ready further
  | @wait built started waited turns ready rest ih =>
      obtain ⟨middle, next, took, further⟩ := Action.bind_eq_ok_iff.mp ran
      have done := Nat.lt_of_lt_of_le ready order
      have found := List.getElem?_eq_getElem (Nat.lt_of_lt_of_le done rest.built_le)
      obtain ⟨names, known⟩ := underway.known _ _ found
      obtain ⟨later, waits, rfl, rfl⟩ := Decoder.take_wait known took
      exact ih (underway.waits distinct found known done waits) order further

end Plan

/-- Pipelining is transparent. Decoders whose settings differ only in fast mode and pipeline depth,
opened on the same board and given the same tasks, deliver the same reports, however the calls for
the tasks are interleaved, as long as each kind of call comes in the order of the tasks and none is
refused. -/
theorem Decoder.play_transparent {first second : Config} {reporting : Bool}
    (alike : second =
      { first with fastMode := second.fastMode, pipelineDepth := second.pipelineDepth })
    {board : Board SimulatedDevice Arena} {tasks : List Task}
    (distinct : (tasks.map (·.id)).Nodup) {turns otherTurns : List Turn}
    (schedule : Schedule tasks.length 0 0 0 turns)
    (otherSchedule : Schedule tasks.length 0 0 0 otherTurns) {capability otherCapability : Capability}
    {opened otherOpened : Decoder SimulatedDevice Arena}
    (initialised : initialise first reporting (.idle board) = .ok capability opened)
    (otherInitialised : initialise second reporting (.idle board) = .ok otherCapability otherOpened)
    {owned otherOwned : List Task} {final otherFinal : Decoder SimulatedDevice Arena}
    (ran : play turns tasks opened = .ok owned final)
    (otherRan : play otherTurns tasks otherOpened = .ok otherOwned otherFinal) :
    final.board.reports = otherFinal.board.reports := by
  obtain ⟨session, rfl, underway⟩ := Plan.Underway.opened initialised tasks
  obtain ⟨otherSession, rfl, otherUnderway⟩ := Plan.Underway.opened otherInitialised tasks
  have same : Plan.of second reporting board tasks = Plan.of first reporting board tasks := by
    rw [alike]
    exact Plan.of_pipelined _ _
  rw [underway.play distinct (Nat.le_refl 0) schedule ran,
    otherUnderway.play distinct (Nat.le_refl 0) otherSchedule otherRan, same]

/-- Two pictures on a board at rest can be decoded with any settings, in any order of the calls that
keeps to the slots there are. -/
theorem two_pictures_played {config : Config} (valid : config.validate = .ok ()) {turns : List Turn}
    (schedule : Schedule 2 0 0 0 turns) (fit : Turn.fit config.slotCount 0 turns = true) :
    ∃ capability opened owned final,
      Decoder.initialise config true (.idle (Board.atRest 1 64 64)) = .ok capability opened ∧
      Decoder.play turns [.ofSize 0 64 64, .ofSize 1 64 64] opened = .ok owned final := by
  obtain ⟨session, initialised, able, slots, -, -, compressed, -, -, -⟩ :=
    Decoder.initialise_atRest valid true 1 64 64
  have every : ∀ {P : Task → Prop}, P (.ofSize 0 64 64) → P (.ofSize 1 64 64) →
      ∀ task ∈ ([.ofSize 0 64 64, .ofSize 1 64 64] : List Task), P task := by
    intro P first second task member
    simp only [List.mem_cons, List.not_mem_nil, or_false] at member
    rcases member with rfl | rfl
    · exact first
    · exact second
  have low : ∀ id, ∀ buffer ∈ LineBuffer.place
      (session.shapeOf (Task.ofSize id 64 64).coded.picture)
      (LineBufferClass.all.zip Layout.lineBufferRegisters), buffer.offset < Numeral.bound32 := by
    intro id
    rw [Session.shapeOf_ofSize compressed]
    decide
  have serving : session.Serving [.ofSize 0 64 64, .ofSize 1 64 64] 0 0 0 := by
    refine able.serving ?_ (every rfl rfl) (every rfl rfl) ?_ (every (low 0) (low 1))
    · rw [slots, SlotPool.inUse_ofDepth]
    · show [0, 1].Nodup
      decide
  have room : Turn.fit session.slots.capacity (0 - 0) turns = true := by
    rw [slots, SlotPool.capacity_ofDepth]
    exact fit
  obtain ⟨owned, final, played⟩ := Decoder.play_of_serving schedule rfl serving room
  exact ⟨_, _, owned, final, initialised, played⟩

/-- Two pictures, decoded together and one after the other. -/
theorem two_pictures_transparent :
    ∃ opened final otherOpened otherFinal : Decoder SimulatedDevice Arena, ∃ owned otherOwned,
    Decoder.play [⟨.generate, 0⟩, ⟨.generate, 1⟩, ⟨.start, 0⟩, ⟨.start, 1⟩, ⟨.wait, 0⟩, ⟨.wait, 1⟩]
      [.ofSize 0 64 64, .ofSize 1 64 64] opened = .ok owned final ∧
    Decoder.play [⟨.generate, 0⟩, ⟨.start, 0⟩, ⟨.wait, 0⟩, ⟨.generate, 1⟩, ⟨.start, 1⟩, ⟨.wait, 1⟩]
      [.ofSize 0 64 64, .ofSize 1 64 64] otherOpened = .ok otherOwned otherFinal ∧
    final.board.reports = otherFinal.board.reports := by
  have together : Schedule 2 0 0 0
      [⟨.generate, 0⟩, ⟨.generate, 1⟩, ⟨.start, 0⟩, ⟨.start, 1⟩, ⟨.wait, 0⟩, ⟨.wait, 1⟩] :=
    .generate (by decide) (.generate (by decide) (.start (by decide) (.start (by decide)
      (.wait (by decide) (.wait (by decide) .done)))))
  have apart : Schedule 2 0 0 0
      [⟨.generate, 0⟩, ⟨.start, 0⟩, ⟨.wait, 0⟩, ⟨.generate, 1⟩, ⟨.start, 1⟩, ⟨.wait, 1⟩] :=
    .generate (by decide) (.start (by decide) (.wait (by decide) (.generate (by decide)
      (.start (by decide) (.wait (by decide) .done)))))
  obtain ⟨_, opened, owned, final, initialised, played⟩ :=
    @two_pictures_played {} rfl _ together (by decide)
  obtain ⟨_, otherOpened, otherOwned, otherFinal, otherInitialised, otherPlayed⟩ :=
    @two_pictures_played { fastMode := false } rfl _ apart (by decide)
  have distinct : (([.ofSize 0 64 64, .ofSize 1 64 64] : List Task).map (·.id)).Nodup := by
    show [0, 1].Nodup
    decide
  exact ⟨opened, final, otherOpened, otherFinal, owned, otherOwned, played, otherPlayed,
    Decoder.play_transparent rfl distinct together apart initialised otherInitialised played
      otherPlayed⟩

end VideoAccel
