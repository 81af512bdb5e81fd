import VideoAccel.Device.Control
import VideoAccel.Pipeline.SlotPool
import VideoAccel.Pipeline.Task
import VideoAccel.Program.Build

/-!
A decoder at work.

A `Session` owns the scratch buffer, the pipeline slots, the line buffers and the motion vector
pool, and works with a `Board`: the device, the allocator and the picture store, together with
the journal and the reports delivered so far. A task goes through three calls.

* `generate` takes a slot and builds the task's registers in it.
* `start` hands the registers to the device.
* `wait` waits for the device, delivers the report and gives the slot back.

A task that carries error flags takes no slot and never reaches the device; `wait` only reports
it. A refused `generate` or `start` gives the slot back; a refused poll in `wait` does too, and is
reported as a hardware error.
-/

namespace VideoAccel

/-- What a decoder works with. -/
structure Board (δ α : Type) where
  device : δ
  memory : α
  frames : FramePool
  journal : Journal := #[]
  /-- The reports delivered so far, oldest first. -/
  reports : Array Report := #[]

namespace Board

variable {δ α : Type}

/-- Puts an event on record. -/
def note (event : Event) (board : Board δ α) : Board δ α :=
  { board with journal := board.journal.push event }

/-- Runs an action on the allocator. -/
def onMemory {β : Type} (action : Action α β) : Action (Board δ α) β :=
  Action.on (·.memory) (fun memory board => { board with memory }) action

end Board

/-- What a pipeline slot holds. -/
structure SlotContent where
  file : Bytes
  patches : PatchTable
  cache : ParameterCache
  lineBuffers : List LineBufferEntry
  /-- The task the slot served last. -/
  task : Option Nat

namespace SlotContent

/-- A slot that has not served any task. -/
def fresh (config : Config) : SlotContent :=
  { file := freshFile config
    patches := .empty
    cache := {}
    lineBuffers := []
    task := none }

end SlotContent

structure Session (δ α : Type) where
  board : Board δ α
  config : Config
  layout : ScratchLayout
  scratch : Buffer
  slots : SlotPool SlotContent
  lines : LineBufferCache
  motion : MotionPool
  /-- Pictures are written compressed. -/
  compressed : Bool
  /-- Finished tasks are reported. -/
  reporting : Bool

namespace Session

variable {δ α : Type}

/-! ### Parts of a session -/

/-- Puts an event on record. -/
def note (event : Event) : Action (Session δ α) Unit :=
  modify fun session => { session with board := session.board.note event }

/-- Puts an event on record if there is one. -/
def noteSome : Option Event → Action (Session δ α) Unit
  | none => pure ()
  | some event => note event

/-- Delivers a report, if reports are wanted. -/
def deliver (report : Report) : Action (Session δ α) Unit :=
  modify fun session =>
    if session.reporting then
      { session with board := { session.board with reports := session.board.reports.push report } }
    else session

/-- Runs an action on the device. -/
def onDevice {β : Type} (action : Action δ β) : Action (Session δ α) β :=
  Action.on (·.board.device)
    (fun device session => { session with board := { session.board with device } }) action

/-- Runs an action on the allocator. -/
def onMemory {β : Type} (action : Action α β) : Action (Session δ α) β :=
  Action.on (·.board.memory)
    (fun memory session => { session with board := { session.board with memory } }) action

/-- Changes the slots. -/
def changeSlots (change : SlotPool SlotContent → SlotPool SlotContent) :
    Action (Session δ α) Unit :=
  modify fun session => { session with slots := change session.slots }

/-- Gives a slot back. -/
def releaseSlot (index : Nat) : Action (Session δ α) Unit :=
  changeSlots fun slots => (slots.release index).2

/-- What a slot holds. -/
def content (index : Nat) : Action (Session δ α) SlotContent := fun session =>
  match session.slots.get? index with
  | some slot => .ok slot.content session
  | none => .error (.slotIndex index) session

/-- Whether a slot is in use by the task of the given number. -/
def holds (session : Session δ α) (index task : Nat) : Bool :=
  (session.slots.get? index).any fun slot => slot.taken && slot.content.task == some task

/-- The slot that a task holds in the needed stage. A task that holds none, or one that is
further or less far, is refused. -/
def ownedSlot (task : Task) (needed : Stage) : Action (Session δ α) Nat := fun session =>
  match task.slot with
  | none => .error (.registersMissing task.id) session
  | some index =>
      match session.slots.get? index with
      | none => .error (.slotMissing task.id index) session
      | some slot =>
          if !session.holds index task.id then
            .error (.slotForeign index task.id slot.content.task) session
          else if slot.stage ≠ needed then
            .error (.slotStage task.id index slot.stage needed) session
          else .ok index session

/-! ### Generating registers -/

/-- Takes a free slot. -/
def acquireSlot : Action (Session δ α) Nat := fun session =>
  match session.slots.acquire with
  | some (index, slots) => .ok index { session with slots }
  | none =>
      .error
        (if session.config.fastMode then .pipelineFull session.slots.capacity
          else .previousTaskPending)
        session

/-- What the line buffers for a picture depend on. -/
def shapeOf (session : Session δ α) (picture : Picture) : PictureShape :=
  { width := picture.sequence.width
    height := picture.sequence.height
    bitDepth := picture.sequence.lumaDepth
    chroma := picture.sequence.chroma
    fieldCoding := picture.sequence.fieldCoding
    compressed := session.compressed }

section Memory

variable [Allocator α]

/-- Sees to it that the line buffers fit a picture. -/
def ensureLines (picture : Picture) : Action (Session δ α) Unit := do
  let session ← get
  let event ← Action.on (fun session => (session.lines, session.board.memory))
    (fun (lines, memory) session =>
      { session with lines, board := { session.board with memory } })
    (LineBufferCache.ensure (session.shapeOf picture))
  if event.isSome then
    noteSome event
    let session ← get
    note (.lineBuffersReady session.lines.size)

/-- Sees to it that every slot of the picture store has room for motion vectors. -/
def ensureMotion (picture : Picture) : Action (Session δ α) Unit := do
  let session ← get
  let sequence := picture.sequence
  let size := MotionPool.bytesFor sequence.width sequence.height sequence.fieldCoding
  let event ← Action.on (fun session => (session.motion, session.board.memory))
    (fun (motion, memory) session =>
      { session with motion, board := { session.board with memory } })
    (MotionPool.ensure session.board.frames.slotCount size)
  noteSome event

/-- What the registers of a task depend on, if it is built in slot `index`. -/
def jobFor (session : Session δ α) (index : Nat) (task : Task) (references : ReferenceBlock) :
    Job :=
  { coded := task.coded
    references
    frame? := session.board.frames.frame?
    stream := task.stream
    streamLength := task.streamLength
    outputSlot := task.outputSlot
    region := session.layout.region index
    motion := session.motion
    lines := session.lines
    compressed := session.compressed
    serialiseAll := session.config.fastMode }

/-- Builds registers in slot `index`. The slot and the scratch buffer keep what a refused build
did. -/
def buildIn (index : Nat) (job : Job) : Action (Session δ α) Bool := do
  let content ← content index
  let session ← get
  let draft : Draft :=
    { file := content.file
      patches := content.patches
      cache := content.cache
      scratch := session.scratch }
  let result := Draft.build job draft
  let built := Action.after result
  set { session with
    scratch := built.scratch
    slots := session.slots.setContent index
      { content with file := built.file, patches := built.patches, cache := built.cache } }
  Action.ofExcept (Action.outcome result)

/-- Readies the shared buffers for a task and builds its registers in slot `index`. -/
def prepare (index : Nat) (task : Task) : Action (Session δ α) Unit := do
  let picture := task.coded.picture
  ensureLines picture
  ensureMotion picture
  let session ← get
  let references := picture.resolveReferences session.board.frames.frame? Layout.referenceCount
  note (.referencesResolved picture.presenceBitmap references.concealSlot)
  let full ← buildIn index (session.jobFor index task references)
  changeSlots fun slots => slots.modify index fun slot =>
    { slot with content := { slot.content with
        lineBuffers := LineBuffer.deviceList session.lines.buffers
        task := some task.id } }
  let session ← get
  onMemory (Allocator.sync session.scratch)
  note (.registersReady task.id index full)

/-- Takes a slot and builds the task's registers in it. Answers with the task, which now names
its slot. -/
def generate (task : Task) : Action (Session δ α) Task := do
  if task.flags.hasError then
    note (.generationSkipped task.id task.flags)
    return { task with slot := none }
  let session ← get
  if let some held := task.slot then
    if session.holds held task.id then
      throw (.slotHeld task.id held)
  let index ← acquireSlot
  match ← Action.attempt (prepare index task) with
  | .error fault =>
      releaseSlot index
      throw fault
  | .ok () =>
      changeSlots fun slots => slots.setStage index .built
      return { task with slot := some index }

end Memory

/-! ### Submitting and waiting -/

section Hardware

variable [Device δ]

/-- Hands the registers of a slot to the device and starts the task. -/
def submit (index : Nat) : Action (Session δ α) Unit := do
  let content ← content index
  Layout.written.forM fun sec =>
    onDevice (Device.writeRegisters sec.offset (sec.view content.file))
  onDevice (Device.announcePatches content.patches)
  onDevice (Device.announceLineBuffers content.lineBuffers)
  onDevice Device.send

/-- Starts a task whose registers were generated. -/
def start (task : Task) : Action (Session δ α) Unit := do
  if task.flags.hasError then
    note (.submissionSkipped task.id)
  else
    let index ← ownedSlot task .built
    match ← Action.attempt (submit index) with
    | .error fault =>
        note (.submissionFailed task.id fault)
        releaseSlot index
        throw fault
    | .ok () => changeSlots fun slots => slots.setStage index .submitted

/-- Waits for the device and reads the interrupt status back into the slot's register file. -/
def poll (index : Nat) : Action (Session δ α) Unit := do
  onDevice Device.poll
  let content ← content index
  let sec := Layout.interruptStatus
  let status ← onDevice (Device.readRegisters sec.offset (sec.view content.file).size)
  changeSlots fun slots => slots.setContent index
    { content with file := sec.store status content.file }

/-- Whether a finished poll means a hardware error, with the event to record if so. -/
def judge (task : Task) (file : Bytes) : Except Fault Unit → Bool × Option Event
  | .error fault => (true, some (.pollFailed task.id fault))
  | .ok () =>
      let verdict := Verdict.ofFile file
      if verdict.isHardError then
        (true, some (.hardwareError task.id (Layout.status.get file) verdict))
      else (false, none)

/-- Waits for a started task, reports it and gives its slot back. Only the main status word is
cleared in the slot's register file. -/
def wait (task : Task) : Action (Session δ α) Unit := do
  if task.flags.hasError then
    deliver (.skip task)
  else
    let index ← ownedSlot task .submitted
    let outcome ← Action.attempt (poll index)
    let content ← content index
    let (hardError, event) := judge task content.file outcome
    noteSome event
    changeSlots fun slots => slots.setContent index
      { content with file := Layout.status.set 0 content.file }
    deliver
      { task := task.id
        outputSlot := task.outputSlot
        hardError
        skipped := false
        status := Layout.status.get content.file
        file := content.file }
    releaseSlot index
    Action.ofExcept outcome

end Hardware

/-! ### Commands -/

/-- Switches compressed output; a change makes the next picture place its line buffers anew. -/
def setCompressed (compressed : Bool) : Action (Session δ α) Unit := do
  let session ← get
  if session.compressed ≠ compressed then
    set { session with compressed, lines := session.lines.invalidate }
    note (.compressionSwitched compressed)

/-- Carries out a command. Tasks in flight are not affected. -/
def control : Command → Action (Session δ α) Unit
  | .setOutput info => do
      let stride := StrideRule.forSize info.width info.height
      modify fun session =>
        { session with
          board := { session.board with frames := { session.board.frames with stride } } }
      setCompressed info.compressed
      note (.outputSized info.width info.height info.format stride)
  | .setFormat format compressed => do
      setCompressed compressed
      note (.outputFormatted format)
  | .other id _ => note (.commandIgnored id)

/-! ### Ending a session -/

/-- Gives every buffer back and leaves the board. -/
def close [Allocator α] (session : Session δ α) : Board δ α :=
  let memory := Allocator.release session.scratch session.board.memory
  let memory := (session.lines.release memory).2
  let memory := (session.motion.release memory).2
  let board := { session.board with memory }
  let board :=
    if 0 < session.slots.inUse then board.note (.releasedWithTasks session.slots.inUse) else board
  board.note .released

end Session

end VideoAccel
