import VideoAccel.Pipeline.Session
import VideoAccel.Proofs.Memory.Supply
import VideoAccel.Proofs.Pipeline.Slots
import VideoAccel.Proofs.Program.Build

/-!
What preparing a task comes to.

Preparing a task works on four things only: the line buffers and motion vector buffers that all
slots share, the allocator behind them, the scratch buffer, and the content of the task's slot.
`Prepares` lists its four ends, each with what was done up to there, and `prepare_spec` says that
there is no other. The rest of the session stays, apart from the journal, which nothing reads.
-/

namespace VideoAccel

namespace SlotContent

/-- What a build in this slot works on. -/
def draft (content : SlotContent) (scratch : Buffer) : Draft :=
  ⟨content.file, content.patches, content.cache, scratch⟩

/-- The content after a build. -/
def withDraft (content : SlotContent) (draft : Draft) : SlotContent :=
  { content with file := draft.file, patches := draft.patches, cache := draft.cache }

/-- The content with another register file. -/
def withFile (content : SlotContent) (file : Bytes) : SlotContent :=
  { content with file }

/-- The content of a slot that serves a task: built registers, the table of line buffers and the
task's number. -/
def serving (draft : Draft) (buffers : List LineBuffer) (task : Nat) : SlotContent :=
  { file := draft.file
    patches := draft.patches
    cache := draft.cache
    lineBuffers := LineBuffer.deviceList buffers
    task := some task }

end SlotContent

namespace Session

variable {δ α : Type}

/-- The shared buffers of a session. -/
def supply (session : Session δ α) : Supply α :=
  ⟨session.lines, session.motion, session.board.memory⟩

/-- The session with other shared buffers and another journal. -/
def resupply (session : Session δ α) (supply : Supply α) (journal : Journal) : Session δ α :=
  { session with
    lines := supply.lines
    motion := supply.motion
    board := { session.board with memory := supply.memory, journal } }

/-- The session after work in one slot: other shared buffers, another scratch buffer, another
slot and another journal. -/
def settle (session : Session δ α) (index : Nat) (slot : Slot SlotContent) (supply : Supply α)
    (scratch : Buffer) (journal : Journal) : Session δ α :=
  { session.resupply supply journal with
    scratch
    slots := session.slots.put index slot }

/-- What the registers of a task depend on, once the shared buffers are ready. -/
def jobWith (session : Session δ α) (index : Nat) (task : Task) (supply : Supply α) : Job :=
  { coded := task.coded
    references := task.coded.picture.resolveReferences session.board.frames.frame?
      Layout.referenceCount
    frame? := session.board.frames.frame?
    stream := task.stream
    streamLength := task.streamLength
    outputSlot := task.outputSlot
    region := session.layout.region index
    motion := supply.motion
    lines := supply.lines
    compressed := session.compressed
    serialiseAll := session.config.fastMode }

/-! ### Events -/

theorem note_run (event : Event) (session : Session δ α) :
    note event session = .ok () { session with board := session.board.note event } := rfl

/-- Putting something on record changes only the journal. -/
theorem noteSome_run (event : Option Event) (session : Session δ α) : ∃ journal,
    noteSome event session = .ok () { session with board := { session.board with journal } } := by
  cases event with
  | none => exact ⟨session.board.journal, rfl⟩
  | some event => exact ⟨session.board.journal.push event, rfl⟩

/-! ### Shared buffers -/

section Memory

variable [Allocator α]

/-- Readies the shared buffers for a picture. -/
def provision (session : Session δ α) (picture : Picture) : Action (Supply α) Unit :=
  Supply.provide (session.shapeOf picture) session.board.frames.slotCount
    (MotionPool.bytesFor picture.sequence.width picture.sequence.height
      picture.sequence.fieldCoding)

theorem provision_spec (session : Session δ α) (picture : Picture) :
    Supply.Provides (session.shapeOf picture) session.board.frames.slotCount
      (MotionPool.bytesFor picture.sequence.width picture.sequence.height
        picture.sequence.fieldCoding) session.supply
      (Action.outcome (session.provision picture session.supply))
      (Action.after (session.provision picture session.supply)) :=
  Supply.provide_spec ..

theorem ensureLines_run (picture : Picture) (session : Session δ α) : ∃ journal,
    ensureLines picture session =
      match Supply.ensureLines (session.shapeOf picture) session.supply with
      | .ok _ supply => .ok () (session.resupply supply journal)
      | .error fault supply => .error fault (session.resupply supply journal) := by
  unfold Supply.ensureLines Action.on
  cases ran : LineBufferCache.ensure (session.shapeOf picture)
      (session.lines, session.board.memory) with
  | error fault part =>
      refine ⟨session.board.journal, ?_⟩
      simp only [ensureLines, Bind.bind, EStateM.bind, Action.get_run, Action.on, ran, supply]
      rfl
  | ok event part =>
      cases event with
      | none =>
          refine ⟨session.board.journal, ?_⟩
          simp only [ensureLines, Bind.bind, EStateM.bind, Action.get_run, Action.on, ran, supply]
          rfl
      | some event =>
          refine ⟨(session.board.journal.push event).push (.lineBuffersReady part.1.size), ?_⟩
          simp only [ensureLines, Bind.bind, EStateM.bind, Action.get_run, Action.on, ran, supply]
          rfl

theorem ensureMotion_run (picture : Picture) (session : Session δ α) : ∃ journal,
    ensureMotion picture session =
      match Supply.ensureMotion session.board.frames.slotCount
        (MotionPool.bytesFor picture.sequence.width picture.sequence.height
          picture.sequence.fieldCoding) session.supply with
      | .ok _ supply => .ok () (session.resupply supply journal)
      | .error fault supply => .error fault (session.resupply supply journal) := by
  unfold Supply.ensureMotion Action.on
  cases ran : MotionPool.ensure session.board.frames.slotCount
      (MotionPool.bytesFor picture.sequence.width picture.sequence.height
        picture.sequence.fieldCoding) (session.motion, session.board.memory) with
  | error fault part =>
      refine ⟨session.board.journal, ?_⟩
      simp only [ensureMotion, Bind.bind, EStateM.bind, Action.get_run, Action.on, ran, supply]
      rfl
  | ok event part =>
      obtain ⟨journal, noted⟩ := noteSome_run event
        (session.resupply { session.supply with motion := part.1, memory := part.2 }
          session.board.journal)
      refine ⟨journal, ?_⟩
      simp only [ensureMotion, Bind.bind, EStateM.bind, Action.get_run, Action.on, ran, supply]
      exact noted

theorem provision_run (picture : Picture) (session : Session δ α) : ∃ journal,
    (do ensureLines picture; ensureMotion picture : Action (Session δ α) Unit) session =
      match session.provision picture session.supply with
      | .ok _ supply => .ok () (session.resupply supply journal)
      | .error fault supply => .error fault (session.resupply supply journal) := by
  obtain ⟨journal, lines⟩ := ensureLines_run picture session
  unfold provision Supply.provide
  cases first : Supply.ensureLines (session.shapeOf picture) session.supply with
  | error fault supply =>
      rw [first] at lines
      exact ⟨journal, by rw [Action.bind_of_error lines, Action.bind_of_error first]⟩
  | ok event supply =>
      rw [first] at lines
      obtain ⟨later, motion⟩ := ensureMotion_run picture (session.resupply supply journal)
      refine ⟨later, ?_⟩
      rw [Action.bind_of_ok lines, Action.bind_of_ok first, motion]
      have same : (session.resupply supply journal).supply = supply := rfl
      have slots : (session.resupply supply journal).board.frames = session.board.frames := rfl
      rw [same, slots]
      cases second : Supply.ensureMotion session.board.frames.slotCount
          (MotionPool.bytesFor picture.sequence.width picture.sequence.height
            picture.sequence.fieldCoding) supply with
      | error fault final =>
          rw [Action.bind_of_error second]
          rfl
      | ok event final =>
          rw [Action.bind_of_ok second]
          rfl

end Memory

/-! ### Building in a slot -/

theorem content_run {session : Session δ α} {index : Nat} {slot : Slot SlotContent}
    (found : session.slots.get? index = some slot) :
    content index session = .ok slot.content session := by
  rw [content, found]

theorem buildIn_run {session : Session δ α} {index : Nat} {slot : Slot SlotContent}
    (found : session.slots.get? index = some slot) (job : Job) :
    buildIn index job session =
      match Draft.build job (slot.content.draft session.scratch) with
      | .ok full draft =>
          .ok full { session with
            scratch := draft.scratch
            slots := session.slots.put index { slot with content := slot.content.withDraft draft } }
      | .error fault draft =>
          .error fault { session with
            scratch := draft.scratch
            slots := session.slots.put index
              { slot with content := slot.content.withDraft draft } } := by
  have changed : ∀ content, session.slots.setContent index content =
      session.slots.put index { slot with content } := SlotPool.setContent_eq_put found
  rw [buildIn, Action.bind_of_ok (content_run found), Action.bind_of_ok (Action.get_run session),
    Action.bind_of_ok (Action.set_run _ session)]
  unfold SlotContent.draft
  cases Draft.build job ⟨slot.content.file, slot.content.patches, slot.content.cache,
      session.scratch⟩ with
  | error fault draft =>
      simp only [Action.outcome_error, Action.after_error, Action.ofExcept, changed]
      rfl
  | ok full draft =>
      simp only [Action.outcome_ok, Action.after_ok, Action.ofExcept, changed]
      rfl

/-! ### The ends of preparing -/

section Memory

variable [Allocator α]

/-- How preparing a task in a slot can end: its outcome, the shared buffers, the scratch buffer and
the slot's content. -/
inductive Prepares (session : Session δ α) (index : Nat) (task : Task) (content : SlotContent) :
    Except Fault Unit → Supply α → Buffer → SlotContent → Prop where
  /-- A shared buffer is refused. -/
  | starved {fault : Fault} {supply : Supply α}
      (refused : session.provision task.coded.picture session.supply = .error fault supply) :
      Prepares session index task content (.error fault) supply session.scratch content
  /-- The build is refused. -/
  | unbuilt {supply : Supply α} {fault : Fault} {draft : Draft}
      (granted : session.provision task.coded.picture session.supply = .ok () supply)
      (refused : Draft.build (session.jobWith index task supply) (content.draft session.scratch) =
        .error fault draft) :
      Prepares session index task content (.error fault) supply draft.scratch
        (content.withDraft draft)
  /-- The blobs cannot be passed on to the device. -/
  | unsynced {supply : Supply α} {full : Bool} {draft : Draft} {fault : Fault} {memory : α}
      (granted : session.provision task.coded.picture session.supply = .ok () supply)
      (built : Draft.build (session.jobWith index task supply) (content.draft session.scratch) =
        .ok full draft)
      (refused : Allocator.sync draft.scratch supply.memory = .error fault memory) :
      Prepares session index task content (.error fault) { supply with memory } draft.scratch
        (.serving draft supply.lines.buffers task.id)
  /-- Everything is in place. -/
  | ready {supply : Supply α} {full : Bool} {draft : Draft} {memory : α}
      (granted : session.provision task.coded.picture session.supply = .ok () supply)
      (built : Draft.build (session.jobWith index task supply) (content.draft session.scratch) =
        .ok full draft)
      (synced : Allocator.sync draft.scratch supply.memory = .ok () memory) :
      Prepares session index task content (.ok ()) { supply with memory } draft.scratch
        (.serving draft supply.lines.buffers task.id)

/-- A slot whose registers were built serves the task they were built for. -/
theorem Prepares.serves {session : Session δ α} {own : Nat} {task : Task}
    {before final : SlotContent} {supply : Supply α} {scratch : Buffer}
    (prepares : Prepares session own task before (.ok ()) supply scratch final) :
    final.task = some task.id := by
  cases prepares with
  | ready granted built synced => rfl

/-- The register file of a slot whose registers were built is the image of the task. -/
theorem Prepares.file {session : Session δ α} {index : Nat} {task : Task}
    {content final : SlotContent} {supply : Supply α} {scratch : Buffer}
    (prepares : Prepares session index task content (.ok ()) supply scratch final) :
    final.file = Draft.image (session.jobWith index task supply) (content.draft session.scratch) := by
  cases prepares with
  | @ready supply full draft memory granted built synced =>
      obtain ⟨_, _, -, -, -, eq⟩ := Draft.build_eq_ok built
      show draft.file = Draft.image (session.jobWith index task supply) _
      rw [eq]

/-- Preparing a task stores its blobs in its own region only. -/
theorem Prepares.changedIn {session : Session δ α} {index : Nat} {task : Task}
    {content final : SlotContent} {outcome : Except Fault Unit} {supply : Supply α}
    {scratch : Buffer} (prepares : Prepares session index task content outcome supply scratch final) :
    Buffer.ChangedIn (session.layout.region index).Touches session.scratch scratch := by
  cases prepares with
  | starved refused => exact .refl _ _
  | @unbuilt supply fault draft granted refused =>
      have changed := Draft.build_scratch (session.jobWith index task supply)
        (content.draft session.scratch)
      rwa [refused] at changed
  | @unsynced supply full draft fault memory granted built refused =>
      have changed := Draft.build_scratch (session.jobWith index task supply)
        (content.draft session.scratch)
      rwa [built] at changed
  | @ready supply full draft memory granted built synced =>
      have changed := Draft.build_scratch (session.jobWith index task supply)
        (content.draft session.scratch)
      rwa [built] at changed

/-- The part of preparing that comes after the shared buffers are ready. -/
def assemble (index : Nat) (task : Task) : Action (Session δ α) Unit := do
  let session ← get
  let references := task.coded.picture.resolveReferences session.board.frames.frame?
    Layout.referenceCount
  note (.referencesResolved task.coded.picture.presenceBitmap references.concealSlot)
  let full ← buildIn index (session.jobFor index task references)
  changeSlots fun slots => slots.modify index fun slot =>
    { slot with content := { slot.content with
        lineBuffers := LineBuffer.deviceList session.lines.buffers
        task := some task.id } }
  let session ← get
  onMemory (Allocator.sync session.scratch)
  note (.registersReady task.id index full)

theorem prepare_eq (index : Nat) (task : Task) :
    prepare index task = (do
      (do ensureLines task.coded.picture; ensureMotion task.coded.picture :
        Action (Session δ α) Unit)
      assemble index task) := by
  rw [bind_assoc]
  rfl

theorem assemble_of_error {session : Session δ α} {index : Nat} {slot : Slot SlotContent}
    (found : session.slots.get? index = some slot) {task : Task} {fault : Fault} {draft : Draft}
    (refused : Draft.build (session.jobWith index task session.supply)
      (slot.content.draft session.scratch) = .error fault draft) :
    ∃ journal, assemble index task session =
      .error fault (session.settle index { slot with content := slot.content.withDraft draft }
        session.supply draft.scratch journal) := by
  let noted : Session δ α := { session with board := session.board.note (.referencesResolved
    task.coded.picture.presenceBitmap (task.coded.picture.resolveReferences
      session.board.frames.frame? Layout.referenceCount).concealSlot) }
  have foundNoted : noted.slots.get? index = some slot := found
  have built := buildIn_run foundNoted (session.jobWith index task session.supply)
  rw [show noted.scratch = session.scratch from rfl, refused] at built
  refine ⟨noted.board.journal, ?_⟩
  rw [assemble, Action.bind_of_ok (Action.get_run session), Action.bind_of_ok (note_run _ session)]
  exact Action.bind_of_error built _

theorem assemble_of_ok {session : Session δ α} {index : Nat} {slot : Slot SlotContent}
    (found : session.slots.get? index = some slot) {task : Task} {full : Bool} {draft : Draft}
    (answered : Draft.build (session.jobWith index task session.supply)
      (slot.content.draft session.scratch) = .ok full draft) :
    ∃ journal, assemble index task session =
      match Allocator.sync draft.scratch session.board.memory with
      | .ok _ memory =>
          .ok () (session.settle index
            { slot with content := .serving draft session.lines.buffers task.id }
            { session.supply with memory } draft.scratch journal)
      | .error fault memory =>
          .error fault (session.settle index
            { slot with content := .serving draft session.lines.buffers task.id }
            { session.supply with memory } draft.scratch journal) := by
  let noted : Session δ α := { session with board := session.board.note (.referencesResolved
    task.coded.picture.presenceBitmap (task.coded.picture.resolveReferences
      session.board.frames.frame? Layout.referenceCount).concealSlot) }
  have foundNoted : noted.slots.get? index = some slot := found
  have built := buildIn_run foundNoted (session.jobWith index task session.supply)
  rw [show noted.scratch = session.scratch from rfl, answered] at built
  rw [assemble, Action.bind_of_ok (Action.get_run session), Action.bind_of_ok (note_run _ session)]
  have filed : ∀ change, (noted.slots.put index
      { slot with content := slot.content.withDraft draft }).modify index change =
        session.slots.put index (change { slot with content := slot.content.withDraft draft }) := by
    intro change
    rw [SlotPool.modify_eq_put (SlotPool.get?_put_self foundNoted _), SlotPool.put_put]
  cases synced : Allocator.sync draft.scratch session.board.memory with
  | error fault memory =>
      refine ⟨noted.board.journal, (Action.bind_of_ok built _).trans ?_⟩
      simp only [changeSlots, Bind.bind, EStateM.bind, Action.modify_run, Action.get_run, onMemory,
        Action.on, filed]
      rw [show noted.board.memory = session.board.memory from rfl, synced]
      rfl
  | ok done memory =>
      refine ⟨noted.board.journal.push (.registersReady task.id index full),
        (Action.bind_of_ok built _).trans ?_⟩
      simp only [changeSlots, Bind.bind, EStateM.bind, Action.modify_run, Action.get_run, onMemory,
        Action.on, filed]
      rw [show noted.board.memory = session.board.memory from rfl, synced]
      rfl

/-- Preparing a task ends in one of these ways and changes nothing else but the journal. -/
theorem prepare_spec {session : Session δ α} {index : Nat} {slot : Slot SlotContent}
    (found : session.slots.get? index = some slot) (task : Task) :
    ∃ supply scratch content journal,
      Prepares session index task slot.content (Action.outcome (prepare index task session)) supply
        scratch content ∧
      Action.after (prepare index task session) =
        session.settle index { slot with content } supply scratch journal := by
  obtain ⟨journal, provisioned⟩ := provision_run task.coded.picture session
  rw [prepare_eq]
  cases granted : session.provision task.coded.picture session.supply with
  | error fault supply =>
      rw [granted] at provisioned
      rw [Action.bind_of_error provisioned]
      refine ⟨supply, session.scratch, slot.content, journal, .starved granted, ?_⟩
      rw [Action.after_error, settle, SlotPool.put_self found]
      rfl
  | ok done supply =>
      rw [granted] at provisioned
      rw [Action.bind_of_ok provisioned]
      have foundSupplied : (session.resupply supply journal).slots.get? index = some slot := found
      have job : (session.resupply supply journal).jobWith index task
          (session.resupply supply journal).supply = session.jobWith index task supply := rfl
      cases answered : Draft.build (session.jobWith index task supply)
          (slot.content.draft session.scratch) with
      | error fault draft =>
          obtain ⟨later, ended⟩ := assemble_of_error foundSupplied (job ▸ answered)
          rw [ended]
          exact ⟨supply, draft.scratch, slot.content.withDraft draft, later,
            .unbuilt granted answered, rfl⟩
      | ok full draft =>
          obtain ⟨later, ended⟩ := assemble_of_ok foundSupplied (job ▸ answered)
          cases synced : Allocator.sync draft.scratch supply.memory with
          | error fault memory =>
              have synced' : Allocator.sync draft.scratch
                (session.resupply supply journal).board.memory = .error fault memory := synced
              rw [ended, synced']
              exact ⟨_, draft.scratch, _, later, .unsynced granted answered synced, rfl⟩
          | ok done memory =>
              have synced' : Allocator.sync draft.scratch
                (session.resupply supply journal).board.memory = .ok () memory := synced
              rw [ended, synced']
              exact ⟨_, draft.scratch, _, later, .ready granted answered synced, rfl⟩

end Memory

end Session

end VideoAccel
