import VideoAccel.Proofs.Memory.Holdings
import VideoAccel.Proofs.Memory.LineBuffers
import VideoAccel.Proofs.Pipeline.Balance

/-!
The buffers of a decoder on an arena.

An arena keeps books, so the live buffers are those of the decoder and those of others
(`Run.owes`). The surroundings may make the arena refuse and grant again at any time, as long as they
hand nothing out and take nothing back. The scratch buffer of a decoder at work is as large as its
layout asks for (`Reachable.whole`), and passing it on changes nothing in an arena.
-/

namespace VideoAccel

variable {δ : Type}

/-- The surroundings hand out no buffer and take none back. They may change everything else, also
what the arena refuses. -/
def LeavesBuffers (before after : Board δ Arena) : Prop :=
  after.memory.live = before.memory.live ∧ after.memory.nextHandle = before.memory.nextHandle

namespace Session

variable {session later : Session δ Arena} {task : Task} {others : List (Handle × Nat)}

/-- In an arena the buffers that are out are the live ones. -/
theorem Balanced.owes (balanced : session.Balanced others) :
    session.board.memory.Owes (session.owned ++ others) :=
  balanced

/-- What preparing a task makes of the shared buffers is what readying them made of them; passing
the scratch buffer on changes nothing in an arena. -/
theorem Prepares.provides {index : Nat} {task : Task} {content final : SlotContent}
    {outcome : Except Fault Unit} {supply : Supply Arena} {scratch : Buffer}
    (prepares : Prepares session index task content outcome supply scratch final) :
    ∃ answer, session.supply.Provides (session.shapeOf task.coded.picture)
      session.board.frames.slotCount
      (MotionPool.bytesFor task.coded.picture.sequence.width task.coded.picture.sequence.height
        task.coded.picture.sequence.fieldCoding) answer supply := by
  have provided := session.provision_spec task.coded.picture
  cases prepares with
  | starved refused =>
      rw [refused] at provided
      exact ⟨_, provided⟩
  | unbuilt granted refused =>
      rw [granted] at provided
      exact ⟨_, provided⟩
  | unsynced granted built refused => cases refused
  | ready granted built synced =>
      rw [granted] at provided
      cases synced
      exact ⟨_, provided⟩

/-- A task that was prepared in an arena has the shared buffers that readying them left. -/
theorem Prepares.provided {index : Nat} {task : Task} {content final : SlotContent}
    {supply : Supply Arena} {scratch : Buffer}
    (prepares : Prepares session index task content (.ok ()) supply scratch final) :
    session.provision task.coded.picture session.supply = .ok () supply := by
  cases prepares with
  | ready granted built synced =>
      cases synced
      exact granted

/-! ### The size of the scratch buffer -/

/-- The scratch buffer is as large as its layout asks for. -/
def Whole (session : Session δ Arena) : Prop :=
  session.scratch.size = session.layout.totalSize

theorem Whole.opened {config : Config} {before board : Board δ Arena} {scratch : Buffer}
    (taken : Decoder.takeScratch (.of scratchSizes config.slotCount) before = .ok scratch board)
    (reporting : Bool) : (Session.opened config reporting scratch board).Whole := by
  obtain ⟨buffer, memory, synced, journal, granted, stored, -, -⟩ := Decoder.takeScratch_stages taken
  have changed : Action.Keeps (Buffer.ChangedIn fun _ => True) (Buffer.write
      (ScratchLayout.of scratchSizes config.slotCount).entropyOffset EntropyTable.table) :=
    Buffer.write_changedIn fun _ _ _ => trivial
  exact (changed.ok stored).size.trans (ExactGrants.size_eq granted)

theorem Whole.of_same {before after : Session δ Arena} (whole : before.Whole)
    (scratch : after.scratch = before.scratch) (layout : after.layout = before.layout) :
    after.Whole := by
  unfold Whole
  rw [scratch, layout]
  exact whole

theorem Whole.reported (whole : session.Whole) (report : Report) :
    (session.reported report).Whole := by
  rw [reported_eq]
  exact whole

theorem Whole.settled (whole : session.Whole) {index : Nat} {content final : SlotContent}
    {outcome : Except Fault Unit} {supply : Supply Arena} {scratch : Buffer}
    (prepares : Prepares session index task content outcome supply scratch final)
    (slot : Slot SlotContent) (journal : Journal) :
    (session.settle index slot supply scratch journal).Whole :=
  prepares.changedIn.size.trans whole

theorem Whole.generates {outcome : Except Fault Task} (whole : session.Whole)
    (generates : Generates session task outcome later) : later.Whole := by
  cases generates with
  | skipped flagged journal => exact whole.of_same rfl rfl
  | held unflagged names holds => exact whole
  | full unflagged unheld busy => exact whole
  | failed unflagged unheld first prepares journal => exact whole.settled prepares _ journal
  | built unflagged unheld first prepares journal => exact whole.settled prepares _ journal

variable [Device δ]

theorem Whole.starts {outcome : Except Fault Unit} (whole : session.Whole)
    (starts : Starts session task outcome later) : later.Whole := by
  cases starts with
  | skipped flagged journal => exact whole.of_same rfl rfl
  | refused unflagged misdirected kind => exact whole
  | failed unflagged owns refused journal => exact whole.of_same rfl rfl
  | started unflagged owns accepted journal => exact whole.of_same rfl rfl

theorem Whole.waits {outcome : Except Fault Unit} (whole : session.Whole)
    (waits : Waits session task outcome later) : later.Whole := by
  cases waits with
  | skipped flagged => exact whole.reported _
  | refused unflagged misdirected kind => exact whole
  | lost unflagged owns silent journal =>
      exact (whole.of_same rfl rfl : (session.redevice _ _ _ _).Whole).reported _
  | finished unflagged owns collected stored journal =>
      exact (whole.of_same rfl rfl : (session.redevice _ _ _ _).Whole).reported _

end Session

/-- The scratch buffer is the next buffer that the arena hands out; nothing else is. -/
theorem Decoder.takeScratch_eq_ok {layout : ScratchLayout} {board left : Board δ Arena} {scratch : Buffer}
    (taken : takeScratch layout board = .ok scratch left) :
    scratch.handle = ⟨board.memory.nextHandle⟩ ∧ ∃ memory journal,
      left = { board with memory, journal } ∧
      memory.nextHandle = board.memory.nextHandle + 1 := by
  obtain ⟨buffer, memory, synced, journal, granted, stored, passed, rfl⟩ := takeScratch_stages taken
  rcases Arena.alloc_cases layout.totalSize board.memory with ⟨-, refused⟩ | ⟨-, next⟩
  · cases granted.symm.trans refused
  · cases granted.symm.trans next
    cases passed
    have everywhere : Action.Keeps (Buffer.ChangedIn fun _ => True)
        (Buffer.write layout.entropyOffset EntropyTable.table) :=
      Buffer.write_changedIn fun _ _ _ => trivial
    exact ⟨(everywhere.ok stored).handle, _, _, rfl, rfl⟩

section Runs

variable [Device δ] {surroundings : Board δ Arena → Board δ Arena → Prop}

theorem Reachable.whole {session : Session δ Arena} (reached : Reachable surroundings session) :
    session.Whole := by
  obtain ⟨board, moments, run⟩ := reached
  exact run.invariant_of_taken (fun _ reporting _ _ _ _ taken => .opened taken reporting)
    Session.Whole.generates Session.Whole.starts Session.Whole.waits
    (fun whole => whole.of_same rfl rfl) (fun whole => whole.of_same rfl rfl)
    (fun _ impossible => by cases impossible) session rfl

/-- In every session that a run can reach, the live buffers are those of the session and those of
others. -/
theorem Run.owes (calm : ∀ before after, surroundings before after → LeavesBuffers before after)
    {board : Board δ Arena} {others : List (Handle × Nat)} (owes : board.memory.Owes others)
    {moments : List (Moment δ Arena)} {session : Session δ Arena}
    (run : Run surroundings (.idle board) moments (.working session)) : session.Balanced others :=
  run.balanced
    (fun allowed before =>
      Arena.Owes.of_same before (calm _ _ allowed).1 (calm _ _ allowed).2)
    owes

end Runs

end VideoAccel
