import VideoAccel.Proofs.Pipeline.Progress
import VideoAccel.Proofs.Program.Handles

/-!
The buffers behind a task in flight.

A built register file holds handles of buffers that all slots share. Line buffers and motion vector
buffers are given back when a later task needs others, also while earlier tasks are in flight; the
scratch buffer stays as long as the session. `Run.in_flight_buffers` says which of the handles in
the register file of a slot in use still name live buffers: those of the scratch buffer always, and
the others exactly as long as no later call gave their buffers back.
-/

namespace VideoAccel

variable {δ α : Type}

namespace Session

/-- Generating the task's registers gives the line buffers back, whether or not others are granted
for it. -/
def ReplacesLines (session : Session δ Arena) (task : Task) : Prop :=
  session.Admits task ∧ session.lines.serves (session.shapeOf task.coded.picture) = false

/-- Generating the task's registers gives the motion vector buffers back, whether or not others are
granted for it. -/
def RebuildsMotion (session : Session δ Arena) (task : Task) : Prop :=
  session.Admits task ∧ session.supply.GrantsLines (session.shapeOf task.coded.picture) ∧
    session.motion.serves session.board.frames.slotCount
      (MotionPool.bytesFor task.coded.picture.sequence.width task.coded.picture.sequence.height
        task.coded.picture.sequence.fieldCoding) = false

end Session

namespace Moment

/-- The call gives the line buffers back. -/
def ReplacesLines (moment : Moment δ Arena) : Prop :=
  ∃ session task, moment = ⟨.working session, .generate task⟩ ∧ session.ReplacesLines task

/-- The call gives the motion vector buffers back. -/
def RebuildsMotion (moment : Moment δ Arena) : Prop :=
  ∃ session task, moment = ⟨.working session, .generate task⟩ ∧ session.RebuildsMotion task

end Moment

namespace Session

/-! ### What becomes of the shared buffers -/

/-- From one session to a later one the scratch buffer stays; the line buffers were given back if
`lines` holds, and stay otherwise, and likewise for the motion vector buffers. -/
structure Trades (before after : Session δ Arena) (lines motion : Prop) : Prop where
  later : before.board.memory.Later after.board.memory
  scratch : after.scratch.handle = before.scratch.handle
  linesKept : ¬ lines → after.lines.memory = before.lines.memory
  linesGone : lines → ∀ tag ∈ before.lines.tags, ¬ after.board.memory.Live tag.1
  motionKept : ¬ motion → after.motion = before.motion
  motionGone : motion → ∀ tag ∈ before.motion.tags, ¬ after.board.memory.Live tag.1

variable {a b c : Session δ Arena} {lines motion lines' motion' : Prop}
  {others : List (Handle × Nat)}

theorem Trades.congr (trades : Trades a b lines motion) (sameLines : lines ↔ lines')
    (sameMotion : motion ↔ motion') : Trades a b lines' motion' := by
  obtain rfl : lines = lines' := propext sameLines
  obtain rfl : motion = motion' := propext sameMotion
  exact trades

/-- Nothing was given back. -/
theorem Trades.of_same (later : a.board.memory.Later b.board.memory)
    (scratch : b.scratch.handle = a.scratch.handle) (lines : b.lines.memory = a.lines.memory)
    (motion : b.motion = a.motion) : Trades a b False False where
  later := later
  scratch := scratch
  linesKept _ := lines
  linesGone impossible := impossible.elim
  motionKept _ := motion
  motionGone impossible := impossible.elim

theorem Trades.trans (balanced : a.Balanced others) (first : Trades a b lines motion)
    (second : Trades b c lines' motion') : Trades a c (lines ∨ lines') (motion ∨ motion') := by
  have issued : ∀ tag ∈ a.supply.tags, tag.1.value < b.board.memory.nextHandle :=
    fun tag member => Int.lt_of_lt_of_le
      (balanced.owes.issued tag (List.mem_append_left _ (List.mem_append_left _ member)))
      first.later.next
  refine ⟨Arena.Later.steady.trans first.later second.later, second.scratch.trans first.scratch,
    ?_, ?_, ?_, ?_⟩
  · intro kept
    obtain ⟨here, there⟩ := not_or.mp kept
    exact (second.linesKept there).trans (first.linesKept here)
  · intro gone tag member
    by_cases here : lines
    · exact second.later.still_dead (issued tag (List.mem_append_left _ member))
        (first.linesGone here tag member)
    · apply second.linesGone (gone.resolve_left here)
      unfold LineBufferCache.tags
      rw [first.linesKept here]
      exact member
  · intro kept
    obtain ⟨here, there⟩ := not_or.mp kept
    exact (second.motionKept there).trans (first.motionKept here)
  · intro gone tag member
    by_cases here : motion
    · exact second.later.still_dead (issued tag (List.mem_append_right _ member))
        (first.motionGone here tag member)
    · apply second.motionGone (gone.resolve_left here)
      rw [first.motionKept here]
      exact member

variable {session later : Session δ Arena} {task : Task}

theorem Prepares.trades (balanced : session.Balanced others) (admits : session.Admits task) {index : Nat}
    {content final : SlotContent} {outcome : Except Fault Unit} {supply : Supply Arena}
    {scratch : Buffer} (prepares : Prepares session index task content outcome supply scratch final)
    (slot : Slot SlotContent) (journal : Journal) :
    Trades session (session.settle index slot supply scratch journal)
      (session.ReplacesLines task) (session.RebuildsMotion task) := by
  obtain ⟨answer, provides⟩ := prepares.provides
  have owes := balanced.owes
  unfold owned at owes
  rw [List.append_assoc] at owes
  refine ⟨provides.later, prepares.changedIn.handle, ?_, ?_, ?_, ?_⟩
  · intro spared
    have serves : session.lines.serves (session.shapeOf task.coded.picture) = true := by
      rw [← Bool.not_eq_false]
      exact fun outdated => spared ⟨admits, outdated⟩
    exact congrArg LineBufferCache.memory (provides.lines_kept serves)
  · intro replaces
    exact fun tag => provides.lines_dead owes replaces.2
  · intro spared
    exact provides.motion_kept fun both => spared ⟨admits, both⟩
  · intro rebuilds
    exact fun tag => provides.motion_dead owes rebuilds.2.1 rebuilds.2.2

theorem Generates.trades (balanced : session.Balanced others) {outcome : Except Fault Task}
    (generates : Generates session task outcome later) :
    Trades session later (session.ReplacesLines task) (session.RebuildsMotion task) := by
  rcases generates.admission with
    ⟨out, journal, rfl⟩ | ⟨admits, index, old, answer, supply, scratch, content, taken, stage,
      journal, first, prepares, rfl⟩
  · have quiet : Trades session (session.recorded journal) False False :=
      .of_same (Arena.Later.steady.refl session.board.memory) rfl rfl rfl
    exact quiet.congr ⟨False.elim, fun replaces => out replaces.1⟩
      ⟨False.elim, fun rebuilds => out rebuilds.1⟩
  · exact prepares.trades balanced admits ⟨taken, stage, content⟩ journal

theorem Trades.reported {before after : Session δ Arena} (trades : Trades before after lines motion)
    (report : Report) : Trades before (after.reported report) lines motion := by
  unfold Session.reported
  split
  · exact ⟨trades.later, trades.scratch, trades.linesKept, trades.linesGone, trades.motionKept,
      trades.motionGone⟩
  · exact trades

theorem Starts.trades [Device δ] {outcome : Except Fault Unit}
    (starts : Starts session task outcome later) : Trades session later False False := by
  have steady := Arena.Later.steady.refl session.board.memory
  cases starts <;> exact .of_same steady rfl rfl rfl

theorem Waits.trades [Device δ] {outcome : Except Fault Unit}
    (waits : Waits session task outcome later) : Trades session later False False := by
  have steady := Arena.Later.steady.refl session.board.memory
  have quiet : Trades session session False False := .of_same steady rfl rfl rfl
  have idled : ∀ device index slot journal,
      Trades session (session.redevice device index slot journal) False False :=
    fun _ _ _ _ => .of_same steady rfl rfl rfl
  cases waits with
  | skipped flagged => exact quiet.reported _
  | refused unflagged misdirected kind => exact quiet
  | lost unflagged owns silent journal => exact (idled ..).reported _
  | finished unflagged owns collected stored journal =>
      exact (idled ..).reported _

/-! ### What the register file of a slot refers to -/

/-- The handles in a register file are those of the buffers of a session. -/
structure Refers (session : Session δ α) (file : Bytes) : Prop where
  lines : ∀ reg ∈ Layout.lineBufferRegisters, (Field.word reg).get file ≠ 0 →
    (Field.word reg).get file = session.lines.handle.registerValue
  scratch : ∀ field ∈ Layout.scratchFields, field.get file ≠ 0 →
    field.get file = session.scratch.handle.registerValue
  motion : ∀ field ∈ Layout.motionFields, field.get file ≠ 0 →
    ∃ buffer ∈ session.motion.buffers, field.get file = buffer.handle.registerValue

section Memory

variable [Allocator α]

/-- A slot that was prepared for a task refers to the buffers of the session it is settled in. -/
theorem Prepares.refers {session : Session δ α} (formed : session.Formed) {index : Nat} {task : Task}
    {content final : SlotContent} {supply : Supply α} {scratch : Buffer}
    (full : content.file.size = Layout.fileBytes)
    (prepares : Prepares session index task content (.ok ()) supply scratch final)
    (slot : Slot SlotContent) (journal : Journal) :
    (session.settle index slot supply scratch journal).Refers final.file := by
  have handle := prepares.changedIn.handle
  have sound := formed.prepares_sound prepares full
  have whole : (content.draft session.scratch).file.size = Layout.fileBytes := full
  rw [prepares.file]
  refine ⟨?_, ?_, ?_⟩
  · exact fun reg known written => Job.get_lineBuffer_image sound whole known written
  · intro field known written
    rw [Job.get_scratch_image sound whole known written]
    show session.scratch.handle.registerValue = scratch.handle.registerValue
    rw [handle]
  · exact fun field known written => Job.get_motion_image sound whole known written

/-- The address register of a line buffer in use names the buffer behind all line buffers. -/
theorem Prepares.get_lineBuffer {session : Session δ α} (formed : session.Formed) {index : Nat}
    {task : Task} {content final : SlotContent} {supply : Supply α} {scratch : Buffer}
    (full : content.file.size = Layout.fileBytes)
    (prepares : Prepares session index task content (.ok ()) supply scratch final)
    {buffer : LineBuffer} (member : buffer ∈ supply.lines.buffers) (used : buffer.size ≠ 0) :
    (Field.word buffer.reg).get final.file = supply.lines.handle.registerValue := by
  have sound := formed.prepares_sound prepares full
  have whole : (content.draft session.scratch).file.size = Layout.fileBytes := full
  rw [prepares.file]
  exact Job.get_lineBuffer_image_of_mem sound whole member used

/-- A slot in use after generating was in use before with the same content, or the call built its
registers. -/
theorem Generates.slot_since {session later : Session δ α} {task : Task} (formed : session.Formed)
    {outcome : Except Fault Task} (generates : Generates session task outcome later) {index : Nat}
    {slot : Slot SlotContent} (found : later.slots.get? index = some slot)
    (taken : slot.taken = true) :
    (∃ old, session.slots.get? index = some old ∧ old.taken = true ∧
      old.content = slot.content) ∨
    (outcome = .ok { task with slot := some index } ∧ slot.stage = .built ∧
      slot.content.task = some task.id ∧ later.Refers slot.content.file) := by
  cases generates with
  | skipped flagged journal => exact .inl ⟨slot, found, taken, rfl⟩
  | held unflagged names holds => exact .inl ⟨slot, found, taken, rfl⟩
  | full unflagged unheld busy => exact .inl ⟨slot, found, taken, rfl⟩
  | @failed unflagged unheld own old first fault supply scratch content prepares journal =>
      by_cases here : own = index
      · subst here
        cases (SlotPool.get?_put_self first.found _).symm.trans found
        cases taken
      · exact .inl ⟨slot, (SlotPool.get?_put_of_ne _ here _).symm.trans found, taken, rfl⟩
  | @built unflagged unheld own old first supply scratch content prepares journal =>
      by_cases here : own = index
      · subst here
        cases (SlotPool.get?_put_self first.found _).symm.trans found
        have full := (formed.slots own old first.found).file
        exact .inr ⟨rfl, rfl, prepares.serves, prepares.refers formed full _ journal⟩
      · exact .inl ⟨slot, (SlotPool.get?_put_of_ne _ here _).symm.trans found, taken, rfl⟩

end Memory

section Hardware

variable [Device δ]

/-- A slot in use after starting a task was in use before with the same content. -/
theorem Starts.slot_since {session later : Session δ α} {task : Task} {outcome : Except Fault Unit}
    (starts : Starts session task outcome later) {index : Nat} {slot : Slot SlotContent}
    (found : later.slots.get? index = some slot) (taken : slot.taken = true) :
    ∃ old, session.slots.get? index = some old ∧ old.taken = true ∧ old.content = slot.content := by
  cases starts with
  | skipped flagged journal => exact ⟨slot, found, taken, rfl⟩
  | refused unflagged misdirected kind => exact ⟨slot, found, taken, rfl⟩
  | @failed unflagged own old owns fault device refused journal =>
      by_cases here : own = index
      · subst here
        cases (SlotPool.get?_put_self owns.found _).symm.trans found
        cases taken
      · exact ⟨slot, (SlotPool.get?_put_of_ne _ here _).symm.trans found, taken, rfl⟩
  | @started unflagged own old owns device accepted journal =>
      by_cases here : own = index
      · subst here
        cases (SlotPool.get?_put_self owns.found _).symm.trans found
        exact ⟨old, owns.found, owns.taken, rfl⟩
      · exact ⟨slot, (SlotPool.get?_put_of_ne _ here _).symm.trans found, taken, rfl⟩

/-- A slot in use after waiting for a task was in use before with the same content. -/
theorem Waits.slot_since {session later : Session δ α} {task : Task} {outcome : Except Fault Unit}
    (waits : Waits session task outcome later) {index : Nat} {slot : Slot SlotContent}
    (found : later.slots.get? index = some slot) (taken : slot.taken = true) :
    ∃ old, session.slots.get? index = some old ∧ old.taken = true ∧ old.content = slot.content := by
  have idled : ∀ {own : Nat} {old : Slot SlotContent} {device : δ} {content : SlotContent}
      {journal : Journal} {report : Report}, session.slots.get? own = some old →
      ((session.redevice device own ⟨false, .idle, content⟩ journal).reported report).slots.get?
        index = some slot → session.slots.get? index = some slot := by
    intro own old device content journal report known found
    rw [reported_slots] at found
    by_cases here : own = index
    · subst here
      cases (SlotPool.get?_put_self known _).symm.trans found
      cases taken
    · exact (SlotPool.get?_put_of_ne _ here _).symm.trans found
  cases waits with
  | skipped flagged =>
      rw [reported_slots] at found
      exact ⟨slot, found, taken, rfl⟩
  | refused unflagged misdirected kind => exact ⟨slot, found, taken, rfl⟩
  | lost unflagged owns silent journal => exact ⟨slot, idled owns.found found, taken, rfl⟩
  | finished unflagged owns collected stored journal =>
      exact ⟨slot, idled owns.found found, taken, rfl⟩

end Hardware

/-! ### Back to the call that built a slot -/

/-- Generating the task's registers built the content in a slot, and left the session `origin`. -/
structure Builds [Allocator α] (before : Session δ α) (task : Task) (index : Nat)
    (content : SlotContent) (origin : Session δ α) : Prop where
  generated : generate task before = .ok { task with slot := some index } origin
  found : origin.slots.get? index = some ⟨true, .built, content⟩
  serves : content.task = some task.id
  refers : origin.Refers content.file

/-- What one call means for a slot that is in use afterwards: it was in use before with the same
content, or the call has built it. -/
theorem slot_since_call [Device δ] [Allocator α] {session next : Session δ α}
    (formed : session.Formed) {call : Call} (ran : call.next (.working session) = .working next)
    {index : Nat} {slot : Slot SlotContent} (found : next.slots.get? index = some slot)
    (taken : slot.taken = true) :
    (∃ old, session.slots.get? index = some old ∧ old.taken = true ∧ old.content = slot.content) ∨
    ∃ task, call = .generate task ∧ session.Builds task index slot.content next := by
  have leads := call.next_spec (.working session)
  rw [ran] at leads
  cases leads with
  | @generated _ task generates =>
      rcases generates.slot_since formed found taken with old | ⟨answered, stage, serves, refers⟩
      · exact .inl old
      · refine .inr ⟨task, rfl, ?_, ?_, serves, refers⟩
        · cases result : generate task session with
          | ok owned later =>
              rw [result] at answered
              cases answered
              rfl
          | error fault later =>
              rw [result] at answered
              cases answered
        · obtain ⟨isTaken, isStage, content⟩ := slot
          cases taken
          cases stage
          exact found
  | started ends => exact .inl (ends.slot_since found taken)
  | waited ends => exact .inl (ends.slot_since found taken)
  | commanded => exact .inl ⟨slot, found, taken, rfl⟩
  | noted acknowledged => exact .inl ⟨slot, found, taken, rfl⟩
  | refused invalid => exact .inl ⟨slot, found, taken, rfl⟩
  | opened valid granted =>
      -- The slots of a session that was just opened are free.
      obtain ⟨i, -, rfl⟩ := List.mem_map.mp (List.mem_of_getElem? found)
      cases taken

end Session

namespace Run

section Slots

variable [Device δ] [Allocator α] {surroundings : Board δ α → Board δ α → Prop} {board : Board δ α}
  {moments : List (Moment δ α)} {decoder : Decoder δ α}

/-- A statement about the moments so far, the session they led to, and the content of a slot in use
there holds along a run, if it holds of every content that was just built, and if every call that
leaves the slot in use keeps it, and every allowed change of the board. -/
theorem slots_induction {P : List (Moment δ α) → Session δ α → Nat → SlotContent → Prop}
    (built : ∀ {moments session task next index content},
      Run surroundings (.idle board) moments (.working session) →
      session.Builds task index content next →
      P (moments ++ [⟨.working session, .generate task⟩]) next index content)
    (kept : ∀ {moments session call next index slot},
      Run surroundings (.idle board) moments (.working session) →
      call.next (.working session) = .working next → next.slots.get? index = some slot →
      slot.taken = true → P moments session index slot.content →
      P (moments ++ [⟨.working session, call⟩]) next index slot.content)
    (outside : ∀ {moments session other index content},
      Run surroundings (.idle board) moments (.working session) →
      surroundings session.board other → P moments session index content →
      P moments (session.withBoard other) index content)
    (run : Run surroundings (.idle board) moments decoder) :
    ∀ session, decoder = .working session → ∀ index slot, session.slots.get? index = some slot →
      slot.taken = true → P moments session index slot.content := by
  induction run with
  | nil =>
      intro session impossible
      cases impossible
  | @call moments decoder earlier call ih =>
      intro next ran index slot found taken
      cases decoder with
      | idle board =>
          have leads := call.next_spec (.idle board)
          rw [ran] at leads
          cases leads with
          | opened valid granted =>
              -- The slots of a session that was just opened are free.
              obtain ⟨i, -, rfl⟩ := List.mem_map.mp (List.mem_of_getElem? found)
              cases taken
      | working session =>
          have formed := earlier.formed fun _ impossible => by cases impossible
          rcases Session.slot_since_call formed ran found taken with
            ⟨old, known, inUse, content⟩ | ⟨task, rfl, builds⟩
          · have before := ih session rfl index old known inUse
            rw [content] at before
            exact kept earlier ran found taken before
          · exact built earlier builds
  | @outside moments decoder earlier other allowed ih =>
      intro next ran index slot found taken
      cases decoder with
      | idle board => cases ran
      | working session =>
          cases ran
          exact outside earlier allowed (ih session rfl index slot found taken)

/-- Every content of a slot in use was built by an earlier call. -/
theorem slot_built (run : Run surroundings (.idle board) moments decoder) :
    ∀ session, decoder = .working session → ∀ index slot, session.slots.get? index = some slot →
      slot.taken = true → ∃ before task origin, ⟨.working before, .generate task⟩ ∈ moments ∧
        before.Builds task index slot.content origin := by
  refine run.slots_induction (P := fun moments _ index content => ∃ before task origin,
    ⟨.working before, .generate task⟩ ∈ moments ∧ before.Builds task index content origin) ?_ ?_ ?_
  · intro moments session task next index content _ builds
    exact ⟨session, task, next, List.mem_append_right _ (List.mem_singleton_self _), builds⟩
  · rintro moments session call next index slot _ _ _ _ ⟨before, task, origin, member, builds⟩
    exact ⟨before, task, origin, List.mem_append_left _ member, builds⟩
  · intro moments session other index content _ _ before
    exact before

end Slots

end Run

/-! ### What has become of its buffers since -/

namespace Session

/-- The slot has the content that a call of `generate` built in it, `before` being the session it was
called on, `origin` the one it left, and `later` the moments since. -/
structure BuiltBy (session : Session δ Arena) (moments : List (Moment δ Arena)) (index : Nat)
    (content : SlotContent) (before : Session δ Arena) (task : Task) (origin : Session δ Arena)
    (later : List (Moment δ Arena)) : Prop extends before.Builds task index content origin where
  moments : ∃ earlier, moments = earlier ++ ⟨.working before, .generate task⟩ :: later
  balanced : ∃ others, origin.Balanced others
  trades : origin.Trades session (∃ moment ∈ later, moment.ReplacesLines)
    (∃ moment ∈ later, moment.RebuildsMotion)

theorem BuiltBy.extend {session next before origin : Session δ Arena}
    {moments later : List (Moment δ Arena)} {index : Nat} {content : SlotContent} {task : Task}
    (built : session.BuiltBy moments index content before task origin later)
    {moment : Moment δ Arena}
    (trades : session.Trades next moment.ReplacesLines moment.RebuildsMotion) :
    next.BuiltBy (moments ++ [moment]) index content before task origin (later ++ [moment]) where
  toBuilds := built.toBuilds
  moments := by
    obtain ⟨earlier, rfl⟩ := built.moments
    exact ⟨earlier, by rw [List.append_assoc, List.cons_append]⟩
  balanced := built.balanced
  trades := by
    have either : ∀ P : Moment δ Arena → Prop,
        ((∃ other ∈ later, P other) ∨ P moment) ↔ ∃ other ∈ later ++ [moment], P other := by
      intro P
      simp only [List.mem_append, List.mem_singleton, or_and_right, exists_or, exists_eq_left]
    obtain ⟨_, balanced⟩ := built.balanced
    exact (Trades.trans balanced built.trades trades).congr (either _) (either _)

/-- What one call that leaves a slot in use means for the shared buffers. -/
theorem trades_call [Device δ] {session next : Session δ Arena} {others : List (Handle × Nat)}
    (balanced : session.Balanced others) {call : Call}
    (ran : call.next (.working session) = .working next) {index : Nat} {slot : Slot SlotContent}
    (found : next.slots.get? index = some slot) (taken : slot.taken = true) :
    session.Trades next (Moment.ReplacesLines ⟨.working session, call⟩)
      (Moment.RebuildsMotion ⟨.working session, call⟩) := by
  have spares : ∀ {call : Call}, (∀ task, call ≠ .generate task) → session.Trades next False False →
      session.Trades next (Moment.ReplacesLines ⟨.working session, call⟩)
        (Moment.RebuildsMotion ⟨.working session, call⟩) := by
    intro call other trades
    refine trades.congr ⟨False.elim, ?_⟩ ⟨False.elim, ?_⟩
    · rintro ⟨_, task, same, -⟩
      exact other task (congrArg Moment.call same)
    · rintro ⟨_, task, same, -⟩
      exact other task (congrArg Moment.call same)
  have steady := Arena.Later.steady.refl session.board.memory
  have leads := call.next_spec (.working session)
  rw [ran] at leads
  cases leads with
  | @generated _ task generates =>
      refine (generates.trades balanced).congr ?_ ?_
      · constructor
        · exact fun replaces => ⟨session, task, rfl, replaces⟩
        · rintro ⟨_, _, same, replaces⟩
          cases same
          exact replaces
      · constructor
        · exact fun rebuilds => ⟨session, task, rfl, rebuilds⟩
        · rintro ⟨_, _, same, rebuilds⟩
          cases same
          exact rebuilds
  | started ends => exact spares (fun _ => nofun) ends.trades
  | waited ends => exact spares (fun _ => nofun) ends.trades
  | commanded =>
      refine spares (fun _ => nofun) (.of_same steady rfl ?_ rfl)
      show LineBufferCache.memory (if _ then _ else _) = _
      split <;> rfl
  | noted acknowledged =>
      have other : ∀ task, call ≠ .generate task := by
        rintro task rfl
        rcases acknowledged with same | same <;> cases same
      exact spares other (.of_same steady rfl rfl rfl)
  | refused invalid => exact spares (fun _ => nofun) (.of_same steady rfl rfl rfl)
  | opened valid granted =>
      obtain ⟨i, -, rfl⟩ := List.mem_map.mp (List.mem_of_getElem? found)
      cases taken

/-- A change of the board that leaves buffers alone trades nothing. -/
theorem Trades.outside {session : Session δ Arena} {board : Board δ Arena}
    (leaves : LeavesBuffers session.board board) :
    session.Trades (session.withBoard board) False False := by
  obtain ⟨live, issued⟩ := leaves
  refine .of_same ⟨Int.le_of_eq issued.symm, ?_⟩ rfl rfl rfl
  rintro handle - ⟨size, member⟩
  exact ⟨size, live ▸ member⟩

end Session

namespace Run

variable [Device δ] {surroundings : Board δ Arena → Board δ Arena → Prop}

/-- Every slot in use was built by an earlier call, and its buffers were handed on since as that
call and the later ones say. -/
theorem built_by (calm : ∀ before after, surroundings before after → LeavesBuffers before after)
    {board : Board δ Arena} {others : List (Handle × Nat)} (owes : board.memory.Owes others)
    {moments : List (Moment δ Arena)} {decoder : Decoder δ Arena}
    (run : Run surroundings (.idle board) moments decoder) :
    ∀ session, decoder = .working session → ∀ index slot, session.slots.get? index = some slot →
      slot.taken = true → ∃ before task origin later,
        session.BuiltBy moments index slot.content before task origin later := by
  refine run.slots_induction (P := fun moments session index content =>
    ∃ before task origin later, session.BuiltBy moments index content before task origin later)
    ?_ ?_ ?_
  · intro moments session task next index content earlier builds
    have settled : next.Balanced others := by
      have ended := (earlier.owes calm owes).generates (Session.generate_spec session task)
      rwa [builds.generated] at ended
    have kept : next.Trades next False False :=
      .of_same (Arena.Later.steady.refl _) rfl rfl rfl
    exact ⟨session, task, next, [], builds, ⟨moments, rfl⟩, ⟨_, settled⟩,
      kept.congr (by simp) (by simp)⟩
  · rintro moments session call next index slot earlier ran found taken
      ⟨before, task, origin, later, built⟩
    have trades := Session.trades_call (earlier.owes calm owes) ran found taken
    exact ⟨before, task, origin, _, built.extend trades⟩
  · rintro moments session other index content earlier allowed ⟨before, task, origin, later, built⟩
    obtain ⟨_, balanced⟩ := built.balanced
    have changed := Session.Trades.outside (calm _ _ allowed)
    exact ⟨before, task, origin, later, built.toBuilds, built.moments, built.balanced,
      (Session.Trades.trans balanced built.trades changed).congr (.of_eq (or_false _))
        (.of_eq (or_false _))⟩

end Run

/-! ### Two pictures of different size -/

/-- A decoder builds the registers of a picture, and then those of a picture that needs other line
buffers. The buffer behind the first line buffers goes back, and the slot of the first picture still
holds its handle. -/
theorem two_sizes_built : ∃ opened one two : Session SimulatedDevice Arena, ∃ slot,
    Decoder.initialise {} true (.idle (Board.atRest 4 64 128)) =
      .ok (Decoder.capability {}) (.working opened) ∧
    Session.generate (.ofSize 0 64 128) opened = .ok ((Task.ofSize 0 64 128).placed 0) one ∧
    Session.generate (.ofSize 1 128 64) one = .ok ((Task.ofSize 1 128 64).placed 1) two ∧
    opened.board.frames = .ofSize 4 64 128 .nv12 ∧ opened.compressed = false ∧
    one.compressed = false ∧
    two.slots.get? 0 = some slot ∧ slot.taken = true ∧
    (Field.word 135).get slot.content.file = 11 ∧
    two.board.memory.live.map Prod.fst = [⟨10⟩, ⟨12⟩, ⟨13⟩, ⟨14⟩, ⟨15⟩, ⟨16⟩] := by
  obtain ⟨opened, initialised, able, slots, -, frames, compressed, -, -, supply⟩ :=
    @Decoder.initialise_atRest {} rfl true 4 64 128
  have shapes := Session.shapeOf_ofSize compressed
  have everywhere : ∀ index < 3,
      opened.slots.get? index = some ⟨false, .idle, .fresh {}⟩ := by
    intro index known
    rw [slots]
    exact SlotPool.get?_ofDepth known _
  -- The first picture.
  have free : opened.slots.FirstFree 0 ⟨false, .idle, .fresh {}⟩ :=
    ⟨everywhere 0 (by decide), rfl, fun _ impossible => absurd impossible (Nat.not_lt_zero _)⟩
  obtain ⟨supply₁, scratch₁, content₁, journal₁, prepares₁, generated₁, able₁⟩ :=
    @Session.generate_of_able _ able (.ofSize 0 64 128) rfl (fun _ => nofun) _ _ free (by
      rw [shapes]
      decide)
  have provided₁ : Supply.provide (opened.shapeOf (Task.ofSize 0 64 128).coded.picture)
      opened.board.frames.slotCount (MotionPool.bytesFor 64 128 false) opened.supply =
        .ok () supply₁ := prepares₁.provided
  rw [shapes, frames, supply] at provided₁
  have full := (able.formed.slots 0 _ free.found).file
  -- The second picture, in the next slot.
  let middle := opened.settle 0 ⟨true, .built, content₁⟩ supply₁ scratch₁ journal₁
  have here : middle.slots.get? 0 = some ⟨true, .built, content₁⟩ :=
    SlotPool.get?_put_self free.found _
  have next : middle.slots.FirstFree 1 ⟨false, .idle, .fresh {}⟩ := by
    refine ⟨?_, rfl, ?_⟩
    · exact (SlotPool.get?_put_of_ne _ (by decide) _).trans (everywhere 1 (by decide))
    · intro other before
      obtain rfl : other = 0 := Nat.lt_one_iff.mp before
      exact ⟨_, here, rfl⟩
  obtain ⟨supply₂, scratch₂, content₂, journal₂, prepares₂, generated₂, -⟩ :=
    @Session.generate_of_able middle able₁ (.ofSize 1 128 64) rfl (fun _ => nofun) _ _ next (by
      show ∀ buffer ∈ LineBuffer.place (opened.shapeOf (Task.ofSize 1 128 64).coded.picture) _, _
      rw [shapes]
      decide)
  have provided₂ : Supply.provide (opened.shapeOf (Task.ofSize 1 128 64).coded.picture)
      opened.board.frames.slotCount (MotionPool.bytesFor 128 64 false) supply₁ =
        .ok () supply₂ := prepares₂.provided
  rw [shapes, frames] at provided₂
  have first := congrArg Action.after provided₁
  rw [Action.after_ok] at first
  rw [← first] at provided₂
  have last := congrArg Action.after provided₂
  rw [Action.after_ok] at last
  refine ⟨opened, middle, _, ⟨true, .built, content₁⟩, initialised, generated₁, generated₂, frames,
    compressed, compressed, ?_, rfl, ?_, ?_⟩
  · exact (SlotPool.get?_put_of_ne _ (by decide) _).trans here
  · have used : (⟨.interRow, 135, 0, 384⟩ : LineBuffer) ∈ supply₁.lines.buffers := by
      rw [← first]
      decide
    refine (prepares₁.get_lineBuffer able.formed full used (by decide)).trans ?_
    rw [← first]
    rfl
  · show supply₂.memory.live.map Prod.fst = _
    rw [← last]
    rfl

theorem two_sizes_run
    (surroundings : Board SimulatedDevice Arena → Board SimulatedDevice Arena → Prop) :
    ∃ moments, ∃ session : Session SimulatedDevice Arena, ∃ slot,
    Run surroundings (.idle (Board.atRest 4 64 128)) moments (.working session) ∧
    moments.map (·.call) =
      [.initialise {} true, .generate (.ofSize 0 64 128), .generate (.ofSize 1 128 64)] ∧
    session.slots.get? 0 = some slot ∧ slot.taken = true ∧
    (Field.word 135).get slot.content.file = 11 ∧
    session.board.memory.live.map Prod.fst = [⟨10⟩, ⟨12⟩, ⟨13⟩, ⟨14⟩, ⟨15⟩, ⟨16⟩] := by
  obtain ⟨opened, one, two, slot, initialised, first, second, -, -, -, held⟩ := two_sizes_built
  have run : Run surroundings (.idle (Board.atRest 4 64 128)) _ _ :=
    .call (.call (.call .nil (.initialise {} true)) (.generate (.ofSize 0 64 128)))
      (.generate (.ofSize 1 128 64))
  rw [Call.next_initialise, initialised, Action.after_ok, Call.next_generate, first,
    Action.after_ok, Call.next_generate, second, Action.after_ok] at run
  exact ⟨_, two, slot, run, rfl, held⟩

theorem no_live_eleven {arena : Arena}
    (live : arena.live.map Prod.fst = [⟨10⟩, ⟨12⟩, ⟨13⟩, ⟨14⟩, ⟨15⟩, ⟨16⟩]) {handle : Handle}
    (named : handle.registerValue = 11) : ¬ arena.Live handle := by
  rintro ⟨size, member⟩
  have known : handle ∈ arena.live.map Prod.fst := List.mem_map_of_mem member
  rw [live] at known
  have others : ∀ handle ∈ ([⟨10⟩, ⟨12⟩, ⟨13⟩, ⟨14⟩, ⟨15⟩, ⟨16⟩] : List Handle),
      handle.registerValue ≠ 11 := by decide
  exact others handle known named

/-! ### Which handles name live buffers -/

/-- The handles in the register file of a slot in use, in every session that a decoder can come to on
an arena that it may share with others, and which of them name live buffers. Those of the scratch
buffer do. Those of line buffers and of motion vector buffers are handles of the session that the
slot's own `generate` left, and they name live buffers if and only if no call since has given them
back: a `generate` of any task that is not turned away gives the line buffers back if they do not
serve its picture, and then, if there are line buffers for it, the motion vector buffers if those do
not. -/
theorem Run.in_flight_buffers [Device δ]
    {surroundings : Board δ Arena → Board δ Arena → Prop}
    (calm : ∀ before after, surroundings before after → LeavesBuffers before after)
    {board : Board δ Arena} {others : List (Handle × Nat)} (owes : board.memory.Owes others)
    {moments : List (Moment δ Arena)} {session : Session δ Arena}
    (run : Run surroundings (.idle board) moments (.working session)) {index : Nat}
    {slot : Slot SlotContent} (found : session.slots.get? index = some slot)
    (taken : slot.taken = true) :
    (∀ field ∈ Layout.scratchFields, field.get slot.content.file ≠ 0 →
      field.get slot.content.file = session.scratch.handle.registerValue ∧
      session.board.memory.Live session.scratch.handle) ∧
    ∃ earlier before task origin later,
      moments = earlier ++ ⟨.working before, .generate task⟩ :: later ∧
      Session.generate task before = .ok { task with slot := some index } origin ∧
      slot.content.task = some task.id ∧
      (∀ reg ∈ Layout.lineBufferRegisters, (Field.word reg).get slot.content.file ≠ 0 →
        (Field.word reg).get slot.content.file = origin.lines.handle.registerValue ∧
        (session.board.memory.Live origin.lines.handle ↔
          ∀ moment ∈ later, ¬ moment.ReplacesLines)) ∧
      ∀ field ∈ Layout.motionFields, field.get slot.content.file ≠ 0 →
        ∃ buffer ∈ origin.motion.buffers,
          field.get slot.content.file = buffer.handle.registerValue ∧
          (session.board.memory.Live buffer.handle ↔ ∀ moment ∈ later, ¬ moment.RebuildsMotion) := by
  have balanced : session.Balanced others := run.owes calm owes
  have owned : ∀ tag ∈ session.owned, session.board.memory.Live tag.1 :=
    fun tag member => balanced.owes.live_iff.mpr ⟨tag, List.mem_append_left _ member, rfl⟩
  obtain ⟨before, task, origin, later, ⟨generated, -, serves, refers⟩, ⟨earlier, eq⟩, _, trades⟩ :=
    run.built_by calm owes session rfl index slot found taken
  have none_iff : ∀ P : Moment δ Arena → Prop,
      (∀ moment ∈ later, ¬ P moment) ↔ ¬ ∃ moment ∈ later, P moment := by
    intro P
    simp only [not_exists, not_and]
  constructor
  · intro field known written
    refine ⟨?_, owned session.scratch.tag (List.mem_append_right _ (List.mem_singleton_self _))⟩
    rw [trades.scratch]
    exact refers.scratch field known written
  · refine ⟨earlier, before, task, origin, later, eq, generated, serves, ?_, ?_⟩
    · intro reg known written
      have value := refers.lines reg known written
      refine ⟨value, ?_⟩
      -- A register that is not zero names a buffer, so the cache has one.
      rw [value] at written
      cases memory : origin.lines.memory with
      | none =>
          rw [LineBufferCache.handle, memory] at written
          exact absurd Handle.registerValue_none written
      | some buffer =>
          have handle : origin.lines.handle = buffer.tag.1 := by
            rw [LineBufferCache.handle, memory]
            rfl
          have member : ∀ cache : LineBufferCache, cache.memory = some buffer →
              buffer.tag ∈ cache.tags := by
            intro cache held
            rw [LineBufferCache.tags, held]
            exact List.mem_singleton_self _
          rw [handle, none_iff]
          constructor
          · intro live gone
            exact trades.linesGone gone _ (member _ memory) live
          · intro kept
            have still := (trades.linesKept kept).trans memory
            exact owned _ (List.mem_append_left _ (List.mem_append_left _ (member _ still)))
    · intro field known written
      obtain ⟨buffer, member, value⟩ := refers.motion field known written
      refine ⟨buffer, member, value, ?_⟩
      have tagged : buffer.tag ∈ origin.motion.tags := List.mem_map_of_mem member
      rw [none_iff]
      constructor
      · intro live gone
        exact trades.motionGone gone _ tagged live
      · intro kept
        rw [← trades.motionKept kept] at tagged
        exact owned _ (List.mem_append_left _ (List.mem_append_right _ tagged))

/-- In the run with two pictures of different size the handle in the first slot is dead, so the
second `generate` has given the line buffers back. -/
theorem two_sizes_in_flight : ∃ moments, ∃ session : Session SimulatedDevice Arena, ∃ slot,
    Run LeavesBuffers (.idle (Board.atRest 4 64 128)) moments (.working session) ∧
    session.slots.get? 0 = some slot ∧ slot.taken = true ∧
    ∃ earlier before task origin later,
      moments = earlier ++ ⟨.working before, .generate task⟩ :: later ∧
      Session.generate task before = .ok { task with slot := some 0 } origin ∧
      (Field.word 135).get slot.content.file = origin.lines.handle.registerValue ∧
      ∃ moment ∈ later, moment.ReplacesLines := by
  obtain ⟨moments, session, slot, run, -, found, taken, value, live⟩ := two_sizes_run LeavesBuffers
  obtain ⟨-, earlier, before, task, origin, later, since, generated, -, lines, -⟩ :=
    run.in_flight_buffers (fun _ _ allowed => allowed) (Arena.owes_nil rfl) found taken
  obtain ⟨same, alive⟩ := lines 135 (by decide) (by rw [value]; decide)
  refine ⟨moments, session, slot, run, found, taken, earlier, before, task, origin, later, since,
    generated, same, ?_⟩
  have dead := no_live_eleven live (same.symm.trans value)
  refine Classical.byContradiction fun spared => ?_
  rw [alive] at dead
  exact dead fun moment member replaces => spared ⟨moment, member, replaces⟩

/-- Every handle that stands in the register file of a slot in use names a live buffer. -/
def Session.NoDanglingHandle (session : Session δ Arena) : Prop :=
  ∀ index slot, session.slots.get? index = some slot → slot.taken = true →
    ∀ field ∈ Layout.lineBufferRegisters.map Field.word ++ Layout.scratchFields ++
        Layout.motionFields,
      field.get slot.content.file ≠ 0 →
        ∃ handle, session.board.memory.Live handle ∧
          field.get slot.content.file = handle.registerValue

/-- Handles can dangle: after two calls of `generate` for pictures of different size, the first slot
names a buffer that is no longer out. -/
theorem two_sizes_dangle : ∃ moments, ∃ session : Session SimulatedDevice Arena,
    Run LeavesBuffers (.idle (Board.atRest 4 64 128)) moments (.working session) ∧
    moments.map (·.call) =
      [.initialise {} true, .generate (.ofSize 0 64 128), .generate (.ofSize 1 128 64)] ∧
    ¬ session.NoDanglingHandle := by
  obtain ⟨moments, session, slot, run, calls, found, taken, value, live⟩ :=
    two_sizes_run LeavesBuffers
  refine ⟨moments, session, run, calls, ?_⟩
  intro none
  obtain ⟨handle, alive, same⟩ :=
    none 0 slot found taken (.word 135) (by decide) (by rw [value]; decide)
  exact no_live_eleven live (same.symm.trans value) alive

end VideoAccel
