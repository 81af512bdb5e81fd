import VideoAccel.Proofs.Pipeline.Progress

/-!
Slots do not disturb each other.

A call works in one slot at most: `generate` in a free one, `start` and `wait` in one that serves
their task. Whatever is called for other tasks, a slot in use therefore keeps its flags, its content
and its region of the scratch buffer (`Undisturbed`). From the moment its registers are built until
its task is reported nothing but the interrupt status changes in a slot's register file.
-/

namespace VideoAccel

namespace Call

/-- The call is made for no task of the given number and does not end the session. -/
def Spares (task : Nat) : Call → Prop
  | generate other => other.id ≠ task
  | start other => other.id ≠ task
  | wait other => other.id ≠ task
  | control _ => True
  | reset => True
  | flush => True
  | initialise _ _ => False
  | release => False

/-- The call builds no registers for a task of the given number and does not end the session. -/
def BuildsElsewhere (task : Nat) : Call → Prop
  | generate other => other.id ≠ task
  | start _ => True
  | wait _ => True
  | control _ => True
  | reset => True
  | flush => True
  | initialise _ _ => False
  | release => False

end Call

/-- A device answers a read with no more bytes than it was asked for. -/
class BoundedReads (δ : Type) [Device δ] : Prop where
  size_le : ∀ {offset length : Nat} {device after : δ} {bytes : Bytes},
    Device.readRegisters offset length device = .ok bytes after → bytes.size ≤ length

instance : BoundedReads SimulatedDevice where
  size_le {offset length device after bytes} answered := by
    have read : SimulatedDevice.readRegisters offset length device = .ok bytes after := answered
    unfold SimulatedDevice.readRegisters at read
    by_cases inside : offset + length ≤ SimulatedDevice.registerSpace
    · rw [if_pos inside] at read
      cases read
      rw [Array.size_extract]
      omega
    · rw [if_neg inside] at read
      cases read

variable {δ α : Type}

namespace Session

/-! ### What a slot in use keeps -/

/-- Slot `index`, its region of the scratch buffer and the areas shared by all regions are as
before. -/
structure Undisturbed (index : Nat) (before after : Session δ α) : Prop where
  layout : after.layout = before.layout
  slot : after.slots.get? index = before.slots.get? index
  buffer : after.scratch.handle = before.scratch.handle
  bytes : ∀ position, before.layout.InRegion index position ∨ before.layout.InCommon position →
    after.scratch.byteAt position = before.scratch.byteAt position

theorem Undisturbed.of_same {index : Nat} {before after : Session δ α}
    (layout : after.layout = before.layout)
    (slot : after.slots.get? index = before.slots.get? index)
    (scratch : after.scratch = before.scratch) : Undisturbed index before after := by
  refine ⟨layout, slot, by rw [scratch], ?_⟩
  intro position _
  rw [scratch]

/-- Work in another slot does not disturb a slot. -/
theorem Undisturbed.of_settle {index other : Nat} (ne : other ≠ index) {session : Session δ α}
    (formed : session.Formed) (known : index < session.layout.copies)
    (among : other < session.layout.copies) {slot : Slot SlotContent} {supply : Supply α}
    {scratch : Buffer} {journal : Journal}
    (changed : Buffer.ChangedIn (session.layout.region other).Touches session.scratch scratch) :
    Undisturbed index session (session.settle other slot supply scratch journal) where
  layout := rfl
  slot := SlotPool.get?_put_of_ne _ ne slot
  buffer := changed.handle
  bytes position area := by
    apply changed.bytes
    intro touches
    have there := ScratchLayout.inRegion_of_touches formed.sizes formed.fits among touches
    rcases area with here | common
    · exact formed.fits.not_inRegion_of_ne among known ne there here
    · exact formed.fits.not_inRegion_of_inCommon among common there

section Memory

variable [Allocator α]

/-- Generating never works in a slot that is in use. -/
theorem Generates.undisturbed {session later : Session δ α} {task : Task}
    {outcome : Except Fault Task} (generates : Generates session task outcome later)
    (formed : session.Formed) {index : Nat} {slot : Slot SlotContent}
    (found : session.slots.get? index = some slot) (taken : slot.taken = true) :
    Undisturbed index session later := by
  have elsewhere : ∀ {other : Nat} {free : Slot SlotContent}, session.slots.FirstFree other free →
      other ≠ index := by
    rintro other free first rfl
    have same := first.found
    rw [found] at same
    cases same
    rw [first.free] at taken
    cases taken
  cases generates with
  | skipped flagged journal => exact .of_same rfl rfl rfl
  | held unflagged names holds => exact .of_same rfl rfl rfl
  | full unflagged unheld busy => exact .of_same rfl rfl rfl
  | failed unflagged unheld first prepares journal =>
      exact .of_settle (elsewhere first) formed (formed.index_lt found)
        (formed.index_lt first.found) prepares.changedIn
  | built unflagged unheld first prepares journal =>
      exact .of_settle (elsewhere first) formed (formed.index_lt found)
        (formed.index_lt first.found) prepares.changedIn

end Memory

section Hardware

variable [Device δ]

theorem Starts.undisturbed {session later : Session δ α} {task : Task} {outcome : Except Fault Unit}
    (starts : Starts session task outcome later) {index id : Nat} {slot : Slot SlotContent}
    (found : session.slots.get? index = some slot) (serves : slot.content.task = some id)
    (other : task.id ≠ id) : Undisturbed index session later := by
  cases starts with
  | skipped flagged journal => exact .of_same rfl rfl rfl
  | refused unflagged misdirected kind => exact .of_same rfl rfl rfl
  | failed unflagged owns refused journal =>
      exact .of_same rfl (SlotPool.get?_put_of_ne _ (owns.ne found serves other) _) rfl
  | started unflagged owns accepted journal =>
      exact .of_same rfl (SlotPool.get?_put_of_ne _ (owns.ne found serves other) _) rfl

theorem Waits.undisturbed {session later : Session δ α} {task : Task} {outcome : Except Fault Unit}
    (waits : Waits session task outcome later) {index id : Nat} {slot : Slot SlotContent}
    (found : session.slots.get? index = some slot) (serves : slot.content.task = some id)
    (other : task.id ≠ id) : Undisturbed index session later := by
  have quiet : ∀ {device : δ} {own : Nat} {put : Slot SlotContent} {journal : Journal}
      {report : Report}, own ≠ index →
      Undisturbed index session ((session.redevice device own put journal).reported report) := by
    intro device own put journal report ne
    refine .of_same (reported_layout _ _) ?_ (reported_scratch _ _)
    rw [reported_slots]
    exact SlotPool.get?_put_of_ne _ ne put
  cases waits with
  | skipped flagged =>
      refine .of_same (reported_layout _ _) ?_ (reported_scratch _ _)
      rw [reported_slots]
  | refused unflagged misdirected kind => exact .of_same rfl rfl rfl
  | lost unflagged owns silent journal => exact quiet (owns.ne found serves other)
  | finished unflagged owns collected stored journal => exact quiet (owns.ne found serves other)

end Hardware

/-! ### The content of a slot until its task is reported -/

/-- As long as slot `index` serves task `id`, it holds `content`. -/
def Carries (content : SlotContent) (index id : Nat) (session : Session δ α) : Prop :=
  ∀ slot, session.slots.get? index = some slot → slot.taken = true →
    slot.content.task = some id → slot.content = content

variable {content : SlotContent} {index id : Nat}

theorem Carries.of_same {before after : Session δ α} (carries : before.Carries content index id)
    (slot : after.slots.get? index = before.slots.get? index) : after.Carries content index id :=
  fun final found => carries final (slot ▸ found)

/-- Another slot was put somewhere. If it was put in this place, it serves another task, is free
or holds what it held before. -/
theorem Carries.of_put {before after : Session δ α} (carries : before.Carries content index id)
    {own : Nat} {old slot : Slot SlotContent} (slots : after.slots = before.slots.put own slot)
    (found : before.slots.get? own = some old)
    (harmless : own = index → slot.taken = true → slot.content.task = some id →
      old.taken = true ∧ slot.content = old.content) : after.Carries content index id := by
  intro final there taken serves
  rw [slots] at there
  rcases SlotPool.get?_put_cases there with ⟨here, rfl⟩ | ⟨-, earlier⟩
  · obtain ⟨used, same⟩ := harmless here taken serves
    rw [same] at serves ⊢
    exact carries old (here ▸ found) used serves
  · exact carries final earlier taken serves

section Memory

variable [Allocator α]

theorem Generates.carries {session later : Session δ α} {task : Task} {outcome : Except Fault Task}
    (generates : Generates session task outcome later) (other : task.id ≠ id)
    (carries : session.Carries content index id) : later.Carries content index id := by
  cases generates with
  | skipped flagged journal => exact carries.of_same rfl
  | held unflagged names holds => exact carries
  | full unflagged unheld busy => exact carries
  | failed unflagged unheld first prepares journal =>
      refine carries.of_put rfl first.found ?_
      intro _ impossible
      cases impossible
  | built unflagged unheld first prepares journal =>
      refine carries.of_put rfl first.found ?_
      intro _ _ serves
      rw [prepares.serves] at serves
      cases serves
      exact absurd rfl other

end Memory

section Hardware

variable [Device δ]

theorem Starts.carries {session later : Session δ α} {task : Task} {outcome : Except Fault Unit}
    (starts : Starts session task outcome later) (carries : session.Carries content index id) :
    later.Carries content index id := by
  cases starts with
  | skipped flagged journal => exact carries.of_same rfl
  | refused unflagged misdirected kind => exact carries
  | failed unflagged owns refused journal =>
      refine carries.of_put rfl owns.found ?_
      intro _ impossible
      cases impossible
  | started unflagged owns accepted journal =>
      exact carries.of_put rfl owns.found fun _ _ _ => ⟨owns.taken, rfl⟩

theorem Waits.carries {session later : Session δ α} {task : Task} {outcome : Except Fault Unit}
    (waits : Waits session task outcome later) (carries : session.Carries content index id) :
    later.Carries content index id := by
  cases waits with
  | skipped flagged => exact carries.of_same (by rw [reported_slots])
  | refused unflagged misdirected kind => exact carries
  | lost unflagged owns silent journal =>
      refine carries.of_put (reported_slots _ _) owns.found ?_
      intro _ impossible
      cases impossible
  | finished unflagged owns collected stored journal =>
      refine carries.of_put (reported_slots _ _) owns.found ?_
      intro _ impossible
      cases impossible

/-- A device answers a `collect` with no more bytes than the interrupt status has. -/
theorem size_le_of_collect [BoundedReads δ] {file status : Bytes} {device after : δ}
    (collected : collect file device = .ok status after) :
    status.size ≤ Layout.interruptStatus.size := by
  obtain ⟨_, _, -, answered⟩ := Action.bind_eq_ok_iff.mp collected
  exact Nat.le_trans (BoundedReads.size_le answered) (Section.size_view_le _ _)

/-- The report on a task shows the register file of its slot; only the interrupt status may have
been read back into it. -/
theorem Waits.report_file [BoundedReads δ] {session later : Session δ α} {task : Task}
    {outcome : Except Fault Unit} (waits : Waits session task outcome later) {report : Report}
    (delivered : later.board.reports = session.board.reports.push report)
    (reached : report.skipped = false) :
    ∃ own slot, session.Owns task .submitted own slot ∧
      report.file.size = slot.content.file.size ∧
      ∀ position, position < Layout.interruptStatus.offset ∨ Layout.interruptStatus.stop ≤ position →
        report.file.at0 position = slot.content.file.at0 position := by
  have only : ∀ {before : Session δ α} {shown : Report},
      (before.reported shown).board.reports = session.board.reports.push report →
      before.board.reports = session.board.reports → shown = report := by
    intro before shown pushed same
    unfold reported at pushed
    by_cases reporting : before.reporting = true
    · rw [if_pos reporting] at pushed
      simp only [same] at pushed
      exact (Array.push_eq_push.mp pushed).1
    · rw [if_neg reporting, same] at pushed
      have sizes := congrArg Array.size pushed
      rw [Array.size_push] at sizes
      omega
  cases waits with
  | skipped flagged =>
      rw [← only delivered rfl] at reached
      cases reached
  | refused unflagged misdirected kind =>
      have sizes := congrArg Array.size delivered
      rw [Array.size_push] at sizes
      omega
  | @lost _ own slot owns fault device silent journal =>
      refine ⟨own, slot, owns, ?_⟩
      rw [← only delivered rfl]
      exact ⟨rfl, fun _ _ => rfl⟩
  | @finished _ own slot owns status file device collected stored journal =>
      refine ⟨own, slot, owns, ?_⟩
      rw [← only delivered rfl]
      have length := size_le_of_collect collected
      refine ⟨?_, ?_⟩
      · show file.size = _
        rw [stored, Section.size_store]
      · intro position outside
        show file.at0 position = _
        have stop : Layout.interruptStatus.stop =
          Layout.interruptStatus.offset + Layout.interruptStatus.size := rfl
        rw [stored, Section.store, Bytes.at0_overwrite, if_neg (by omega)]

end Hardware

/-! ### Calls and runs -/

variable [Device δ] [Allocator α]

theorem undisturbed_of_spares {session : Session δ α} {slot : Slot SlotContent}
    (formed : session.Formed) (found : session.slots.get? index = some slot)
    (taken : slot.taken = true) (serves : slot.content.task = some id) {call : Call}
    (spares : call.Spares id) :
    ∃ later, call.next (.working session) = .working later ∧ Undisturbed index session later := by
  cases call with
  | generate task =>
      exact ⟨_, Call.next_generate task session,
        (generate_spec session task).undisturbed formed found taken⟩
  | start task =>
      exact ⟨_, Call.next_start task session, (start_spec session task).undisturbed found serves spares⟩
  | wait task =>
      exact ⟨_, Call.next_wait task session, (wait_spec session task).undisturbed found serves spares⟩
  | control command =>
      obtain ⟨stride, journal, ran⟩ := control_run command session
      refine ⟨_, Call.next_control command session, ?_⟩
      rw [ran]
      exact .of_same rfl rfl rfl
  | reset => exact ⟨_, Call.next_reset session, .of_same rfl rfl rfl⟩
  | flush => exact ⟨_, Call.next_flush session, .of_same rfl rfl rfl⟩
  | initialise config reporting => exact False.elim spares
  | release => exact False.elim spares

theorem carries_next {session : Session δ α} {call : Call} (elsewhere : call.BuildsElsewhere id)
    (carries : session.Carries content index id) :
    ∃ later, call.next (.working session) = .working later ∧ later.Carries content index id := by
  cases call with
  | generate task =>
      exact ⟨_, Call.next_generate task session,
        (generate_spec session task).carries elsewhere carries⟩
  | start task => exact ⟨_, Call.next_start task session, (start_spec session task).carries carries⟩
  | wait task => exact ⟨_, Call.next_wait task session, (wait_spec session task).carries carries⟩
  | control command =>
      obtain ⟨stride, journal, ran⟩ := control_run command session
      refine ⟨_, Call.next_control command session, ?_⟩
      rw [ran]
      exact carries.of_same rfl
  | reset => exact ⟨_, Call.next_reset session, carries.of_same rfl⟩
  | flush => exact ⟨_, Call.next_flush session, carries.of_same rfl⟩
  | initialise config reporting => exact False.elim elsewhere
  | release => exact False.elim elsewhere

theorem carries_run {surroundings : Board δ α → Board δ α → Prop} {session : Session δ α}
    {moments : List (Moment δ α)} {decoder : Decoder δ α}
    (run : Run surroundings (.working session) moments decoder)
    (elsewhere : ∀ moment ∈ moments, moment.call.BuildsElsewhere id)
    (carries : session.Carries content index id) :
    ∃ later, decoder = .working later ∧ later.Carries content index id := by
  induction run with
  | nil => exact ⟨session, rfl, carries⟩
  | call earlier call ih =>
      obtain ⟨middle, rfl, held⟩ := ih fun moment member =>
        elsewhere moment (List.mem_append_left _ member)
      exact carries_next (elsewhere _ (List.mem_append_right _ (List.mem_singleton_self _))) held
  | outside earlier allowed ih =>
      obtain ⟨middle, rfl, held⟩ := ih elsewhere
      exact ⟨_, rfl, held.of_same rfl⟩

end Session

/-- Slots are isolated: a slot in use is not disturbed by any call for another task, and the report
on its task shows the register file as it stands in the slot now, up to the interrupt status,
whatever is called in between, as long as the decoder stays open and `generate` is not called for
the task again: a second `generate` is ruled out even if it is refused, since a refused build may
leave its writes in the file. Right after the task's own `generate` the file is the one just built. -/
theorem Reachable.slot_isolated [Device δ] [Allocator α] [BoundedReads δ]
    {surroundings : Board δ α → Board δ α → Prop} {session : Session δ α}
    (reached : Reachable surroundings session) {index id : Nat} {slot : Slot SlotContent}
    (found : session.slots.get? index = some slot) (taken : slot.taken = true)
    (serves : slot.content.task = some id) :
    (∀ call : Call, call.Spares id → ∃ later, call.next (.working session) = .working later ∧
      session.Undisturbed index later ∧
      ∀ position < session.layout.entropyOffset + EntropyTable.byteCount,
        later.scratch.byteAt position = session.scratch.byteAt position) ∧
    ∀ {moments : List (Moment δ α)} {later : Session δ α},
      Run surroundings (.working session) moments (.working later) →
      (∀ moment ∈ moments, moment.call.BuildsElsewhere id) →
      ∀ {task : Task} {report : Report}, task.id = id → task.slot = some index →
      (Action.after (Session.wait task later)).board.reports = later.board.reports.push report →
      report.skipped = false →
        report.file.size = slot.content.file.size ∧
        ∀ position,
          position < Layout.interruptStatus.offset ∨ Layout.interruptStatus.stop ≤ position →
          report.file.at0 position = slot.content.file.at0 position := by
  have formed := reached.formed
  constructor
  · intro call spares
    obtain ⟨later, ran, undisturbed⟩ :=
      Session.undisturbed_of_spares formed found taken serves spares
    refine ⟨later, ran, undisturbed, ?_⟩
    intro position inside
    exact undisturbed.bytes position (.inr (ScratchLayout.inCommon_of_lt formed.sizes formed.fits inside))
  · intro moments later run elsewhere task report mine names delivered reached
    have carries : session.Carries slot.content index id := by
      intro other there _ _
      rw [found] at there
      cases there
      rfl
    obtain ⟨same, eq, carried⟩ := Session.carries_run run elsewhere carries
    cases eq
    obtain ⟨own, last, owns, size, bytes⟩ :=
      (Session.wait_spec later task).report_file delivered reached
    have here : own = index := by
      have named := owns.names
      rw [names] at named
      cases named
      rfl
    subst here
    have content := carried last owns.found owns.taken (mine ▸ owns.serves)
    rw [← content]
    exact ⟨size, bytes⟩

/-- The first picture on a board at rest: registers for another picture do not disturb its slot, and
its report shows the registers that were built for it. -/
theorem first_picture_isolated : ∃ built started : Session SimulatedDevice Arena, ∃ slot report,
    Reachable (fun _ _ => False) built ∧ built.slots.get? 0 = some slot ∧ slot.taken = true ∧
    (∃ later, (Call.generate (.ofSize 1 128 64)).next (.working built) = .working later ∧
      built.Undisturbed 0 later) ∧
    Session.start ((Task.ofSize 0 64 64).placed 0) built = .ok () started ∧
    (Action.after (Session.wait ((Task.ofSize 0 64 64).placed 0) started)).board.reports =
      started.board.reports.push report ∧
    ∀ position, position < Layout.interruptStatus.offset ∨ Layout.interruptStatus.stop ≤ position →
      report.file.at0 position = slot.content.file.at0 position := by
  obtain ⟨opened, built, started, content, ⟨board, moments, run⟩, generated, found, serves,
    submitted, able, reporting, there, inFlight, -⟩ := Session.first_picture fun _ _ => False
  have reached : Reachable (fun _ _ => False) built := by
    have further := Run.call run (.generate (.ofSize 0 64 64))
    rw [Call.next_generate, generated, Action.after_ok] at further
    exact ⟨_, _, further⟩
  have start : Run (fun _ _ => False) (.working built) _ _ :=
    .call .nil (.start ((Task.ofSize 0 64 64).placed 0))
  rw [Call.next_start, submitted, Action.after_ok] at start
  have owns : started.Owns ((Task.ofSize 0 64 64).placed 0) .submitted 0
      ⟨true, .submitted, content⟩ := ⟨rfl, there, rfl, serves, rfl⟩
  obtain ⟨device, file, journal, -, waited, -⟩ := Session.wait_of_able able rfl owns inFlight
  have delivered : (Action.after (Session.wait ((Task.ofSize 0 64 64).placed 0)
      started)).board.reports = started.board.reports.push (Session.finalReport
        ((Task.ofSize 0 64 64).placed 0) file (Verdict.ofFile file).isHardError) := by
    rw [waited, Action.after_ok]
    unfold Session.reported
    rw [if_pos (show (started.redevice device 0 _ journal).reporting = true from reporting)]
    rfl
  obtain ⟨calls, reports⟩ := reached.slot_isolated found rfl serves
  obtain ⟨later, next, undisturbed, -⟩ := calls (.generate (.ofSize 1 128 64)) (by
    show 1 ≠ 0
    decide)
  obtain ⟨-, bytes⟩ := reports start (by
    intro moment member
    rw [List.mem_singleton.mp member]
    trivial) rfl rfl delivered rfl
  exact ⟨built, started, _, _, reached, found, rfl, ⟨later, next, undisturbed⟩, submitted, delivered,
    bytes⟩

end VideoAccel
