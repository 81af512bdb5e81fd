import Mathlib.Algebra.Ring.Nat
import VideoAccel.Proofs.Memory.Grants
import VideoAccel.Proofs.Pipeline.LineBuffers

/-!
What refuses a task its registers.

Four things can stand in the way of a task without error flags on a decoder that is at work: the task
already holds a slot, no slot is free, the arena refuses a buffer that the picture needs, or a line
buffer in use starts where no patch can say so. Each can be told from the session before the call,
and they are looked for in this order; `Run.generate_answered` says that the call is refused by the
first of them that applies and is answered if none does. The scratch buffer is always large enough,
the patch table has a place for every offset, and the slot that was picked is there, so that no other
fault is possible. A refused call leaves every slot in use or free and in the stage it had.
-/

namespace VideoAccel

/-- The call was refused, with a fault of this kind. -/
def RefusedAs {β : Type} (outcome : Except Fault β) (kind : FaultKind) : Prop :=
  ∃ fault, outcome = .error fault ∧ fault.kind = kind

theorem not_refusedAs_ok {β : Type} (value : β) (kind : FaultKind) :
    ¬ RefusedAs (.ok value : Except Fault β) kind := nofun

theorem not_refusedAs_of_ne {β : Type} {fault : Fault} {kind : FaultKind} (ne : fault.kind ≠ kind) :
    ¬ RefusedAs (.error fault : Except Fault β) kind := by
  rintro ⟨_, same, rfl⟩
  cases same
  exact ne rfl

/-- The task as its owner has it after a call that answers with a task: the answer, or the task as it
was if the call is refused. -/
def Task.after (task : Task) (outcome : Except Fault Task) : Task :=
  outcome.toOption.getD task

/-- The faults that can refuse a task its registers. -/
inductive Fault.OfGeneration (task : Task) : Fault → Prop where
  | held (slot : Nat) : OfGeneration task (.slotHeld task.id slot)
  | full (slots : Nat) : OfGeneration task (.pipelineFull slots)
  | pending : OfGeneration task .previousTaskPending
  | starved (size : Nat) : OfGeneration task (.allocationRefused size)
  | unaddressable (offset : Nat) : OfGeneration task (.patchOffset offset)

variable {δ : Type}

namespace Session

/-! ### What can stand in the way -/

/-- The task names a slot, and this slot is in use for it. -/
def AlreadyHolds (session : Session δ Arena) (task : Task) : Prop :=
  ∃ index, task.slot = some index ∧ session.holds index task.id = true

/-- Every slot is in use. -/
def Busy (session : Session δ Arena) : Prop :=
  ∀ index slot, session.slots.get? index = some slot → slot.taken = true

/-- The arena refuses one of the allocations that the picture needs. -/
def Starves (session : Session δ Arena) (picture : Picture) : Prop :=
  ∃ further < session.supply.wants (session.shapeOf picture) session.board.frames.slotCount
      (MotionPool.bytesFor picture.sequence.width picture.sequence.height
        picture.sequence.fieldCoding),
    session.board.memory.refusesAfter further = true

/-- A line buffer that the picture uses starts at an offset of more than 32 bits. -/
def Overreaches (session : Session δ Arena) (picture : Picture) : Prop :=
  ∃ buffer ∈ LineBuffer.place (session.shapeOf picture)
      (LineBufferClass.all.zip Layout.lineBufferRegisters),
    buffer.size ≠ 0 ∧ Numeral.bound32 ≤ buffer.offset

/-- How the call ends, by the first thing that stands in its way. -/
inductive Decides (session : Session δ Arena) (task : Task) : Except Fault Task → Prop where
  | held {index : Nat} (names : task.slot = some index)
      (holds : session.holds index task.id = true) :
      Decides session task (.error (.slotHeld task.id index))
  | full (unheld : ¬ session.AlreadyHolds task) (busy : session.Busy) :
      Decides session task
        (.error (if session.config.fastMode then .pipelineFull session.slots.capacity
          else .previousTaskPending))
  | starved (unheld : ¬ session.AlreadyHolds task) (free : ¬ session.Busy)
      (starves : session.Starves task.coded.picture) (size : Nat) :
      Decides session task (.error (.allocationRefused size))
  | unaddressable (unheld : ¬ session.AlreadyHolds task) (free : ¬ session.Busy)
      (fed : ¬ session.Starves task.coded.picture)
      (overreaches : session.Overreaches task.coded.picture) (offset : Nat) :
      Decides session task (.error (.patchOffset offset))
  | built (unheld : ¬ session.AlreadyHolds task) (free : ¬ session.Busy)
      (fed : ¬ session.Starves task.coded.picture)
      (within : ¬ session.Overreaches task.coded.picture) {index : Nat} {slot : Slot SlotContent}
      (first : session.slots.FirstFree index slot) :
      Decides session task (.ok { task with slot := some index })

/-- What the call comes to for a task without error flags, with the session it leaves. -/
structure Answered (session : Session δ Arena) (task : Task) (outcome : Except Fault Task)
    (later : Session δ Arena) : Prop where
  held : RefusedAs outcome .invalidState ↔ session.AlreadyHolds task
  full : ¬ session.AlreadyHolds task → (RefusedAs outcome .resourceBusy ↔ session.Busy)
  starved : ¬ session.AlreadyHolds task → ¬ session.Busy →
    (RefusedAs outcome .allocationFailure ↔ session.Starves task.coded.picture)
  unaddressable : ¬ session.AlreadyHolds task → ¬ session.Busy →
    ¬ session.Starves task.coded.picture →
    (RefusedAs outcome .invalidArgument ↔ session.Overreaches task.coded.picture)
  /-- If nothing stands in the way, the task gets the free slot with the lowest index, and its
  registers are built there. -/
  built : ¬ session.AlreadyHolds task → ¬ session.Busy → ¬ session.Starves task.coded.picture →
    ¬ session.Overreaches task.coded.picture → ∃ index slot content,
      session.slots.FirstFree index slot ∧ outcome = .ok { task with slot := some index } ∧
      later.slots.get? index = some ⟨true, .built, content⟩
  /-- There is no other fault: no slot is missing, no blob leaves the scratch buffer, and the patch
  table never runs full. -/
  faults : ∀ fault, outcome = .error fault → Fault.OfGeneration task fault
  /-- After a refusal the task names the slot that it named before, and all slots are in use or free
  and in the stages they were in. -/
  untouched : ∀ fault, outcome = .error fault → (task.after outcome).slot = task.slot ∧
    ∀ index, (later.slots.get? index).map (fun slot => (slot.taken, slot.stage)) =
      (session.slots.get? index).map fun slot => (slot.taken, slot.stage)

variable {session later : Session δ Arena} {task : Task}

/-- The bits of a line buffer are counted in machine words of 64 bits. These are enough for every
picture whose line buffers do not overreach. -/
theorem bits_lt_of_within {picture : Picture} (height : picture.sequence.height < Numeral.bound32)
    (depth : picture.sequence.lumaDepth < Numeral.bound32) (within : ¬ session.Overreaches picture)
    (cls : LineBufferClass) : cls.bits (session.shapeOf picture) < Numeral.bound64 :=
  LineBuffer.bits_lt_of_near height depth
    (fun buffer member used => Nat.not_le.mp fun far => within ⟨buffer, member, used, far⟩) cls

/-! ### The shared buffers -/

/-- The shared buffers can be readied for a picture exactly if the arena refuses none of the
allocations; what stops it otherwise is a refused allocation. -/
theorem provision_asked (session : Session δ Arena) (picture : Picture) :
    Arena.Asked (session.supply.wants (session.shapeOf picture) session.board.frames.slotCount
        (MotionPool.bytesFor picture.sequence.width picture.sequence.height
          picture.sequence.fieldCoding)) session.board.memory
      (Action.outcome (session.provision picture session.supply))
      (Action.after (session.provision picture session.supply)).memory :=
  (session.provision_spec picture).asked

theorem not_starves_of_granted {picture : Picture} {supply : Supply Arena}
    (granted : session.provision picture session.supply = .ok () supply) :
    ¬ session.Starves picture := by
  have asked := session.provision_asked picture
  rw [granted, Action.outcome_ok] at asked
  rintro ⟨further, among, refuses⟩
  cases refuses.symm.trans (asked.eq_ok_iff.mp rfl further among)

/-- An arena that was not told to refuse starves no picture. -/
theorem not_starves_of_willing (willing : session.board.memory.failAfter = none)
    (picture : Picture) : ¬ session.Starves picture := by
  rintro ⟨further, -, refuses⟩
  cases refuses.symm.trans (Arena.refusesAfter_of_willing willing further)

theorem starves_of_refused {picture : Picture} {fault : Fault} {supply : Supply Arena}
    (refused : session.provision picture session.supply = .error fault supply) :
    session.Starves picture ∧ ∃ size, fault = .allocationRefused size := by
  have asked := session.provision_asked picture
  rw [refused, Action.outcome_error] at asked
  cases asked with
  | refused among refuses => exact ⟨⟨_, among, refuses⟩, _, rfl⟩

/-! ### The build -/

/-- A line buffer that cannot be addressed is all that can refuse the build. -/
theorem build_of_overreaches (formed : session.Formed) (current : session.LinesCurrent)
    (whole : session.Whole) {index : Nat} {slot : Slot SlotContent}
    (found : session.slots.get? index = some slot) {supply : Supply Arena}
    (granted : session.provision task.coded.picture session.supply = .ok () supply)
    (overreaches : session.Overreaches task.coded.picture) :
    ∃ offset left, Draft.build (session.jobWith index task supply)
      (slot.content.draft session.scratch) = .error (.patchOffset offset) left := by
  obtain ⟨registers, placed⟩ := lines_of_granted formed current granted
  have sound : (session.jobWith index task supply).Sound := Formed.sound registers index task
  obtain ⟨scratch, written⟩ := blobs_fit formed whole (formed.index_lt found) task supply
    ((session.jobWith index task supply).nextCache slot.content.cache)
  unfold Overreaches at overreaches
  rw [← placed] at overreaches
  obtain ⟨offset, refused⟩ := @Job.pushAll_pointers_of_far (session.jobWith index task supply)
    (length_buffers registers) sound.lines overreaches session.scratch.handle
  obtain ⟨left, stopped⟩ := @Draft.build_of_error _ (slot.content.draft session.scratch) scratch _
    written refused
  exact ⟨offset, left, stopped⟩

theorem build_of_within (formed : session.Formed) (current : session.LinesCurrent)
    (whole : session.Whole) {index : Nat} {slot : Slot SlotContent}
    (found : session.slots.get? index = some slot) {supply : Supply Arena}
    (granted : session.provision task.coded.picture session.supply = .ok () supply)
    (within : ¬ session.Overreaches task.coded.picture) :
    ∃ full draft, Draft.build (session.jobWith index task supply)
      (slot.content.draft session.scratch) = .ok full draft := by
  obtain ⟨registers, placed⟩ := lines_of_granted formed current granted
  refine build_of_room formed whole found granted fun buffer member used => ?_
  rw [placed] at member
  exact Nat.not_le.mp fun far => within ⟨buffer, member, used, far⟩

/-! ### The call -/

theorem not_alreadyHolds_of_unheld
    (unheld : ∀ index, task.slot = some index → session.holds index task.id = false) :
    ¬ session.AlreadyHolds task := by
  rintro ⟨index, names, holds⟩
  cases holds.symm.trans (unheld index names)

theorem not_busy_of_firstFree {index : Nat} {slot : Slot SlotContent}
    (first : session.slots.FirstFree index slot) : ¬ session.Busy := by
  intro busy
  cases first.free.symm.trans (busy index slot first.found)

theorem Generates.decides {outcome : Except Fault Task} (formed : session.Formed)
    (current : session.LinesCurrent) (whole : session.Whole)
    (unflagged : task.flags.hasError = false)
    (generates : Generates session task outcome later) : session.Decides task outcome := by
  cases generates with
  | skipped flagged journal => cases unflagged.symm.trans flagged
  | held _ names holds => exact .held names holds
  | full _ unheld busy => exact .full (not_alreadyHolds_of_unheld unheld) busy
  | failed _ unheld first prepares journal =>
      have free := not_busy_of_firstFree first
      have unheld := not_alreadyHolds_of_unheld unheld
      cases prepares with
      | starved refused =>
          obtain ⟨starves, size, rfl⟩ := starves_of_refused refused
          exact .starved unheld free starves size
      | unbuilt granted refused =>
          have fed := not_starves_of_granted granted
          by_cases overreaches : session.Overreaches task.coded.picture
          · obtain ⟨offset, left, stopped⟩ :=
              build_of_overreaches formed current whole first.found granted overreaches
            cases stopped.symm.trans refused
            exact .unaddressable unheld free fed overreaches offset
          · obtain ⟨full, draft, built⟩ :=
              build_of_within formed current whole first.found granted overreaches
            cases built.symm.trans refused
      | unsynced granted built refused => cases refused
  | built _ unheld first prepares journal =>
      have free := not_busy_of_firstFree first
      cases prepares with
      | ready granted built synced =>
          refine .built (not_alreadyHolds_of_unheld unheld) free (not_starves_of_granted granted)
            (fun overreaches => ?_) first
          obtain ⟨offset, left, stopped⟩ :=
            build_of_overreaches formed current whole first.found granted overreaches
          cases stopped.symm.trans built

/-- A refused call gives the slot back that it took, which was free and idle. -/
theorem Generates.untouched {fault : Fault} (formed : session.Formed)
    (generates : Generates session task (.error fault) later) (index : Nat) :
    (later.slots.get? index).map (fun slot => (slot.taken, slot.stage)) =
      (session.slots.get? index).map fun slot => (slot.taken, slot.stage) := by
  cases generates with
  | held unflagged names holds => rfl
  | full unflagged unheld busy => rfl
  | @failed _ _ own slot first _ supply scratch content prepares journal =>
      show ((session.slots.put own ⟨false, .idle, content⟩).get? index).map _ = _
      by_cases here : own = index
      · subst here
        have idle := (formed.slots own slot first.found).stage_of_free first.free
        rw [SlotPool.get?_put_self first.found, first.found, Option.map_some, Option.map_some,
          first.free, idle]
      · rw [SlotPool.get?_put_of_ne _ here]

/-! ### Which refusal it is -/

section Kinds

variable {outcome : Except Fault Task}

/-- Without a free slot the refusal is of the same kind in either mode. -/
theorem kind_full (fast : Bool) (slots : Nat) :
    (if fast then Fault.pipelineFull slots else .previousTaskPending).kind = .resourceBusy := by
  cases fast <;> rfl

theorem Decides.held_iff (decides : session.Decides task outcome) :
    RefusedAs outcome .invalidState ↔ session.AlreadyHolds task := by
  cases decides with
  | held names holds => exact iff_of_true ⟨_, rfl, rfl⟩ ⟨_, names, holds⟩
  | full unheld busy => exact iff_of_false (not_refusedAs_of_ne (by rw [kind_full]; nofun)) unheld
  | starved unheld free starves size => exact iff_of_false (not_refusedAs_of_ne nofun) unheld
  | unaddressable unheld free fed overreaches offset =>
      exact iff_of_false (not_refusedAs_of_ne nofun) unheld
  | built unheld free fed within first => exact iff_of_false (not_refusedAs_ok _ _) unheld

theorem Decides.full_iff (decides : session.Decides task outcome)
    (unheld : ¬ session.AlreadyHolds task) :
    RefusedAs outcome .resourceBusy ↔ session.Busy := by
  cases decides with
  | held names holds => exact absurd ⟨_, names, holds⟩ unheld
  | full unheld busy => exact iff_of_true ⟨_, rfl, kind_full _ _⟩ busy
  | starved unheld free starves size => exact iff_of_false (not_refusedAs_of_ne nofun) free
  | unaddressable unheld free fed overreaches offset =>
      exact iff_of_false (not_refusedAs_of_ne nofun) free
  | built unheld free fed within first => exact iff_of_false (not_refusedAs_ok _ _) free

theorem Decides.starved_iff (decides : session.Decides task outcome)
    (unheld : ¬ session.AlreadyHolds task) (free : ¬ session.Busy) :
    RefusedAs outcome .allocationFailure ↔ session.Starves task.coded.picture := by
  cases decides with
  | held names holds => exact absurd ⟨_, names, holds⟩ unheld
  | full unheld busy => exact absurd busy free
  | starved unheld free starves size => exact iff_of_true ⟨_, rfl, rfl⟩ starves
  | unaddressable unheld free fed overreaches offset =>
      exact iff_of_false (not_refusedAs_of_ne nofun) fed
  | built unheld free fed within first => exact iff_of_false (not_refusedAs_ok _ _) fed

theorem Decides.unaddressable_iff (decides : session.Decides task outcome)
    (unheld : ¬ session.AlreadyHolds task) (free : ¬ session.Busy)
    (fed : ¬ session.Starves task.coded.picture) :
    RefusedAs outcome .invalidArgument ↔ session.Overreaches task.coded.picture := by
  cases decides with
  | held names holds => exact absurd ⟨_, names, holds⟩ unheld
  | full unheld busy => exact absurd busy free
  | starved unheld free starves size => exact absurd starves fed
  | unaddressable unheld free fed overreaches offset =>
      exact iff_of_true ⟨_, rfl, rfl⟩ overreaches
  | built unheld free fed within first => exact iff_of_false (not_refusedAs_ok _ _) within

theorem Decides.faults (decides : session.Decides task outcome) {fault : Fault}
    (refused : outcome = .error fault) : Fault.OfGeneration task fault := by
  subst refused
  cases decides with
  | held names holds => exact .held _
  | full unheld busy =>
      split
      · exact .full _
      · exact .pending
  | starved unheld free starves size => exact .starved size
  | unaddressable unheld free fed overreaches offset => exact .unaddressable offset

theorem Decides.answers (decides : session.Decides task outcome)
    (unheld : ¬ session.AlreadyHolds task) (free : ¬ session.Busy)
    (fed : ¬ session.Starves task.coded.picture)
    (within : ¬ session.Overreaches task.coded.picture) : ∃ owned, outcome = .ok owned := by
  cases decides with
  | held names holds => exact absurd ⟨_, names, holds⟩ unheld
  | full _ busy => exact absurd busy free
  | starved _ _ starves size => exact absurd starves fed
  | unaddressable _ _ _ overreaches offset => exact absurd overreaches within
  | built _ _ _ _ first => exact ⟨_, rfl⟩

end Kinds

/-- An answered task has the first free slot, in which its registers are built. -/
theorem Generates.places {owned : Task} (unflagged : task.flags.hasError = false)
    (generates : Generates session task (.ok owned) later) : ∃ index slot content,
      session.slots.FirstFree index slot ∧ owned = { task with slot := some index } ∧
      later.slots.get? index = some ⟨true, .built, content⟩ := by
  cases generates with
  | skipped flagged journal => cases unflagged.symm.trans flagged
  | built _ unheld first prepares journal =>
      exact ⟨_, _, _, first, rfl, SlotPool.get?_put_self first.found _⟩

theorem answered_of_whole (formed : session.Formed) (current : session.LinesCurrent)
    (whole : session.Whole) (unflagged : task.flags.hasError = false) :
    session.Answered task (Action.outcome (generate task session))
      (Action.after (generate task session)) := by
  have generates := generate_spec session task
  have decides := generates.decides formed current whole unflagged
  generalize Action.outcome (generate task session) = outcome at generates decides ⊢
  refine ⟨decides.held_iff, decides.full_iff, decides.starved_iff, decides.unaddressable_iff, ?_,
    fun _ => decides.faults, ?_⟩
  · intro unheld free fed within
    obtain ⟨owned, rfl⟩ := decides.answers unheld free fed within
    obtain ⟨index, slot, content, first, rfl, found⟩ := generates.places unflagged
    exact ⟨index, slot, content, first, rfl, found⟩
  · rintro fault rfl
    exact ⟨rfl, generates.untouched formed⟩

end Session

section Runs

variable [Device δ] {surroundings : Board δ Arena → Board δ Arena → Prop}

/-- After any run a decoder that is not at work refuses every task its registers, and one that is at
work refuses a task without error flags for the first of four causes that applies: the task already
holds a slot, every slot is in use, the arena refuses an allocation that the picture needs, or a line
buffer in use cannot be addressed. If none applies, the task gets the free slot with the lowest
index. No other fault can occur, and a refusal leaves the task and all slots as they were. No count
of bits behind an answered task leaves 64 bits (`Session.bits_lt_of_within`). -/
theorem Run.generate_answered {board : Board δ Arena} {moments : List (Moment δ Arena)}
    {decoder : Decoder δ Arena} (run : Run surroundings (.idle board) moments decoder) {task : Task}
    (unflagged : task.flags.hasError = false) :
    (∀ board, decoder = .idle board →
      Decoder.generate task decoder = .error .notInitialised decoder) ∧
    ∀ session, decoder = .working session → ∃ later,
      Action.after (Decoder.generate task decoder) = .working later ∧
      session.Answered task (Action.outcome (Decoder.generate task decoder)) later := by
  refine ⟨?_, ?_⟩
  · rintro board rfl
    rfl
  · rintro session rfl
    have reached : Reachable surroundings session := ⟨board, moments, run⟩
    refine ⟨_, Decoder.after_inSession _ session, ?_⟩
    rw [Decoder.generate, Decoder.outcome_inSession]
    exact Session.answered_of_whole reached.formed reached.linesCurrent reached.whole unflagged

end Runs

/-- A picture 2 ^ 30 pixels wide is refused although nothing is in use and the arena grants every
buffer: its line buffers reach further than a patch can say. -/
theorem wide_picture_refused : ∃ moments, ∃ session : Session SimulatedDevice Arena,
    Run (fun _ _ => False) (.idle (Board.atRest 1 64 64)) moments (.working session) ∧
    session.slots.inUse = 0 ∧ session.board.memory.failAfter = none ∧
    RefusedAs (Action.outcome (Decoder.generate (.ofSize 0 (2 ^ 30) 16) (.working session)))
      .invalidArgument := by
  obtain ⟨session, initialised, able, slots, -, -, compressed, -⟩ :=
    @Decoder.initialise_atRest {} rfl true 1 64 64
  have run : Run (fun _ _ => False) (.idle (Board.atRest 1 64 64)) _ _ :=
    .call .nil (.initialise {} true)
  rw [Call.next_initialise, initialised, Action.after_ok] at run
  have willing : session.board.memory.failAfter = none := able.willing.memory
  obtain ⟨-, answered⟩ := run.generate_answered (show (Task.ofSize 0 (2 ^ 30) 16).flags.hasError =
    false from rfl)
  obtain ⟨later, -, answered⟩ := answered session rfl
  have unheld : ¬ session.AlreadyHolds (.ofSize 0 (2 ^ 30) 16) :=
    Session.not_alreadyHolds_of_unheld fun _ => nofun
  have first : session.slots.FirstFree 0 ⟨false, .idle, .fresh {}⟩ := by
    rw [slots]
    exact SlotPool.ofDepth_firstFree (by decide) _
  have free := Session.not_busy_of_firstFree first
  have fed : ¬ session.Starves (Task.ofSize 0 (2 ^ 30) 16).coded.picture :=
    Session.not_starves_of_willing willing _
  refine ⟨_, session, run, ?_, willing, (answered.unaddressable unheld free fed).mpr ?_⟩
  · rw [slots]
    exact SlotPool.inUse_ofDepth ..
  · rw [Session.Overreaches, Session.shapeOf_ofSize compressed]
    decide

end VideoAccel
