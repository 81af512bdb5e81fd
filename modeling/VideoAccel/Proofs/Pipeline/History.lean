import VideoAccel.Proofs.Pipeline.Formed

/-!
What came of the calls of a run.

A run keeps its calls together with the decoders they were made on, so that one can read off a run
what each call answered: whether a task got a slot, was handed to the device, was waited for, or lost
its slot to a failing device. The accounts of a run are counts and lists over its moments.

`Run.history` is the induction that all of them use: a statement about the moments so far and the
session they led to holds along a run if the three calls of a task's life keep it, and if it does
not mind what leaves slots, device and reports alone.
-/

namespace VideoAccel

variable {δ α : Type}

namespace Call

/-- The task value that the call is given, if it is given one. -/
def task? : Call → Option Task
  | generate task => some task
  | start task => some task
  | wait task => some task
  | _ => none

end Call

namespace Session

/-- The ownership check lets the task pass. -/
def admits (session : Session δ α) (task : Task) (stage : Stage) : Bool :=
  (Action.outcome (ownedSlot task stage session)).isOk

theorem Owns.admits {session : Session δ α} {task : Task} {stage : Stage} {index : Nat}
    {slot : Slot SlotContent} (owns : session.Owns task stage index slot) :
    session.admits task stage = true := by
  rw [Session.admits, owns.passes]
  rfl

theorem admits_of_misdirected {session : Session δ α} {task : Task} {stage : Stage}
    (misdirected : ∀ index slot, ¬ session.Owns task stage index slot) :
    session.admits task stage = false := by
  rcases ownedSlot_cases session task stage with ⟨index, slot, owns, -⟩ | ⟨-, fault, -, ran⟩
  · exact absurd owns (misdirected index slot)
  · rw [admits, ran]
    rfl

/-- The reports on tasks that reached the hardware, in order. -/
def delivered (session : Session δ α) : List Report :=
  session.board.reports.toList.filter fun report => !report.skipped

theorem delivered_congr {a b : Session δ α} (same : a.board.reports = b.board.reports) :
    a.delivered = b.delivered := by
  rw [delivered, same, delivered]

/-- The report of a `wait` that found its slot is delivered after the others. -/
theorem delivered_final (session : Session δ α) (reporting : session.reporting = true)
    (task : Task) (file : Bytes) (hardError : Bool) :
    (session.reported (finalReport task file hardError)).delivered =
      session.delivered ++ [finalReport task file hardError] := by
  unfold delivered
  rw [reports_reported session reporting, Array.toList_push, List.filter_append]
  rfl

/-- A report on a skipped task is none of those. -/
theorem delivered_skip (session : Session δ α) (task : Task) :
    (session.reported (.skip task)).delivered = session.delivered := by
  unfold delivered reported
  split
  · rw [Array.toList_push, List.filter_append]
    exact List.append_nil _
  · rfl

/-- Nothing that tasks go through has changed: slots, device, reports and settings are as
before. -/
structure Still (before after : Session δ α) : Prop where
  slots : after.slots = before.slots
  device : after.board.device = before.board.device
  reports : after.board.reports = before.board.reports
  config : after.config = before.config
  reporting : after.reporting = before.reporting

end Session

namespace Moment

/-- The last moment counts, or it does not. -/
theorem countP_concat (p : Moment δ α → Bool) (moments : List (Moment δ α)) (moment : Moment δ α) :
    (moments ++ [moment]).countP p = moments.countP p + (p moment).toNat := by
  rw [List.countP_append, List.countP_singleton]
  cases p moment <;> rfl

/-- What is read off the last moment, if anything, comes last. -/
theorem filterMap_concat {β : Type} (read : Moment δ α → Option β) (moments : List (Moment δ α))
    (moment : Moment δ α) :
    (moments ++ [moment]).filterMap read = moments.filterMap read ++ (read moment).toList := by
  rw [List.filterMap_append]
  cases same : read moment <;> simp [same]

variable [Device δ] [Allocator α]

/-- What the call answered. -/
def outcome (moment : Moment δ α) : Except Fault Unit :=
  Action.outcome (moment.call.perform moment.before)

/-- A `generate` was answered for a task without error flags. -/
def builds (moment : Moment δ α) : Bool :=
  match moment.call with
  | .generate task => !task.flags.hasError && moment.outcome.isOk
  | _ => false

/-- The task that the call handed to the device. -/
def starts? (moment : Moment δ α) : Option Task :=
  match moment.call with
  | .start task => if !task.flags.hasError && moment.outcome.isOk then some task else none
  | _ => none

/-- A `start` found its task's slot and was refused all the same. -/
def rejects (moment : Moment δ α) : Bool :=
  match moment.call, moment.before with
  | .start task, .working session =>
      !task.flags.hasError && session.admits task .built && !moment.outcome.isOk
  | _, _ => false

/-- The task of a `wait` that found its task's slot, whatever the device answered. -/
def waits? (moment : Moment δ α) : Option Task :=
  match moment.call, moment.before with
  | .wait task, .working session =>
      if !task.flags.hasError && session.admits task .submitted then some task else none
  | _, _ => none

/-- A `wait` for a task without error flags was answered. -/
def fetches (moment : Moment δ α) : Bool :=
  match moment.call with
  | .wait task => !task.flags.hasError && moment.outcome.isOk
  | _ => false

/-- A `wait` was refused with a failure of the device. -/
def loses (moment : Moment δ α) : Bool :=
  match moment.call, moment.outcome with
  | .wait _, .error fault => decide (fault.kind = .deviceIo)
  | _, _ => false

theorem outcome_generate (session : Session δ α) (task : Task) :
    outcome ⟨.working session, .generate task⟩ =
      (Action.outcome (Session.generate task session)).map fun _ => () := by
  show Action.outcome (EStateM.bind _ _ _) = _
  rw [EStateM.bind, Decoder.generate, Decoder.inSession_working]
  cases Session.generate task session <;> rfl

theorem outcome_start (session : Session δ α) (task : Task) :
    outcome ⟨.working session, .start task⟩ = Action.outcome (Session.start task session) :=
  Decoder.outcome_inSession _ session

theorem outcome_wait (session : Session δ α) (task : Task) :
    outcome ⟨.working session, .wait task⟩ = Action.outcome (Session.wait task session) :=
  Decoder.outcome_inSession _ session

theorem builds_generate (session : Session δ α) (task : Task) :
    builds ⟨.working session, .generate task⟩ =
      (!task.flags.hasError && (Action.outcome (Session.generate task session)).isOk) := by
  rw [builds, outcome_generate]
  cases Action.outcome (Session.generate task session) <;> rfl

theorem starts?_start (session : Session δ α) (task : Task) :
    starts? ⟨.working session, .start task⟩ =
      if !task.flags.hasError && (Action.outcome (Session.start task session)).isOk then some task
      else none := by
  rw [starts?, outcome_start]

theorem rejects_start (session : Session δ α) (task : Task) :
    rejects ⟨.working session, .start task⟩ =
      (!task.flags.hasError && session.admits task .built &&
        !(Action.outcome (Session.start task session)).isOk) := by
  rw [rejects, outcome_start]

theorem rejects_of_answered {session : Session δ α} {task : Task}
    (answered : Action.outcome (Session.start task session) = .ok ()) :
    rejects ⟨.working session, .start task⟩ = false := by
  rw [rejects_start, answered]
  exact Bool.and_false _

omit [Device δ] [Allocator α] in
theorem waits?_wait (session : Session δ α) (task : Task) :
    waits? ⟨.working session, .wait task⟩ =
      if !task.flags.hasError && session.admits task .submitted then some task else none := rfl

omit [Device δ] [Allocator α] in
theorem waits?_of_owns {session : Session δ α} {task : Task} (unflagged : task.flags.hasError = false)
    {index : Nat} {slot : Slot SlotContent} (owns : session.Owns task .submitted index slot) :
    waits? ⟨.working session, .wait task⟩ = some task := by
  rw [waits?_wait, unflagged, owns.admits]
  rfl

theorem fetches_wait (session : Session δ α) (task : Task) :
    fetches ⟨.working session, .wait task⟩ =
      (!task.flags.hasError && (Action.outcome (Session.wait task session)).isOk) := by
  rw [fetches, outcome_wait]

theorem loses_of_answered {session : Session δ α} {task : Task}
    (answered : Action.outcome (Session.wait task session) = .ok ()) :
    loses ⟨.working session, .wait task⟩ = false := by
  rw [loses, outcome_wait, answered]

theorem loses_of_refused {session : Session δ α} {task : Task} {fault : Fault}
    (refused : Action.outcome (Session.wait task session) = .error fault) :
    loses ⟨.working session, .wait task⟩ = decide (fault.kind = .deviceIo) := by
  rw [loses, outcome_wait, refused]

/-- The tasks that were handed to the device, in order. -/
def started (moments : List (Moment δ α)) : List Task :=
  moments.filterMap starts?

/-- The tasks that were waited for and had a slot, in order. -/
def waited (moments : List (Moment δ α)) : List Task :=
  moments.filterMap waits?

theorem started_concat (moments : List (Moment δ α)) (moment : Moment δ α) :
    started (moments ++ [moment]) = started moments ++ moment.starts?.toList :=
  filterMap_concat starts? moments moment

omit [Device δ] [Allocator α] in
theorem waited_concat (moments : List (Moment δ α)) (moment : Moment δ α) :
    waited (moments ++ [moment]) = waited moments ++ moment.waits?.toList :=
  filterMap_concat waits? moments moment

/-- A call without a task has no part in the accounts. -/
theorem quiet (before : Decoder δ α) {call : Call} (taskless : call.task? = none) :
    builds ⟨before, call⟩ = false ∧ starts? ⟨before, call⟩ = none ∧
    rejects ⟨before, call⟩ = false ∧ waits? ⟨before, call⟩ = none ∧
    fetches ⟨before, call⟩ = false ∧ loses ⟨before, call⟩ = false := by
  cases call with
  | generate task => cases taskless
  | start task => cases taskless
  | wait task => cases taskless
  | control command => exact ⟨rfl, rfl, rfl, rfl, rfl, rfl⟩
  | reset => exact ⟨rfl, rfl, rfl, rfl, rfl, rfl⟩
  | flush => exact ⟨rfl, rfl, rfl, rfl, rfl, rfl⟩
  | initialise config reporting => exact ⟨rfl, rfl, rfl, rfl, rfl, rfl⟩
  | release => exact ⟨rfl, rfl, rfl, rfl, rfl, rfl⟩

end Moment

/-! ### Settings -/

namespace Session

theorem Generates.settings [Allocator α] {session later : Session δ α} {task : Task}
    {outcome : Except Fault Task} (generates : Generates session task outcome later) :
    later.config = session.config ∧ later.reporting = session.reporting := by
  cases generates <;> exact ⟨rfl, rfl⟩

theorem Starts.settings [Device δ] {session later : Session δ α} {task : Task}
    {outcome : Except Fault Unit} (starts : Starts session task outcome later) :
    later.config = session.config ∧ later.reporting = session.reporting := by
  cases starts <;> exact ⟨rfl, rfl⟩

theorem Waits.settings [Device δ] {session later : Session δ α} {task : Task}
    {outcome : Except Fault Unit} (waits : Waits session task outcome later) :
    later.config = session.config ∧ later.reporting = session.reporting := by
  cases waits with
  | skipped flagged => rw [reported_eq]; exact ⟨rfl, rfl⟩
  | refused unflagged misdirected kind => exact ⟨rfl, rfl⟩
  | lost unflagged owns silent journal => rw [reported_eq]; exact ⟨rfl, rfl⟩
  | finished unflagged owns collected stored journal => rw [reported_eq]; exact ⟨rfl, rfl⟩

end Session

/-! ### Along a run -/

/-- A decoder that was initialised works in an opened session, with the device it had and no further
report. -/
theorem Decoder.initialise_eq_ok [Allocator α] {config : Config} {reporting : Bool}
    {decoder : Decoder δ α} {capability : Capability} {session : Session δ α}
    (opens : initialise config reporting decoder = .ok capability (working session)) :
    config.validate = .ok () ∧ ∃ scratch left, session = .opened config reporting scratch left ∧
      left.device = decoder.released.board.device ∧
      left.reports = decoder.released.board.reports := by
  rcases initialise_cases config reporting decoder with
    ⟨fault, -, ran⟩ | ⟨fault, left, -, -, ran⟩ | ⟨scratch, left, valid, taken, ran⟩
  · cases opens.symm.trans ran
  · cases opens.symm.trans ran
  · cases opens.symm.trans ran
    obtain ⟨-, -, memory, journal, -, -, -, rfl⟩ := takeScratch_stages taken
    exact ⟨valid, scratch, _, rfl, rfl, rfl⟩

variable [Device δ] [Allocator α] {surroundings : Board δ α → Board δ α → Prop}

/-- A statement about the moments so far and the session they led to holds along a run from a
formed session, if every call of a task's life keeps it, and everything that leaves slots, device
and reports alone, and every allowed change of the board. -/
theorem Run.history {I : List (Moment δ α) → Session δ α → Prop}
    (generates : ∀ {prior session task outcome later}, session.Formed → I prior session →
      Action.outcome (Session.generate task session) = outcome →
      Session.Generates session task outcome later →
      I (prior ++ [⟨.working session, .generate task⟩]) later)
    (starts : ∀ {prior session task outcome later}, session.Formed → I prior session →
      Action.outcome (Session.start task session) = outcome →
      Session.Starts session task outcome later →
      I (prior ++ [⟨.working session, .start task⟩]) later)
    (waits : ∀ {prior session task outcome later}, session.Formed → I prior session →
      Action.outcome (Session.wait task session) = outcome →
      Session.Waits session task outcome later →
      I (prior ++ [⟨.working session, .wait task⟩]) later)
    (still : ∀ {prior session call later}, I prior session → call.task? = none →
      session.Still later → I (prior ++ [⟨.working session, call⟩]) later)
    (outside : ∀ {prior session board}, I prior session → surroundings session.board board →
      I prior (session.withBoard board))
    {first : Session δ α} (formed : first.Formed) (begins : I [] first)
    {moments : List (Moment δ α)} {decoder : Decoder δ α}
    (run : Run surroundings (.working first) moments decoder)
    (continues : ∀ moment ∈ moments, moment.call.Continues) :
    ∃ session, decoder = .working session ∧ session.Formed ∧ I moments session := by
  induction run with
  | nil => exact ⟨first, rfl, formed, begins⟩
  | outside earlier allowed ih =>
      obtain ⟨session, rfl, formed, holds⟩ := ih continues
      exact ⟨_, rfl, formed.of_same rfl rfl rfl rfl, outside holds allowed⟩
  | @call moments decoder earlier call ih =>
      obtain ⟨session, rfl, formed, holds⟩ := ih fun moment member =>
        continues moment (List.mem_append_left _ member)
      have goes := continues _ (List.mem_append_right _ (List.mem_singleton_self _))
      have leads := call.next_spec (.working session)
      generalize call.next (.working session) = final at leads ⊢
      cases leads with
      | generated ends => exact ⟨_, rfl, formed.generates ends, generates formed holds rfl ends⟩
      | started ends => exact ⟨_, rfl, formed.starts ends, starts formed holds rfl ends⟩
      | waited ends => exact ⟨_, rfl, formed.waits ends, waits formed holds rfl ends⟩
      | commanded =>
          exact ⟨_, rfl, formed.commanded, still holds rfl ⟨rfl, rfl, rfl, rfl, rfl⟩⟩
      | noted acknowledged =>
          have taskless : call.task? = none := by rcases acknowledged with rfl | rfl <;> rfl
          exact ⟨_, rfl, formed.of_same rfl rfl rfl rfl,
            still holds taskless ⟨rfl, rfl, rfl, rfl, rfl⟩⟩
      | released => exact goes.elim
      | refused invalid => exact goes.elim
      | failed valid taken => exact goes.elim
      | opened valid taken => exact goes.elim

/-- A run keeps the settings of its session, and whether it reports. -/
theorem Run.settings {first session : Session δ α} (formed : first.Formed)
    {moments : List (Moment δ α)}
    (run : Run surroundings (.working first) moments (.working session))
    (continues : ∀ moment ∈ moments, moment.call.Continues) :
    session.config = first.config ∧ session.reporting = first.reporting := by
  obtain ⟨_, same, -, kept⟩ := run.history
    (I := fun _ session => session.config = first.config ∧ session.reporting = first.reporting)
    (fun _ kept _ ends => kept.imp ends.settings.1.trans ends.settings.2.trans)
    (fun _ kept _ ends => kept.imp ends.settings.1.trans ends.settings.2.trans)
    (fun _ kept _ ends => kept.imp ends.settings.1.trans ends.settings.2.trans)
    (fun kept _ still => ⟨still.config.trans kept.1, still.reporting.trans kept.2⟩)
    (fun kept _ => kept)
    formed ⟨rfl, rfl⟩ continues
  cases same
  exact kept

end VideoAccel
