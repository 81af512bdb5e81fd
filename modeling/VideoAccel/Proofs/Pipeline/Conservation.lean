import VideoAccel.Proofs.Pipeline.History
import VideoAccel.Proofs.Pipeline.Progress

/-!
No task is lost or reported twice.

A task that gets a slot has it until it is reported or until the device refuses to start it. The
caller keeps the number of the slot in the task value, and only `generate` changes it; when each task
number is carried by one task value with fixed error flags (`Moment.OneEach`), the slot that serves a
task is the one that its value names. So no two slots serve one task, and the books balance:
`Run.tasks_conserved`.
-/

namespace VideoAccel

variable {δ α : Type}

/-- A change of the board that delivers no report. -/
def Board.Silent (before after : Board δ α) : Prop :=
  after.reports = before.reports

namespace Moment

section Names

variable [Allocator α]

/-- The slots that the task values name after a moment, by task number: a `generate` that answers
changes its task's. -/
def rename (names : Nat → Option Nat) (moment : Moment δ α) : Nat → Option Nat :=
  match moment.call with
  | .generate task =>
      match Action.outcome (Decoder.generate task moment.before) with
      | .ok owned => fun id => if id = task.id then owned.slot else names id
      | .error _ => names
  | _ => names

/-- The slots that the task values name after some moments. -/
def named (names : Nat → Option Nat) (moments : List (Moment δ α)) : Nat → Option Nat :=
  moments.foldl rename names

theorem named_concat (names : Nat → Option Nat) (moments : List (Moment δ α))
    (moment : Moment δ α) :
    named names (moments ++ [moment]) = rename (named names moments) moment := by
  rw [named, List.foldl_append]
  rfl

/-- Each task number is carried by one task value. Its error flags are fixed, and it names the slot
that the last `generate` answered with. -/
def OneEach (flagged : Nat → Bool) (names : Nat → Option Nat) (moments : List (Moment δ α)) : Prop :=
  ∀ prior moment later, moments = prior ++ moment :: later →
    ∀ task, moment.call.task? = some task →
      task.flags.hasError = flagged task.id ∧ task.slot = named names prior task.id

variable {flagged : Nat → Bool} {names : Nat → Option Nat} {moments : List (Moment δ α)}
  {moment : Moment δ α}

theorem oneEach_nil : OneEach flagged names ([] : List (Moment δ α)) := by
  intro prior moment later split
  cases prior <;> cases split

/-- The last call is given the task value of its number, and so are the calls before it. -/
theorem oneEach_concat : OneEach flagged names (moments ++ [moment]) ↔
    OneEach flagged names moments ∧ ∀ task, moment.call.task? = some task →
      task.flags.hasError = flagged task.id ∧ task.slot = named names moments task.id := by
  constructor
  · intro oneEach
    refine ⟨?_, oneEach moments moment [] rfl⟩
    rintro prior other later rfl
    exact oneEach prior other (later ++ [moment]) (List.append_assoc ..)
  · rintro ⟨oneEach, last⟩ prior other later split
    rcases List.eq_nil_or_concat later with rfl | ⟨rest, final, rfl⟩
    · obtain ⟨rfl, same⟩ := List.append_inj' split rfl
      cases same
      exact last
    · rw [List.concat_eq_append, ← List.cons_append, ← List.append_assoc] at split
      obtain ⟨rfl, -⟩ := List.append_inj' split rfl
      exact oneEach prior other rest rfl

/-- Other calls change no task value. -/
theorem rename_quiet (before : Decoder δ α) {call : Call} (taskless : call.task? = none) :
    rename names ⟨before, call⟩ = names := by
  cases call with
  | generate task => cases taskless
  | start task => cases taskless
  | wait task => cases taskless
  | control command => rfl
  | reset => rfl
  | flush => rfl
  | initialise config reporting => rfl
  | release => rfl

/-- A task value that was answered names the slot of the answer. -/
theorem rename_answered {session : Session δ α} {task owned : Task}
    (answered : Action.outcome (Session.generate task session) = .ok owned) (id : Nat) :
    rename names ⟨.working session, .generate task⟩ id =
      if id = task.id then owned.slot else names id := by
  have same : Action.outcome (Decoder.generate task (.working session)) = .ok owned :=
    (Decoder.outcome_inSession _ session).trans answered
  unfold rename
  simp only [same]

/-- A task value that was refused names what it named. -/
theorem rename_refused {session : Session δ α} {task : Task} {fault : Fault}
    (refused : Action.outcome (Session.generate task session) = .error fault) :
    rename names ⟨.working session, .generate task⟩ = names := by
  have same : Action.outcome (Decoder.generate task (.working session)) = .error fault :=
    (Decoder.outcome_inSession _ session).trans refused
  unfold rename
  simp only [same]

end Names

end Moment

namespace Session

variable [Device δ] [Allocator α]

/-- What the moments of a run say about the slots in use. -/
structure Conserves (flagged : Nat → Bool) (names : Nat → Option Nat) (past : Nat)
    (moments : List (Moment δ α)) (session : Session δ α) : Prop where
  reporting : session.reporting = true
  /-- A slot in use is named by the value of the task it serves. -/
  named : ∀ index slot id, session.slots.get? index = some slot → slot.taken = true →
    slot.content.task = some id → flagged id = false ∧ Moment.named names moments id = some index
  /-- Every task that got a slot has it still, was refused by the device, or is reported. -/
  balance : moments.countP Moment.builds + past =
    session.slots.inUse + moments.countP Moment.rejects + session.delivered.length

variable {flagged : Nat → Bool} {names : Nat → Option Nat} {past : Nat}
  {moments : List (Moment δ α)} {session later : Session δ α} {task : Task}

/-- A moment that takes, gives back and reports nothing does not matter. -/
theorem Conserves.of_quiet {moment : Moment δ α}
    (conserves : session.Conserves flagged names past moments)
    (builds : moment.builds = false) (rejects : moment.rejects = false)
    (renames : ∀ id, flagged id = false →
      Moment.rename (Moment.named names moments) moment id = Moment.named names moments id)
    (slots : later.slots = session.slots) (delivered : later.delivered = session.delivered)
    (reporting : later.reporting = session.reporting) :
    later.Conserves flagged names past (moments ++ [moment]) where
  reporting := reporting.trans conserves.reporting
  named index slot id found taken serves := by
    rw [slots] at found
    obtain ⟨unflagged, named⟩ := conserves.named index slot id found taken serves
    rw [Moment.named_concat, renames id unflagged]
    exact ⟨unflagged, named⟩
  balance := by
    rw [slots, delivered, Moment.countP_concat, Moment.countP_concat, builds, rejects]
    exact conserves.balance

/-- Putting a slot in the place of another, when the task values name what they named. -/
theorem Conserves.of_put {moment : Moment δ α}
    (conserves : session.Conserves flagged names past moments) {own : Nat}
    {old put : Slot SlotContent} (found : session.slots.get? own = some old)
    (slots : later.slots = session.slots.put own put)
    (renames : Moment.rename (Moment.named names moments) moment = Moment.named names moments)
    (serves : put.taken = true → old.taken = true ∧ put.content.task = old.content.task)
    (reporting : later.reporting = session.reporting)
    (builds : moment.builds = false)
    (balance : old.taken.toNat + session.delivered.length =
      put.taken.toNat + moment.rejects.toNat + later.delivered.length) :
    later.Conserves flagged names past (moments ++ [moment]) where
  reporting := reporting.trans conserves.reporting
  named index slot id there taken mine := by
    rw [Moment.named_concat, renames]
    rw [slots] at there
    rcases SlotPool.get?_put_cases there with ⟨rfl, rfl⟩ | ⟨-, before⟩
    · obtain ⟨busy, same⟩ := serves taken
      exact conserves.named own old id found busy (same ▸ mine)
    · exact conserves.named index slot id before taken mine
  balance := by
    have counted := SlotPool.inUse_put found put
    have before := conserves.balance
    rw [slots, Moment.countP_concat, Moment.countP_concat, builds, Bool.toNat_false]
    omega

theorem Conserves.generates {outcome : Except Fault Task}
    (conserves : session.Conserves flagged names past moments)
    (ran : Action.outcome (generate task session) = outcome)
    (generates : Generates session task outcome later)
    (fits : task.flags.hasError = flagged task.id ∧
      task.slot = Moment.named names moments task.id) :
    later.Conserves flagged names past (moments ++ [⟨.working session, .generate task⟩]) := by
  have builds := Moment.builds_generate session task
  rw [ran] at builds
  cases generates with
  | skipped isFlagged journal =>
      rw [isFlagged] at builds
      refine conserves.of_quiet builds rfl (fun id unflagged => ?_) rfl rfl rfl
      rw [Moment.rename_answered ran, if_neg]
      rintro rfl
      cases isFlagged.symm.trans (fits.1.trans unflagged)
  | held unflagged held holds =>
      exact conserves.of_quiet (builds.trans (Bool.and_false _)) rfl
        (fun id _ => by rw [Moment.rename_refused ran]) rfl rfl rfl
  | full unflagged unheld busy =>
      exact conserves.of_quiet (builds.trans (Bool.and_false _)) rfl
        (fun id _ => by rw [Moment.rename_refused ran]) rfl rfl rfl
  | @failed unflagged unheld index slot first fault supply scratch content prepares journal =>
      refine conserves.of_put first.found rfl (Moment.rename_refused ran) nofun rfl
        (builds.trans (Bool.and_false _)) ?_
      rw [first.free]
      rfl
  | @built unflagged unheld index slot first supply scratch content prepares journal =>
      rw [unflagged] at builds
      have before := conserves.balance
      have counted := SlotPool.inUse_put first.found ⟨true, .built, content⟩
      rw [first.free] at counted
      refine ⟨conserves.reporting, fun other final id found taken serves => ?_, ?_⟩
      · rw [Moment.named_concat, Moment.rename_answered ran]
        rcases SlotPool.get?_put_cases found with ⟨rfl, rfl⟩ | ⟨-, there⟩
        · obtain rfl : task.id = id := Option.some.inj (prepares.serves.symm.trans serves)
          rw [if_pos rfl]
          exact ⟨fits.1.symm.trans unflagged, rfl⟩
        · obtain ⟨clear, named⟩ := conserves.named other final id there taken serves
          rw [if_neg]
          · exact ⟨clear, named⟩
          · -- A slot that serves the task already would have kept it from getting another.
            rintro rfl
            have held := holds_iff.mpr ⟨final, there, taken, serves⟩
            cases held.symm.trans (unheld other (fits.2.trans named))
      · rw [Moment.countP_concat, Moment.countP_concat, builds]
        show _ + 1 + past = (session.slots.put index _).inUse + (_ + 0) + session.delivered.length
        simp only [Bool.toNat_true, Bool.toNat_false] at counted
        omega

theorem Conserves.starts {outcome : Except Fault Unit}
    (conserves : session.Conserves flagged names past moments)
    (ran : Action.outcome (start task session) = outcome)
    (starts : Starts session task outcome later) :
    later.Conserves flagged names past (moments ++ [⟨.working session, .start task⟩]) := by
  have rejects := Moment.rejects_start session task
  rw [ran] at rejects
  cases starts with
  | skipped isFlagged journal =>
      rw [isFlagged] at rejects
      exact conserves.of_quiet rfl rejects (fun _ _ => rfl) rfl rfl rfl
  | refused unflagged misdirected kind =>
      rw [admits_of_misdirected misdirected, Bool.and_false] at rejects
      exact conserves.of_quiet rfl rejects (fun _ _ => rfl) rfl rfl rfl
  | failed unflagged owns refused journal =>
      rw [unflagged, owns.admits] at rejects
      refine conserves.of_put owns.found rfl rfl nofun rfl rfl ?_
      rw [owns.taken, rejects]
      rfl
  | started unflagged owns accepted journal =>
      rw [unflagged, owns.admits] at rejects
      refine conserves.of_put owns.found rfl rfl (fun _ => ⟨owns.taken, rfl⟩) rfl rfl ?_
      rw [owns.taken, rejects]
      rfl

/-- A `wait` that finds its slot gives it back and delivers one report. -/
theorem Conserves.ended (conserves : session.Conserves flagged names past moments) {index : Nat}
    {slot : Slot SlotContent} (owns : session.Owns task .submitted index slot) (device : δ)
    (content : SlotContent) (journal : Journal) (file : Bytes) (hardError : Bool) :
    ((session.redevice device index ⟨false, .idle, content⟩ journal).reported
      (finalReport task file hardError)).Conserves flagged names past
        (moments ++ [⟨.working session, .wait task⟩]) := by
  let settled := session.redevice device index ⟨false, .idle, content⟩ journal
  have delivered : (settled.reported (finalReport task file hardError)).delivered =
      session.delivered ++ [finalReport task file hardError] :=
    delivered_final settled conserves.reporting task file hardError
  refine conserves.of_put owns.found (reported_slots _ _) rfl nofun (by rw [reported_eq]; rfl)
    rfl ?_
  rw [owns.taken, delivered, List.length_append]
  show 1 + session.delivered.length = 0 + 0 + (session.delivered.length + 1)
  omega

theorem Conserves.waits {outcome : Except Fault Unit}
    (conserves : session.Conserves flagged names past moments)
    (waits : Waits session task outcome later) :
    later.Conserves flagged names past (moments ++ [⟨.working session, .wait task⟩]) := by
  cases waits with
  | skipped isFlagged =>
      exact conserves.of_quiet rfl rfl (fun _ _ => rfl) (reported_slots _ _)
        (delivered_skip session task) (by rw [reported_eq])
  | refused unflagged misdirected kind =>
      exact conserves.of_quiet rfl rfl (fun _ _ => rfl) rfl rfl rfl
  | lost unflagged owns silent journal => exact conserves.ended owns _ _ journal _ _
  | finished unflagged owns collected stored journal => exact conserves.ended owns _ _ journal _ _

theorem Conserves.outside {board : Board δ α}
    (conserves : session.Conserves flagged names past moments)
    (silent : session.board.Silent board) :
    (session.withBoard board).Conserves flagged names past moments where
  reporting := conserves.reporting
  named := conserves.named
  balance := by
    have same : (session.withBoard board).delivered = session.delivered := delivered_congr silent
    rw [same]
    exact conserves.balance

/-- A session that was just opened has no slot in use and has not reported yet. -/
theorem Conserves.opened {config : Config} {scratch : Buffer} {board : Board δ α} :
    (Session.opened config true scratch board).Conserves flagged names
      (Session.opened config true scratch board).delivered.length [] where
  reporting := rfl
  named index slot id found taken serves := by
    obtain ⟨_, -, rfl⟩ := List.mem_map.mp (List.mem_of_getElem? found)
    cases taken
  balance := by
    have none : (Session.opened config true scratch board).slots.inUse = 0 :=
      SlotPool.inUse_ofDepth ..
    rw [none]
    rfl

end Session

section Runs

variable [Device δ] [Allocator α] {config : Config} {before decoder : Decoder δ α}
  {capability : Capability} {first : Session δ α} {moments : List (Moment δ α)}
  {flagged : Nat → Bool} {names : Nat → Option Nat}

theorem Run.conserves
    (opens : Decoder.initialise config true before = .ok capability (.working first))
    (run : Run Board.Silent (.working first) moments decoder)
    (continues : ∀ moment ∈ moments, moment.call.Continues)
    (oneEach : Moment.OneEach flagged names moments) :
    ∃ session, decoder = .working session ∧ session.Formed ∧
      session.Conserves flagged names first.delivered.length moments := by
  obtain ⟨valid, scratch, left, rfl, -⟩ := Decoder.initialise_eq_ok opens
  have history : ∃ session, decoder = .working session ∧ session.Formed ∧
      (Moment.OneEach flagged names moments → session.Conserves flagged names
        (Session.opened config true scratch left).delivered.length moments) := by
    refine run.history (I := fun moments session => Moment.OneEach flagged names moments →
      session.Conserves flagged names (Session.opened config true scratch left).delivered.length
        moments) ?_ ?_ ?_ ?_ ?_ (.opened valid true scratch left) (fun _ => .opened) continues
    · intro _ _ task _ _ _ conserves ran generates oneEach
      obtain ⟨before, last⟩ := Moment.oneEach_concat.mp oneEach
      exact (conserves before).generates ran generates (last task rfl)
    · intro _ _ _ _ _ _ conserves ran starts oneEach
      exact (conserves (Moment.oneEach_concat.mp oneEach).1).starts ran starts
    · intro _ _ _ _ _ _ conserves _ waits oneEach
      exact (conserves (Moment.oneEach_concat.mp oneEach).1).waits waits
    · intro _ session call _ conserves taskless still oneEach
      obtain ⟨builds, -, rejects, -⟩ := Moment.quiet (.working session) taskless
      refine (conserves (Moment.oneEach_concat.mp oneEach).1).of_quiet builds rejects
        (fun id _ => ?_) still.slots (Session.delivered_congr still.reports) still.reporting
      rw [Moment.rename_quiet _ taskless]
    · intro _ session board conserves silent oneEach
      exact (conserves oneEach).outside silent
  obtain ⟨session, rfl, formed, conserves⟩ := history
  exact ⟨session, rfl, formed, conserves oneEach⟩

omit [Allocator α] in
/-- A `wait` that finds its slot delivers one report, on its task, and gives back that slot and no
other, whether or not the device answers. -/
theorem Session.after_wait_of_owns {session : Session δ α} (reporting : session.reporting = true)
    {task : Task} (unflagged : task.flags.hasError = false) {index : Nat} {slot : Slot SlotContent}
    (owns : session.Owns task .submitted index slot) :
    ∃ later report freed, Action.after (wait task session) = later ∧
      later.board.reports = session.board.reports.push report ∧
      report.task = task.id ∧ report.skipped = false ∧
      later.slots.get? index = some freed ∧ freed.taken = false ∧ freed.stage = .idle ∧
      ∀ other, other ≠ index → later.slots.get? other = session.slots.get? other := by
  -- Answered or not, the task's slot is replaced by a free one and a report is delivered.
  obtain ⟨device, content, journal, file, hardError, ran⟩ :
      ∃ device content journal file hardError, Action.after (wait task session) =
        (session.redevice device index ⟨false, .idle, content⟩ journal).reported
          (finalReport task file hardError) := by
    cases collected : collect slot.content.file session.board.device with
    | error fault device =>
        obtain ⟨journal, ran⟩ := wait_of_silent unflagged owns collected
        exact ⟨_, _, _, _, _, by rw [ran, Action.after_error]⟩
    | ok status device =>
        obtain ⟨journal, ran⟩ := wait_of_collected unflagged owns collected rfl
        exact ⟨_, _, _, _, _, by rw [ran, Action.after_ok]⟩
  rw [ran]
  refine ⟨_, _, ⟨false, .idle, content⟩, rfl, reports_reported _ (by exact reporting) _, rfl, rfl, ?_,
    rfl, rfl, fun other ne => ?_⟩
  · rw [reported_slots]
    exact SlotPool.get?_put_self owns.found _
  · rw [reported_slots]
    exact SlotPool.get?_put_of_ne _ ne.symm _

/-- Slots are conserved. Take any calls since a decoder was initialised to report, on any device and
any allocator, in which each task number is carried by one task value with fixed error flags. A slot
is in use exactly when registers are built in it or its task was submitted; it serves a task, no two
slots in use serve one task, and there are no more of them than the settings say. The tasks that got
a slot are those that have one, those that were refused when they were started, and those that were
reported since. A `wait` for a task without error flags delivers one report, on that task, and frees
its slot and no other, whether or not the device answers, if the task has a submitted slot; otherwise
it is refused and nothing happens. -/
theorem Run.tasks_conserved
    (opens : Decoder.initialise config true before = .ok capability (.working first))
    (run : Run Board.Silent (.working first) moments decoder)
    (continues : ∀ moment ∈ moments, moment.call.Continues)
    (oneEach : Moment.OneEach flagged names moments) :
    ∃ session, decoder = .working session ∧
      (∀ index slot, session.slots.get? index = some slot →
        ((slot.taken = true ↔ slot.stage = .built ∨ slot.stage = .submitted) ∧
        (slot.taken = true → ∃ id, slot.content.task = some id))) ∧
      (∀ index slot other twin, session.slots.get? index = some slot → slot.taken = true →
        session.slots.get? other = some twin → twin.taken = true →
        slot.content.task = twin.content.task → index = other) ∧
      session.slots.inUse ≤ config.slotCount ∧
      moments.countP Moment.builds + first.delivered.length =
        session.slots.inUse + moments.countP Moment.rejects + session.delivered.length ∧
      ∀ task, task.flags.hasError = false →
        (∀ index slot, session.Owns task .submitted index slot →
          ∃ later report freed, Action.after (Session.wait task session) = later ∧
            later.board.reports = session.board.reports.push report ∧
            report.task = task.id ∧ report.skipped = false ∧
            later.slots.get? index = some freed ∧ freed.taken = false ∧ freed.stage = .idle ∧
            ∀ other, other ≠ index → later.slots.get? other = session.slots.get? other) ∧
        ((∀ index slot, ¬ session.Owns task .submitted index slot) →
          ∃ fault, fault.kind = .invalidState ∧
            Session.wait task session = .error fault session) := by
  obtain ⟨session, rfl, formed, conserves⟩ := run.conserves opens continues oneEach
  obtain ⟨valid, scratch, left, rfl, -⟩ := Decoder.initialise_eq_ok opens
  obtain ⟨config', -⟩ := run.settings (.opened valid true scratch left) continues
  refine ⟨session, rfl, fun index slot found => ?_, ?_, ?_, conserves.balance,
    fun task unflagged => ⟨fun index slot owns =>
      Session.after_wait_of_owns conserves.reporting unflagged owns,
      Session.wait_of_misdirected unflagged⟩⟩
  · have good := formed.slots index slot found
    refine ⟨good.stage.trans ?_, good.serves⟩
    cases slot.stage <;> decide
  · intro index slot other twin found taken there busy same
    obtain ⟨id, serves⟩ := (formed.slots index slot found).serves taken
    obtain ⟨-, here⟩ := conserves.named index slot id found taken serves
    obtain ⟨-, named⟩ := conserves.named other twin id there busy (same.symm.trans serves)
    exact Option.some.inj (here.symm.trans named)
  · refine Nat.le_trans session.slots.inUse_le_capacity (Nat.le_of_eq ?_)
    rw [formed.capacity, config']
    rfl

end Runs

/-- The calls for two pictures are made on one task value each. -/
theorem Session.TwoStarted.oneEach {early late : Completion}
    {opened one two three started : Session SimulatedDevice Arena}
    (both : TwoStarted early late opened one two three started) :
    Moment.OneEach (fun _ => false) (fun _ => none) (twoCalls opened one two three) := by
  have first : ∀ id, Moment.named (fun _ => none)
      ([] ++ [⟨.working opened, .generate (.ofSize 0 64 64)⟩]) id =
        if id = 0 then some 0 else none := by
    intro id
    rw [Moment.named_concat, Moment.rename_answered (by rw [both.first, Action.outcome_ok])]
    rfl
  have second : ∀ id, Moment.named (fun _ => none)
      ([] ++ [⟨.working opened, .generate (.ofSize 0 64 64)⟩] ++
        [⟨.working one, .generate (.ofSize 1 64 64)⟩]) id =
        if id = 1 then some 1 else if id = 0 then some 0 else none := by
    intro id
    rw [Moment.named_concat, Moment.rename_answered (by rw [both.second, Action.outcome_ok]), first]
    rfl
  show Moment.OneEach _ _ ([] ++ [⟨.working opened, .generate (.ofSize 0 64 64)⟩] ++
    [⟨.working one, .generate (.ofSize 1 64 64)⟩] ++
    [⟨.working two, .start ((Task.ofSize 0 64 64).placed 0)⟩] ++
    [⟨.working three, .start ((Task.ofSize 1 64 64).placed 1)⟩])
  simp only [Moment.oneEach_concat, Moment.oneEach_nil, true_and, Call.task?, Option.some.injEq,
    forall_eq']
  exact ⟨⟨⟨⟨rfl, rfl⟩, rfl, (first 1).symm⟩, rfl, (second 0).symm⟩, rfl, (second 1).symm⟩

/-- Two pictures were started and none was waited for: two slots are in use. -/
theorem two_slots_in_use : ∃ opened started : Session SimulatedDevice Arena, ∃ moments,
    Decoder.initialise {} true (.idle (Board.scripted .done .done)) =
      .ok (Decoder.capability {}) (.working opened) ∧
    Run Board.Silent (.working opened) moments (.working started) ∧
    moments.countP Moment.builds = 2 ∧ started.slots.inUse = 2 := by
  obtain ⟨opened, one, two, three, started, both⟩ := Session.two_started .done .done
  obtain ⟨_, same, -, -, -, balance, -⟩ := (both.run Board.Silent).tasks_conserved both.initialised
    Session.continues_twoCalls both.oneEach
  cases same
  have builds : (Session.twoCalls opened one two three).countP Moment.builds = 2 := by
    have first := Moment.builds_generate opened (.ofSize 0 64 64)
    have second := Moment.builds_generate one (.ofSize 1 64 64)
    rw [both.first] at first
    rw [both.second] at second
    rw [Session.twoCalls, List.countP_cons_of_pos first, List.countP_cons_of_pos second]
    rfl
  have rejects : (Session.twoCalls opened one two three).countP Moment.rejects = 0 := by
    refine List.countP_eq_zero.mpr fun moment member => ?_
    rw [Bool.not_eq_true]
    simp only [Session.twoCalls, List.mem_cons, List.not_mem_nil, or_false] at member
    rcases member with rfl | rfl | rfl | rfl
    · rfl
    · rfl
    · exact Moment.rejects_of_answered (by rw [both.third, Action.outcome_ok])
    · exact Moment.rejects_of_answered (by rw [both.fourth, Action.outcome_ok])
  have none : opened.delivered = [] ∧ started.delivered = [] := by
    obtain ⟨-, scratch, left, rfl, -, reports⟩ := Decoder.initialise_eq_ok both.initialised
    unfold Session.delivered
    rw [both.reports]
    exact ⟨congrArg (fun reports => reports.toList.filter fun report => !report.skipped) reports, rfl⟩
  rw [builds, rejects, none.1, none.2] at balance
  exact ⟨opened, started, _, both.initialised, both.run _, builds, balance.symm⟩

end VideoAccel
