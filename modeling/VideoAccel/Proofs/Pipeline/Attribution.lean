import VideoAccel.Proofs.Pipeline.Flights

/-!
Whose ending a report tells.

A `wait` names its task, but the device completes its tasks in the order in which they were started.
So the report of a `wait` is on the task that was waited for and tells the ending of the oldest task
in flight. When tasks are waited for in the order of their starts, these are one and the same, and no
task's ending shows in the report of another.
-/

namespace VideoAccel

variable {α : Type}

section Runs

variable [Allocator α] {config : Config} {board : Board SimulatedDevice α}
  {capability : Capability} {first session later : Session SimulatedDevice α}
  {moments : List (Moment SimulatedDevice α)} {decoder : Decoder SimulatedDevice α} {task : Task}

/-- The task that was started in the given place has the given number, and the device ends it in the
given way. Places count from zero. -/
def Moment.StartedAs (moments : List (Moment SimulatedDevice α)) (place id : Nat)
    (ending : Ending) : Prop :=
  ∃ task, (started moments)[place]? = some task ∧ task.id = id ∧
    (sent moments)[place]? = some ending.completion

/-- Every start has a place, and an ending of the known form. -/
theorem Moment.startedAs_of_mem
    (scripted : ∀ completion ∈ sent moments, ∃ ending : Ending, completion = ending.completion)
    (member : task ∈ started moments) : ∃ place own, StartedAs moments place task.id own := by
  obtain ⟨place, inside, here⟩ := List.getElem_of_mem member
  have known : place < (sent moments).length := by rwa [length_sent]
  obtain ⟨own, same⟩ := scripted _ (List.getElem_mem known)
  exact ⟨place, own, task, List.getElem?_eq_some_iff.mpr ⟨inside, here⟩, rfl,
    List.getElem?_eq_some_iff.mpr ⟨known, same⟩⟩

/-- A session that was opened to report still does. -/
theorem Run.reporting_of_opens
    (opens : Decoder.initialise config true (.idle board) = .ok capability (.working first))
    (run : Run Board.Aside (.working first) moments (.working session))
    (continues : ∀ moment ∈ moments, moment.call.Continues) : session.reporting = true := by
  obtain ⟨valid, scratch, left, rfl, -⟩ := Decoder.initialise_eq_ok opens
  exact (run.settings (.opened valid true scratch left) continues).2

/-- The oldest task in flight was started in the place given by the number of answered waits. -/
theorem Session.Tracks.sent_oldest (tracks : session.Tracks moments) {completion : Completion}
    {rest : List Completion} (waiting : session.board.device.inFlight = completion :: rest) :
    (Moment.sent moments)[moments.countP Moment.fetches]? = some completion := by
  obtain ⟨taken, length, queue⟩ := tracks.queue
  rw [queue, waiting, ← length, List.getElem?_append_right (Nat.le_refl _), Nat.sub_self]
  rfl

/-- A report may tell another task's ending. Whatever was called since a decoder was initialised on
an unused board, in whatever order its tasks were waited for, a `wait` for a task in flight that the
device answers delivers one report on that task. It tells the ending of the task that was started in
the place given by the number of waits answered so far. It tells the ending of a start of its own
task if and only if the two agree in the main status word and in what is a hardware error. -/
theorem Run.report_tells_oldest
    (opens : Decoder.initialise config true (.idle board) = .ok capability (.working first))
    (unused : board.Unused) (run : Run Board.Aside (.working first) moments (.working session))
    (continues : ∀ moment ∈ moments, moment.call.Continues)
    (scripted : ∀ completion ∈ Moment.sent moments, ∃ ending : Ending,
      completion = ending.completion)
    (answers : session.board.device.failPolls = false) (unflagged : task.flags.hasError = false)
    {index : Nat} {slot : Slot SlotContent} (owns : session.Owns task .submitted index slot) :
    ∃ later report oldest, Session.wait task session = .ok () later ∧
      later.board.reports = session.board.reports.push report ∧
      report.task = task.id ∧ report.skipped = false ∧
      (∃ id, Moment.StartedAs moments (moments.countP Moment.fetches) id oldest) ∧
      report.Tells oldest ∧
      (∃ place own, Moment.StartedAs moments place task.id own) ∧
      ∀ place own, Moment.StartedAs moments place task.id own →
        (report.Tells own ↔ own.word = oldest.word ∧ own.isHardError = oldest.isHardError) := by
  obtain ⟨_, same, formed, tracks⟩ := run.tracks opens unused continues
  cases same
  obtain ⟨completion, rest, waiting⟩ := tracks.waiting owns
  have sent := tracks.sent_oldest waiting
  obtain ⟨oldest, rfl⟩ := scripted completion (List.mem_of_getElem? sent)
  obtain ⟨device, journal, -, waited⟩ :=
    Session.wait_of_waiting formed answers unflagged owns waiting rfl
  have tells := oldest.tells_of_readBack tracks.space (formed.slots _ _ owns.found).file task rfl
  have reporting : session.reporting = true := run.reporting_of_opens opens continues
  refine ⟨_, _, oldest, waited, Session.reports_reported _ (by exact reporting) _, rfl, rfl, ?_,
    tells, ?_, fun place own _ => ?_⟩
  · obtain ⟨inside, -⟩ := List.getElem?_eq_some_iff.mp sent
    rw [Moment.length_sent] at inside
    exact ⟨_, _, List.getElem?_eq_getElem inside, rfl, sent⟩
  · obtain ⟨starter, member, serves⟩ := tracks.started index slot owns.found owns.stage
    have same : starter.id = task.id := Option.some.inj (serves.symm.trans owns.serves)
    rw [← same]
    exact Moment.startedAs_of_mem scripted member
  · constructor
    · intro other
      exact ⟨other.status.symm.trans tells.status, other.hardError.symm.trans tells.hardError⟩
    · rintro ⟨word, hard⟩
      exact ⟨tells.status.trans word.symm, tells.hardError.trans hard.symm⟩

end Runs

/-- Two completions of the known form. -/
theorem Ending.exists_of_mem_pair (early late : Ending) :
    ∀ completion ∈ [early.completion, late.completion], ∃ ending : Ending,
      completion = ending.completion :=
  List.forall_mem_cons.mpr ⟨⟨early, rfl⟩, List.forall_mem_singleton.mpr ⟨late, rfl⟩⟩

/-- Of two pictures in flight the second is waited for first. It ended well, and its report says that
the watchdog ended it. -/
theorem second_waited_for_first : ∃ opened started later : Session SimulatedDevice Arena,
    ∃ moments report,
    Decoder.initialise {} true
        (.idle (Board.scripted Ending.timedOut.completion Ending.done.completion)) =
      .ok (Decoder.capability {}) (.working opened) ∧
    Run Board.Aside (.working opened) moments (.working started) ∧
    Session.wait ((Task.ofSize 1 64 64).placed 1) started = .ok () later ∧
    later.board.reports = started.board.reports.push report ∧
    report.task = 1 ∧ report.Tells Ending.timedOut ∧ ¬ report.Tells Ending.done := by
  obtain ⟨opened, one, two, three, started, both⟩ :=
    Session.two_started Ending.timedOut.completion Ending.done.completion
  obtain ⟨starts, sent⟩ := both.accounts
  obtain ⟨slot, owns⟩ := both.owns 1 (by decide)
  have scripted : ∀ completion ∈ Moment.sent (Session.twoCalls opened one two three),
      ∃ ending : Ending, completion = ending.completion :=
    sent ▸ Ending.exists_of_mem_pair _ _
  obtain ⟨later, report, oldest, waited, delivered, mine, -, ⟨_, _, -, -, first⟩, tells, -, agrees⟩ :=
    (both.run Board.Aside).report_tells_oldest both.initialised (.scripted ..)
      Session.continues_twoCalls scripted both.able.willing.device rfl owns
  -- No `wait` was answered, so that the oldest task is that of the first picture.
  have none : (Session.twoCalls opened one two three).countP Moment.fetches = 0 := rfl
  rw [none, sent] at first
  obtain rfl := Ending.completion_injective (Option.some.inj first)
  have own : Moment.StartedAs (Session.twoCalls opened one two three) 1
      ((Task.ofSize 1 64 64).placed 1).id Ending.done :=
    ⟨_, by rw [starts]; rfl, rfl, by rw [sent]; rfl⟩
  refine ⟨opened, started, later, _, report, both.initialised, both.run _, waited, delivered, mine,
    tells, fun good => ?_⟩
  have same := ((agrees 1 Ending.done own).mp good).1
  revert same
  decide

section Runs

variable [Allocator α] {config : Config} {board : Board SimulatedDevice α}
  {capability : Capability} {first session later : Session SimulatedDevice α}
  {moments : List (Moment SimulatedDevice α)} {decoder : Decoder SimulatedDevice α} {task : Task}

/-! ### Waiting in the order of the starts -/

namespace Session

/-- The reports of a run in which the device fails no `wait`: every `wait` that finds its slot is
answered and delivers one, on its own task, and it tells the ending of the task started in the same
place. -/
structure Told (moments : List (Moment SimulatedDevice α))
    (session : Session SimulatedDevice α) : Prop where
  reporting : session.reporting = true
  length : session.delivered.length = (Moment.waited moments).length
  answered : (Moment.waited moments).length = moments.countP Moment.fetches
  tells : ∀ (k : Nat) (report : Report), session.delivered[k]? = some report →
    ∃ (task : Task) (completion : Completion), (Moment.waited moments)[k]? = some task ∧
      (Moment.sent moments)[k]? = some completion ∧ report.task = task.id ∧
      ∀ ending : Ending, completion = ending.completion → report.Tells ending

/-- A moment at which no task is waited for does not matter. -/
theorem Told.of_quiet {moment : Moment SimulatedDevice α} (told : session.Told moments)
    (waits : moment.waits? = none) (fetches : moment.fetches = false)
    (delivered : later.delivered = session.delivered)
    (reporting : later.reporting = session.reporting) : later.Told (moments ++ [moment]) where
  reporting := reporting.trans told.reporting
  length := by
    rw [delivered, Moment.waited_concat, waits, told.length]
    exact congrArg List.length (List.append_nil _).symm
  answered := by
    rw [Moment.waited_concat, waits, Moment.countP_concat, fetches, ← told.answered]
    exact congrArg List.length (List.append_nil _)
  tells k report found := by
    rw [delivered] at found
    obtain ⟨task, completion, waited, sent, same, tells⟩ := told.tells k report found
    rw [Moment.waited_concat, Moment.sent_concat]
    exact ⟨task, completion, by grind, by grind, same, tells⟩

/-- A `wait` that the device answers delivers one report, which tells the oldest task's ending. -/
theorem Told.finished (told : session.Told moments) (tracks : session.Tracks moments)
    (formed : session.Formed) (unflagged : task.flags.hasError = false) {index : Nat}
    {slot : Slot SlotContent} (owns : session.Owns task .submitted index slot)
    {completion : Completion} {device : SimulatedDevice}
    (collects : SimulatedDevice.Collects completion session.board.device device) {file : Bytes}
    (shown : file = completion.readBack session.board.device.registers slot.content.file)
    (fetches : Moment.fetches ⟨.working session, .wait task⟩ = true) (content : SlotContent)
    (journal : Journal) :
    ((session.redevice device index ⟨false, .idle, content⟩ journal).reported
      (finalReport task file (Verdict.ofFile file).isHardError)).Told
        (moments ++ [⟨.working session, .wait task⟩]) := by
  let settled := session.redevice device index ⟨false, .idle, content⟩ journal
  let last := finalReport task file (Verdict.ofFile file).isHardError
  have delivered : (settled.reported last).delivered = session.delivered ++ [last] :=
    delivered_final settled told.reporting task file _
  have oldest := tracks.sent_oldest collects.waiting
  rw [← told.answered] at oldest
  have waited := Moment.waited_concat moments ⟨.working session, .wait task⟩
  rw [Moment.waits?_of_owns unflagged owns] at waited
  refine ⟨by rw [reported_eq]; exact told.reporting, ?_, ?_, fun k report found => ?_⟩
  · rw [delivered, waited, List.length_append, List.length_append]
    exact congrArg (· + 1) told.length
  · rw [waited, List.length_append, Moment.countP_concat, fetches, told.answered]
    rfl
  · rw [delivered] at found
    rw [waited, Moment.sent_concat]
    rw [List.getElem?_append] at found
    split at found
    · obtain ⟨task, completion, waited, sent, same, tells⟩ := told.tells k report found
      exact ⟨task, completion, by grind, by grind, same, tells⟩
    · obtain ⟨rfl, rfl⟩ : k = session.delivered.length ∧ last = report := by grind
      rw [told.length]
      refine ⟨task, completion, List.getElem?_concat_length, by grind, rfl, ?_⟩
      rintro ending rfl
      exact ending.tells_of_readBack tracks.space (formed.slots _ _ owns.found).file task shown

theorem Told.waits {outcome : Except Fault Unit} (told : session.Told moments)
    (tracks : session.Tracks moments) (formed : session.Formed)
    (ran : Action.outcome (wait task session) = outcome)
    (waits : Waits session task outcome later)
    (unfailing : Moment.loses ⟨.working session, .wait task⟩ = false) :
    later.Told (moments ++ [⟨.working session, .wait task⟩]) := by
  have fetches := Moment.fetches_wait session task
  have what := Moment.waits?_wait session task
  rw [ran] at fetches
  cases waits with
  | skipped flagged =>
      rw [flagged] at fetches what
      exact told.of_quiet what fetches (delivered_skip session task) (by rw [reported_eq])
  | refused unflagged misdirected kind =>
      rw [admits_of_misdirected misdirected, Bool.and_false] at what
      exact told.of_quiet what (fetches.trans (Bool.and_false _)) rfl rfl
  | lost unflagged owns silent journal =>
      obtain ⟨-, kind, -⟩ :=
        SimulatedDevice.collect_eq_error (formed.slots _ _ owns.found).file silent
      rw [Moment.loses_of_refused ran, kind] at unfailing
      cases unfailing
  | finished unflagged owns collected stored journal =>
      obtain ⟨completion, collects, read⟩ :=
        SimulatedDevice.collect_eq_ok (formed.slots _ _ owns.found).file collected
      rw [read] at stored
      rw [unflagged] at fetches
      exact told.finished tracks formed unflagged owns collects stored fetches _ journal

theorem Told.of_same (told : session.Told moments) (delivered : later.delivered = session.delivered)
    (reporting : later.reporting = session.reporting) : later.Told moments where
  reporting := reporting.trans told.reporting
  length := delivered ▸ told.length
  answered := told.answered
  tells := delivered ▸ told.tells

/-- A session that was just opened on a board without reports has delivered none. -/
theorem Told.opened {scratch : Buffer} (unreported : board.reports = #[]) :
    (Session.opened config true scratch board).Told [] := by
  have none : (Session.opened config true scratch board).delivered = [] := by
    show List.filter _ board.reports.toList = []
    rw [unreported]
    rfl
  refine ⟨rfl, by rw [none]; rfl, rfl, fun k report found => ?_⟩
  rw [none] at found
  cases found

end Session

/-- A run in which the device fails no `wait` tells the endings in the order of the starts. -/
theorem Run.told
    (opens : Decoder.initialise config true (.idle board) = .ok capability (.working first))
    (unused : board.Unused) (run : Run Board.Aside (.working first) moments decoder)
    (continues : ∀ moment ∈ moments, moment.call.Continues)
    (unfailing : ∀ moment ∈ moments, moment.loses = false) :
    ∃ session, decoder = .working session ∧ session.Told moments := by
  obtain ⟨valid, scratch, left, rfl, device, reports⟩ := Decoder.initialise_eq_ok opens
  have before : ∀ {prior : List (Moment SimulatedDevice α)} {moment},
      (∀ other ∈ prior ++ [moment], other.loses = false) → ∀ other ∈ prior, other.loses = false :=
    fun unfailing other member => unfailing other (List.mem_append_left _ member)
  have history : ∃ session, decoder = .working session ∧ session.Formed ∧ session.Tracks moments ∧
      ((∀ moment ∈ moments, moment.loses = false) → session.Told moments) := by
    refine run.history (I := fun moments session => session.Tracks moments ∧
      ((∀ moment ∈ moments, moment.loses = false) → session.Told moments))
      ?_ ?_ ?_ ?_ ?_ (.opened valid true scratch left) ?_ continues
    · intro _ _ _ _ _ formed ⟨tracks, told⟩ _ generates
      refine ⟨tracks.generates formed generates, fun unfailing => ?_⟩
      exact (told (before unfailing)).of_quiet rfl rfl (by cases generates <;> rfl)
        (by cases generates <;> rfl)
    · intro _ _ _ _ _ _ ⟨tracks, told⟩ ran starts
      refine ⟨tracks.starts ran starts, fun unfailing => ?_⟩
      exact (told (before unfailing)).of_quiet rfl rfl (by cases starts <;> rfl)
        (by cases starts <;> rfl)
    · intro _ _ _ _ _ formed ⟨tracks, told⟩ ran waits
      refine ⟨tracks.waits formed ran waits, fun unfailing => ?_⟩
      exact (told (before unfailing)).waits tracks formed ran waits
        (unfailing _ (List.mem_append_right _ (List.mem_singleton_self _)))
    · intro _ session _ _ ⟨tracks, told⟩ taskless still
      obtain ⟨-, -, -, waits, fetches, -⟩ := Moment.quiet (.working session) taskless
      refine ⟨tracks.still taskless still, fun unfailing => ?_⟩
      exact (told (before unfailing)).of_quiet waits fetches (Session.delivered_congr still.reports)
        still.reporting
    · intro _ _ _ ⟨tracks, told⟩ aside
      exact ⟨tracks.outside aside, fun unfailing =>
        (told unfailing).of_same (Session.delivered_congr aside.reports) rfl⟩
    · exact ⟨.opened (device ▸ unused.space) (device ▸ unused.inFlight),
        fun _ => .opened (reports.trans unused.reports)⟩
  obtain ⟨session, rfl, -, -, told⟩ := history
  exact ⟨session, rfl, told unfailing⟩

/-- Errors of the hardware show in the reports of their own tasks and in no others. Take any calls
since a decoder was initialised on an unused board whose completions all have the known form, in
which the device fails no `wait` and the tasks that are waited for are waited for in the order of
their starts. Then every `wait` that found its slot has delivered one report, and the report in place
`k` is on the task that was started in place `k`: its status is the main status word of that task's
ending, and it says hardware error if and only if this word has an error bit, lacks the ready bit or
says that the stream ran out, or the ending sets a secondary word. -/
theorem Run.reports_in_order
    (opens : Decoder.initialise config true (.idle board) = .ok capability (.working first))
    (unused : board.Unused) (run : Run Board.Aside (.working first) moments decoder)
    (continues : ∀ moment ∈ moments, moment.call.Continues)
    (scripted : ∀ completion ∈ Moment.sent moments, ∃ ending : Ending,
      completion = ending.completion)
    (unfailing : ∀ moment ∈ moments, moment.loses = false)
    (inTurn : (Moment.waited moments).map (·.id) <+: (Moment.started moments).map (·.id)) :
    ∃ session, decoder = .working session ∧
      session.delivered.length = (Moment.waited moments).length ∧
      ∀ (k : Nat) (report : Report), session.delivered[k]? = some report →
        ∃ ending, Moment.StartedAs moments k report.task ending ∧ report.status = ending.word ∧
          (report.hardError = true ↔
            StatusWord.meets ending.word StatusWord.busError = true ∨
            StatusWord.meets ending.word StatusWord.decodeError = true ∨
            StatusWord.meets ending.word StatusWord.timeout = true ∨
            StatusWord.meets ending.word StatusWord.ready = false ∨
            StatusWord.meets ending.word StatusWord.streamEmpty = true ∨
            ending.entropyError = true ∨ ending.motionError = true) := by
  obtain ⟨session, rfl, told⟩ := run.told opens unused continues unfailing
  refine ⟨session, rfl, told.length, fun k report found => ?_⟩
  obtain ⟨task, completion, waited, sent, same, tells⟩ := told.tells k report found
  obtain ⟨ending, rfl⟩ := scripted completion (List.mem_of_getElem? sent)
  -- What was waited for in place `k` was started in place `k`.
  obtain ⟨rest, starts⟩ := inTurn
  have there : ((Moment.started moments).map (·.id))[k]? = some task.id := by
    have named : ((Moment.waited moments).map (·.id))[k]? = some task.id := by
      rw [List.getElem?_map, waited]
      rfl
    rw [← starts]
    grind
  rw [List.getElem?_map, Option.map_eq_some_iff] at there
  obtain ⟨starter, here, mine⟩ := there
  refine ⟨ending, ⟨starter, here, mine.trans same.symm, sent⟩, (tells ending rfl).status, ?_⟩
  rw [(tells ending rfl).hardError]
  simp only [Ending.isHardError, Bool.or_eq_true, Bool.not_eq_true', or_assoc]

end Runs

/-- Two pictures can be waited for in the order in which they were started. -/
theorem Session.two_finished (early late : Completion) :
    ∃ opened final : Session SimulatedDevice Arena, ∃ moments,
      Decoder.initialise {} true (.idle (Board.scripted early late)) =
        .ok (Decoder.capability {}) (.working opened) ∧
      Run Board.Aside (.working opened) moments (.working final) ∧
      (∀ moment ∈ moments, moment.call.Continues) ∧ (∀ moment ∈ moments, moment.loses = false) ∧
      Moment.started moments = [(Task.ofSize 0 64 64).placed 0, (Task.ofSize 1 64 64).placed 1] ∧
      Moment.waited moments = [(Task.ofSize 0 64 64).placed 0, (Task.ofSize 1 64 64).placed 1] ∧
      Moment.sent moments = [early, late] := by
  obtain ⟨opened, one, two, three, started, both⟩ := two_started early late
  obtain ⟨starts, sent⟩ := both.accounts
  obtain ⟨slot₀, owns₀⟩ := both.owns 0 (by decide)
  obtain ⟨slot₁, owns₁⟩ := both.owns 1 (by decide)
  obtain ⟨device, file, journal, collects, waited₀, able⟩ :=
    wait_of_able both.able rfl owns₀ both.inFlight
  have kept : ((started.redevice device 0
      ⟨false, .idle, slot₀.content.withFile (Layout.status.set 0 file)⟩ journal).reported
        (finalReport ((Task.ofSize 0 64 64).placed 0) file
          (Verdict.ofFile file).isHardError)).Owns ((Task.ofSize 1 64 64).placed 1) .submitted 1
            slot₁ :=
    owns₁.of_put (reported_slots _ _) (by decide)
  have waiting : device.inFlight = [late] := by
    have same := collects.waiting
    rw [both.inFlight] at same
    exact (List.cons.inj same).2.symm
  obtain ⟨_, _, _, -, waited₁, -⟩ := @wait_of_able _ able ((Task.ofSize 1 64 64).placed 1) rfl 1
    slot₁ kept late [] (by rw [reported_eq]; exact waiting)
  have run₀ := (both.run Board.Aside).call (.wait ((Task.ofSize 0 64 64).placed 0))
  rw [Call.next_wait, waited₀, Action.after_ok] at run₀
  have run₁ := run₀.call (.wait ((Task.ofSize 1 64 64).placed 1))
  rw [Call.next_wait, waited₁, Action.after_ok] at run₁
  refine ⟨opened, _, _, both.initialised, run₁, ?_, ?_, ?_, ?_, ?_⟩
  · simp only [List.forall_mem_append, List.forall_mem_singleton]
    exact ⟨⟨continues_twoCalls, trivial⟩, trivial⟩
  · simp only [List.forall_mem_append, List.forall_mem_singleton]
    exact ⟨⟨unfailing_twoCalls, Moment.loses_of_answered (by rw [waited₀]; rfl)⟩,
      Moment.loses_of_answered (by rw [waited₁]; rfl)⟩
  · rw [Moment.started_concat, Moment.started_concat, starts]
    rfl
  · rw [Moment.waited_concat, Moment.waited_concat, Moment.waits?_of_owns rfl owns₀,
      Moment.waits?_of_owns rfl kept]
    rfl
  · rw [Moment.sent_concat, Moment.sent_concat, sent]
    rfl

/-- The watchdog ends the first of two pictures, and the second ends well. Waited for in turn, each
is reported as it ended. -/
theorem first_failed_second_done : ∃ opened final : Session SimulatedDevice Arena, ∃ moments,
    Decoder.initialise {} true
        (.idle (Board.scripted Ending.timedOut.completion Ending.done.completion)) =
      .ok (Decoder.capability {}) (.working opened) ∧
    Run Board.Aside (.working opened) moments (.working final) ∧
    ∃ early late, final.delivered = [early, late] ∧
      early.task = 0 ∧ early.hardError = true ∧ late.task = 1 ∧ late.hardError = false := by
  obtain ⟨opened, final, moments, opens, run, continues, unfailing, starts, waits, sent⟩ :=
    Session.two_finished Ending.timedOut.completion Ending.done.completion
  have scripted : ∀ completion ∈ Moment.sent moments, ∃ ending : Ending,
      completion = ending.completion :=
    sent ▸ Ending.exists_of_mem_pair _ _
  have order : (Moment.waited moments).map (·.id) <+: (Moment.started moments).map (·.id) :=
    ⟨[], by rw [starts, waits, List.append_nil]⟩
  obtain ⟨_, same, length, told⟩ :=
    run.reports_in_order opens (.scripted ..) continues scripted unfailing order
  cases same
  rw [waits] at length
  obtain ⟨early, late, reports⟩ : ∃ early late, final.delivered = [early, late] := by
    match final.delivered, length with
    | [early, late], _ => exact ⟨early, late, rfl⟩
  rw [reports] at told
  obtain ⟨_, ⟨_, there₀, mine₀, ends₀⟩, -, hard₀⟩ := told 0 early rfl
  obtain ⟨_, ⟨_, there₁, mine₁, ends₁⟩, -, hard₁⟩ := told 1 late rfl
  rw [starts] at there₀ there₁
  rw [sent] at ends₀ ends₁
  obtain rfl := Ending.completion_injective (Option.some.inj ends₀)
  obtain rfl := Ending.completion_injective (Option.some.inj ends₁)
  cases there₀
  cases there₁
  refine ⟨opened, final, moments, opens, run, early, late, reports, mine₀.symm, hard₀.mpr (by decide),
    mine₁.symm, ?_⟩
  rw [← Bool.not_eq_true, hard₁]
  decide

end VideoAccel
