import VideoAccel.Proofs.Pipeline.History
import VideoAccel.Proofs.Pipeline.Progress
import VideoAccel.Proofs.Device.Ending

/-!
What is in flight, as the slots and as the device see it.

A slot is submitted from the `start` that hands its task to the device until the `wait` that gives it
back, and that `wait` gives it back even if the device refuses to be polled. The completion of such
a task stays in the device. So the device has as many tasks in flight as there are submitted slots,
and one more for every `wait` that the device failed: `Run.in_flight_accounted`. What carries this
along a run is `Session.Tracks`, which also says in which order completions leave the device.
-/

namespace VideoAccel

variable {α : Type}

/-- A change of the board on which nobody sends tasks, waits for them or reports. The device may be
told how tasks will end and to refuse its polls, and the allocator to refuse. -/
structure Board.Aside (before after : Board SimulatedDevice α) : Prop where
  inFlight : after.device.inFlight = before.device.inFlight
  space : after.device.registers.size = before.device.registers.size
  reports : after.reports = before.reports

/-- A board on which nothing was started or reported. -/
structure Board.Unused (board : Board SimulatedDevice α) : Prop where
  space : board.device.registers.size = SimulatedDevice.registerSpace
  inFlight : board.device.inFlight = []
  reports : board.reports = #[]

namespace Moment

variable [Allocator α]

/-- The completion of the task that the call handed to the device. -/
def sends? (moment : Moment SimulatedDevice α) : Option Completion :=
  moment.starts?.map fun _ => moment.before.board.device.nextCompletion

/-- The completions of the tasks that were handed to the device, in order. -/
def sent (moments : List (Moment SimulatedDevice α)) : List Completion :=
  moments.filterMap sends?

theorem sent_concat (moments : List (Moment SimulatedDevice α))
    (moment : Moment SimulatedDevice α) :
    sent (moments ++ [moment]) = sent moments ++ moment.sends?.toList :=
  filterMap_concat sends? moments moment

/-- Every task that was handed to the device has a completion. -/
theorem length_sent (moments : List (Moment SimulatedDevice α)) :
    (sent moments).length = (started moments).length := by
  induction moments with
  | nil => rfl
  | cons moment later ih =>
      rw [sent, started, List.filterMap_cons, List.filterMap_cons, sends?]
      cases moment.starts? with
      | none => exact ih
      | some task => exact congrArg Nat.succ ih

end Moment

namespace Session

section Steps

variable {δ : Type} {session later : Session δ α} {task : Task}

theorem Generates.device [Allocator α] {outcome : Except Fault Task}
    (generates : Generates session task outcome later) :
    later.board.device = session.board.device := by
  cases generates <;> rfl

/-- Building registers submits no slot. -/
theorem Generates.submitted [Allocator α] (formed : session.Formed)
    {outcome : Except Fault Task} (generates : Generates session task outcome later) :
    later.slots.inStage .submitted = session.slots.inStage .submitted ∧
    ∀ index slot, later.slots.get? index = some slot → slot.stage = .submitted →
      session.slots.get? index = some slot := by
  have settled : ∀ {own : Nat} {slot put : Slot SlotContent},
      session.slots.FirstFree own slot → put.stage ≠ .submitted →
      (session.slots.put own put).inStage .submitted = session.slots.inStage .submitted ∧
      ∀ index slot, (session.slots.put own put).get? index = some slot →
        slot.stage = .submitted → session.slots.get? index = some slot := by
    intro own slot put first other
    refine ⟨?_, ?_⟩
    · have counted := SlotPool.inStage_put first.found put .submitted
      rw [(formed.slots own slot first.found).stage_of_free first.free,
        decide_eq_false other] at counted
      exact counted
    · intro index final found submitted
      rcases SlotPool.get?_put_cases found with ⟨-, rfl⟩ | ⟨-, before⟩
      · exact absurd submitted other
      · exact before
  cases generates with
  | skipped flagged journal => exact ⟨rfl, fun _ _ found _ => found⟩
  | held unflagged names holds => exact ⟨rfl, fun _ _ found _ => found⟩
  | full unflagged unheld busy => exact ⟨rfl, fun _ _ found _ => found⟩
  | failed unflagged unheld first prepares journal => exact settled first nofun
  | built unflagged unheld first prepares journal => exact settled first nofun

/-- What putting a slot in the place of a task's slot does to a stage. -/
theorem Owns.inStage_put {stage : Stage} {index : Nat} {slot : Slot SlotContent}
    (owns : session.Owns task stage index slot) (put : Slot SlotContent) (counted : Stage) :
    (session.slots.put index put).inStage counted + (decide (stage = counted)).toNat =
      session.slots.inStage counted + (decide (put.stage = counted)).toNat := by
  have same := SlotPool.inStage_put owns.found put counted
  rwa [owns.stage] at same

/-- A submitted slot that is given back is submitted no more; the others still are. -/
theorem Owns.idled {index : Nat} {slot : Slot SlotContent}
    (owns : session.Owns task .submitted index slot) (content : SlotContent) :
    (session.slots.put index ⟨false, .idle, content⟩).inStage .submitted + 1 =
      session.slots.inStage .submitted ∧
    ∀ other final, (session.slots.put index ⟨false, .idle, content⟩).get? other = some final →
      final.stage = .submitted → session.slots.get? other = some final := by
  refine ⟨owns.inStage_put ⟨false, .idle, content⟩ .submitted, ?_⟩
  intro other final found stage
  rcases SlotPool.get?_put_cases found with ⟨-, rfl⟩ | ⟨-, before⟩
  · cases stage
  · exact before

end Steps

variable [Allocator α]

/-- What the moments of a run say about the device and the submitted slots. -/
structure Tracks (moments : List (Moment SimulatedDevice α))
    (session : Session SimulatedDevice α) : Prop where
  space : session.board.device.registers.size = SimulatedDevice.registerSpace
  /-- In flight are the tasks of the submitted slots and those that a failing device kept. -/
  balanced : session.board.device.inFlight.length =
    session.slots.inStage .submitted + moments.countP Moment.loses
  /-- Completions leave the device in the order in which their tasks were started, one for every
  answered `wait`. -/
  queue : ∃ taken : List Completion, taken.length = moments.countP Moment.fetches ∧
    Moment.sent moments = taken ++ session.board.device.inFlight
  /-- The task of a submitted slot was started. -/
  started : ∀ index slot, session.slots.get? index = some slot → slot.stage = .submitted →
    ∃ task ∈ Moment.started moments, slot.content.task = some task.id

variable {moments : List (Moment SimulatedDevice α)} {session later : Session SimulatedDevice α}
  {task : Task}

/-- The task of a slot that was submitted before was started, whatever came after. -/
theorem Tracks.started_before (tracks : session.Tracks moments)
    (moment : Moment SimulatedDevice α) {index : Nat} {slot : Slot SlotContent}
    (found : session.slots.get? index = some slot) (stage : slot.stage = .submitted) :
    ∃ task ∈ Moment.started (moments ++ [moment]), slot.content.task = some task.id := by
  obtain ⟨task, member, serves⟩ := tracks.started index slot found stage
  rw [Moment.started_concat]
  exact ⟨task, List.mem_append_left _ member, serves⟩

/-- A moment that neither starts a task nor asks the device does not matter. -/
theorem Tracks.of_quiet {moment : Moment SimulatedDevice α} (tracks : session.Tracks moments)
    (starts : moment.starts? = none) (fetches : moment.fetches = false)
    (loses : moment.loses = false) (device : later.board.device = session.board.device)
    (submitted : later.slots.inStage .submitted = session.slots.inStage .submitted)
    (slots : ∀ index slot, later.slots.get? index = some slot → slot.stage = .submitted →
      session.slots.get? index = some slot) :
    later.Tracks (moments ++ [moment]) where
  space := device ▸ tracks.space
  balanced := by
    rw [device, submitted, Moment.countP_concat, loses]
    exact tracks.balanced
  queue := by
    obtain ⟨taken, length, queue⟩ := tracks.queue
    refine ⟨taken, ?_, ?_⟩
    · rw [Moment.countP_concat, fetches]
      exact length
    · rw [Moment.sent_concat, Moment.sends?, starts, device, queue]
      exact List.append_nil _
  started index slot found stage :=
    tracks.started_before moment (slots index slot found stage) stage

theorem Tracks.still {call : Call} (tracks : session.Tracks moments) (taskless : call.task? = none)
    (still : session.Still later) : later.Tracks (moments ++ [⟨.working session, call⟩]) := by
  obtain ⟨-, starts, -, -, fetches, loses⟩ := Moment.quiet (.working session) taskless
  exact tracks.of_quiet starts fetches loses still.device (by rw [still.slots])
    (fun _ _ found _ => still.slots ▸ found)

theorem Tracks.generates {outcome : Except Fault Task} (tracks : session.Tracks moments)
    (formed : session.Formed) (generates : Generates session task outcome later) :
    later.Tracks (moments ++ [⟨.working session, .generate task⟩]) :=
  tracks.of_quiet rfl rfl rfl generates.device (generates.submitted formed).1
    (generates.submitted formed).2

/-- A `start` that the device accepts submits a slot and puts a completion behind the others. -/
theorem Tracks.sends (tracks : session.Tracks moments) {index : Nat} {slot : Slot SlotContent}
    (owns : session.Owns task .built index slot)
    (starts : Moment.starts? ⟨.working session, .start task⟩ = some task)
    {device : SimulatedDevice} (sends : SimulatedDevice.Sends session.board.device device)
    (journal : Journal) :
    (session.redevice device index ⟨true, .submitted, slot.content⟩ journal).Tracks
      (moments ++ [⟨.working session, .start task⟩]) := by
  have sent : Moment.sends? ⟨.working session, .start task⟩ =
      some session.board.device.nextCompletion := by
    rw [Moment.sends?, starts]
    rfl
  refine ⟨sends.status.size.trans tracks.space, ?_, ?_, ?_⟩
  · have counted := owns.inStage_put ⟨true, .submitted, slot.content⟩ .submitted
    have balanced := tracks.balanced
    have quiet : (⟨.working session, .start task⟩ : Moment SimulatedDevice α).loses = false := rfl
    rw [redevice_device, redevice_slots, Moment.countP_concat, quiet, sends.inFlight,
      List.length_append, List.length_singleton]
    simp only [decide_true, Bool.toNat_true, decide_false, Bool.toNat_false, reduceCtorEq]
      at counted ⊢
    omega
  · obtain ⟨before, length, queue⟩ := tracks.queue
    refine ⟨before, ?_, ?_⟩
    · rw [List.countP_append]
      exact length
    · rw [redevice_device, Moment.sent_concat, sent, sends.inFlight, queue, List.append_assoc]
      rfl
  · intro other final found stage
    rcases SlotPool.get?_put_cases found with ⟨-, rfl⟩ | ⟨-, before⟩
    · rw [Moment.started_concat, starts]
      exact ⟨task, List.mem_append_right _ (List.mem_singleton_self _), owns.serves⟩
    · exact tracks.started_before _ before stage

theorem Tracks.starts {outcome : Except Fault Unit} (tracks : session.Tracks moments)
    (answered : Action.outcome (start task session) = outcome)
    (starts : Starts session task outcome later) :
    later.Tracks (moments ++ [⟨.working session, .start task⟩]) := by
  have what := Moment.starts?_start session task
  rw [answered] at what
  cases starts with
  | skipped flagged journal =>
      rw [flagged] at what
      exact tracks.of_quiet what rfl rfl rfl rfl fun _ _ found _ => found
  | refused unflagged misdirected kind =>
      exact tracks.of_quiet (by simpa [Except.isOk, Except.toBool] using what) rfl rfl rfl rfl
        fun _ _ found _ => found
  | @failed unflagged index slot owns fault device refused journal =>
      obtain ⟨_, taken, -⟩ := SimulatedDevice.transmit_run slot.content session.board.device
      cases taken.symm.trans refused
  | @started unflagged index slot owns device accepted journal =>
      obtain ⟨_, taken, sends⟩ := SimulatedDevice.transmit_run slot.content session.board.device
      cases taken.symm.trans accepted
      rw [unflagged] at what
      exact tracks.sends owns what sends journal

/-- Reports do not matter. -/
theorem Tracks.reported (tracks : session.Tracks moments) (report : Report) :
    (session.reported report).Tracks moments := by
  unfold Session.reported
  split
  · exact ⟨tracks.space, tracks.balanced, tracks.queue, tracks.started⟩
  · exact tracks

/-- A `wait` that the device fails gives a slot back and leaves the device as it is. -/
theorem Tracks.lost (tracks : session.Tracks moments) {index : Nat} {slot : Slot SlotContent}
    (owns : session.Owns task .submitted index slot)
    (fetches : Moment.fetches ⟨.working session, .wait task⟩ = false)
    (loses : Moment.loses ⟨.working session, .wait task⟩ = true) (content : SlotContent)
    (journal : Journal) :
    (session.redevice (session.board.device.record .poll) index ⟨false, .idle, content⟩
      journal).Tracks (moments ++ [⟨.working session, .wait task⟩]) := by
  obtain ⟨fewer, others⟩ := owns.idled content
  have balanced := tracks.balanced
  obtain ⟨taken, length, queue⟩ := tracks.queue
  refine ⟨tracks.space, ?_, ⟨taken, ?_, ?_⟩, fun other final found stage =>
    tracks.started_before _ (others other final found stage) stage⟩
  · have same : (session.board.device.record .poll).inFlight = session.board.device.inFlight := rfl
    rw [redevice_device, redevice_slots, Moment.countP_concat, loses, Bool.toNat_true, same]
    omega
  · rw [Moment.countP_concat, fetches]
    exact length
  · rw [Moment.sent_concat, queue]
    exact List.append_nil _

/-- A `wait` that the device answers gives a slot back and takes the oldest completion out of the
device. -/
theorem Tracks.finished (tracks : session.Tracks moments) {index : Nat} {slot : Slot SlotContent}
    (owns : session.Owns task .submitted index slot)
    (fetches : Moment.fetches ⟨.working session, .wait task⟩ = true)
    (loses : Moment.loses ⟨.working session, .wait task⟩ = false) {completion : Completion}
    {device : SimulatedDevice}
    (collects : SimulatedDevice.Collects completion session.board.device device)
    (content : SlotContent) (journal : Journal) :
    (session.redevice device index ⟨false, .idle, content⟩ journal).Tracks
      (moments ++ [⟨.working session, .wait task⟩]) := by
  obtain ⟨fewer, others⟩ := owns.idled content
  have balanced := tracks.balanced
  obtain ⟨taken, length, queue⟩ := tracks.queue
  refine ⟨?_, ?_, ⟨taken ++ [completion], ?_, ?_⟩, fun other final found stage =>
    tracks.started_before _ (others other final found stage) stage⟩
  · rw [redevice_device, collects.registers, Completion.size_apply, tracks.space]
  · rw [collects.waiting, List.length_cons] at balanced
    rw [redevice_device, redevice_slots, Moment.countP_concat, loses, Bool.toNat_false]
    omega
  · rw [List.length_append, length, Moment.countP_concat, fetches]
    rfl
  · rw [redevice_device, Moment.sent_concat, queue, collects.waiting, List.append_assoc,
      List.append_assoc]
    exact congrArg (taken ++ completion :: ·) (List.append_nil _)

theorem Tracks.waits {outcome : Except Fault Unit} (tracks : session.Tracks moments)
    (formed : session.Formed) (answered : Action.outcome (wait task session) = outcome)
    (waits : Waits session task outcome later) :
    later.Tracks (moments ++ [⟨.working session, .wait task⟩]) := by
  have fetches := Moment.fetches_wait session task
  rw [answered] at fetches
  cases waits with
  | skipped flagged =>
      rw [flagged] at fetches
      exact (tracks.of_quiet rfl fetches (Moment.loses_of_answered answered) rfl rfl
        fun _ _ found _ => found).reported _
  | refused unflagged misdirected kind =>
      have loses := Moment.loses_of_refused answered
      rw [kind] at loses
      exact tracks.of_quiet rfl (fetches.trans (Bool.and_false _)) loses rfl rfl
        fun _ _ found _ => found
  | lost unflagged owns silent journal =>
      obtain ⟨-, kind, rfl⟩ :=
        SimulatedDevice.collect_eq_error (formed.slots _ _ owns.found).file silent
      have loses := Moment.loses_of_refused answered
      rw [kind] at loses
      exact (tracks.lost owns (fetches.trans (Bool.and_false _)) loses _ journal).reported _
  | finished unflagged owns collected stored journal =>
      obtain ⟨completion, collects, -⟩ :=
        SimulatedDevice.collect_eq_ok (formed.slots _ _ owns.found).file collected
      rw [unflagged] at fetches
      exact (tracks.finished owns fetches (Moment.loses_of_answered answered) collects _
        journal).reported _

theorem Tracks.outside {board : Board SimulatedDevice α} (tracks : session.Tracks moments)
    (aside : session.board.Aside board) : (session.withBoard board).Tracks moments where
  space := aside.space.trans tracks.space
  balanced := (congrArg List.length aside.inFlight).trans tracks.balanced
  queue := by
    obtain ⟨taken, length, queue⟩ := tracks.queue
    exact ⟨taken, length, queue.trans (congrArg (taken ++ ·) aside.inFlight.symm)⟩
  started := tracks.started

/-- An opened session on an unused board has nothing to keep track of. -/
theorem Tracks.opened {config : Config} {reporting : Bool} {scratch : Buffer}
    {board : Board SimulatedDevice α}
    (space : board.device.registers.size = SimulatedDevice.registerSpace)
    (inFlight : board.device.inFlight = []) :
    (Session.opened config reporting scratch board).Tracks [] where
  space := space
  balanced := by
    show board.device.inFlight.length = SlotPool.inStage (.ofDepth ..) _ + 0
    rw [inFlight, SlotPool.inStage_ofDepth (by decide)]
    rfl
  queue := ⟨[], rfl, inFlight.symm⟩
  started index slot found stage := by
    have some := SlotPool.inStage_pos found
    rw [stage] at some
    have none : (Session.opened config reporting scratch board).slots.inStage .submitted = 0 :=
      SlotPool.inStage_ofDepth (by decide) ..
    omega

end Session

section Runs

variable [Allocator α] {config : Config} {reporting : Bool} {board : Board SimulatedDevice α}
  {capability : Capability} {first : Session SimulatedDevice α}
  {moments : List (Moment SimulatedDevice α)} {decoder : Decoder SimulatedDevice α}

/-- Whatever is called since a decoder was initialised on an unused board, the moments of the run
account for the device and the submitted slots. -/
theorem Run.tracks
    (opens : Decoder.initialise config reporting (.idle board) = .ok capability (.working first))
    (unused : board.Unused) (run : Run Board.Aside (.working first) moments decoder)
    (continues : ∀ moment ∈ moments, moment.call.Continues) :
    ∃ session, decoder = .working session ∧ session.Formed ∧ session.Tracks moments := by
  obtain ⟨valid, scratch, left, rfl, device, -⟩ := Decoder.initialise_eq_ok opens
  exact run.history
    (fun formed tracks _ generates => tracks.generates formed generates)
    (fun _ tracks answered starts => tracks.starts answered starts)
    (fun formed tracks answered waits => tracks.waits formed answered waits)
    (fun tracks taskless still => tracks.still taskless still)
    (fun tracks aside => tracks.outside aside)
    (.opened valid reporting scratch left)
    (.opened (device ▸ unused.space) (device ▸ unused.inFlight)) continues

/-- A task in flight is in flight for the device as well. -/
theorem Session.Tracks.waiting {session : Session SimulatedDevice α}
    (tracks : session.Tracks moments) {task : Task} {index : Nat} {slot : Slot SlotContent}
    (owns : session.Owns task .submitted index slot) :
    ∃ completion later, session.board.device.inFlight = completion :: later := by
  have some := SlotPool.inStage_pos owns.found
  rw [owns.stage] at some
  have balanced := tracks.balanced
  cases waiting : session.board.device.inFlight with
  | nil =>
      rw [waiting, List.length_nil] at balanced
      omega
  | cons completion later => exact ⟨completion, later, rfl⟩

/-- The device has as many tasks in flight as there are submitted slots. -/
def Session.InStep (session : Session SimulatedDevice α) : Prop :=
  session.board.device.inFlight.length = session.slots.inStage .submitted

/-- Whatever is called since a decoder was initialised on an unused board, and whenever the device
refuses its polls, the device has one task in flight for every submitted slot and one for every
`wait` so far that failed with the device. Such a `wait` fails because the device was told to refuse,
takes no completion out of it, and frees the slot of its own task and no other. So device and slots
are in step as long as no `wait` has failed with the device. -/
theorem Run.in_flight_accounted
    (opens : Decoder.initialise config reporting (.idle board) = .ok capability (.working first))
    (unused : board.Unused) (run : Run Board.Aside (.working first) moments decoder)
    (continues : ∀ moment ∈ moments, moment.call.Continues) :
    ∃ session, decoder = .working session ∧
      session.board.device.inFlight.length =
        session.slots.inStage .submitted + moments.countP Moment.loses ∧
      (session.InStep ↔ ∀ moment ∈ moments, moment.loses = false) ∧
      ∀ task fault later, Session.wait task session = .error fault later → fault.kind = .deviceIo →
        session.board.device.failPolls = true ∧
        later.board.device.inFlight = session.board.device.inFlight ∧
        ∃ index slot freed, session.Owns task .submitted index slot ∧
          later.slots.get? index = some freed ∧ freed.taken = false ∧ freed.stage = .idle ∧
          ∀ other, other ≠ index → later.slots.get? other = session.slots.get? other := by
  obtain ⟨session, rfl, formed, tracks⟩ := run.tracks opens unused continues
  refine ⟨session, rfl, tracks.balanced, ?_, ?_⟩
  · rw [Session.InStep, tracks.balanced, Nat.add_eq_left, List.countP_eq_zero]
    simp only [Bool.not_eq_true]
  · intro task fault later waited kind
    have ended := Session.wait_spec session task
    rw [waited, Action.outcome_error, Action.after_error] at ended
    cases ended with
    | refused unflagged misdirected invalid => cases kind.symm.trans invalid
    | @lost unflagged index slot owns fault device silent journal =>
        obtain ⟨reason, -, rfl⟩ :=
          SimulatedDevice.collect_eq_error (formed.slots _ _ owns.found).file silent
        obtain ⟨completion, later, waiting⟩ := tracks.waiting owns
        rw [Session.reported_eq]
        refine ⟨reason.resolve_right (by rw [waiting]; nofun), rfl, index, slot, _, owns,
          SlotPool.get?_put_self owns.found _, rfl, rfl, fun other ne => ?_⟩
        exact SlotPool.get?_put_of_ne _ ne.symm _

end Runs

/-! ### A device that fails a poll -/

/-- The session, its device told to refuse its polls or to answer them. -/
def Session.polling (session : Session SimulatedDevice α) (failPolls : Bool) :
    Session SimulatedDevice α :=
  session.withBoard
    { session.board with device := { session.board.device with failPolls } }

theorem Board.Unused.scripted (early late : Completion) : (Board.scripted early late).Unused :=
  ⟨Array.size_replicate, rfl, rfl⟩

section Trial

variable {early late : Completion} {opened one two three started : Session SimulatedDevice Arena}

theorem Session.unfailing_twoCalls :
    ∀ moment ∈ twoCalls opened one two three, moment.loses = false := by
  intro moment member
  simp only [twoCalls, List.mem_cons, List.not_mem_nil, or_false] at member
  rcases member with rfl | rfl | rfl | rfl <;> rfl

/-- The accounts of two pictures that were started. -/
theorem Session.TwoStarted.accounts (both : TwoStarted early late opened one two three started) :
    Moment.started (twoCalls opened one two three) =
      [(Task.ofSize 0 64 64).placed 0, (Task.ofSize 1 64 64).placed 1] ∧
    Moment.sent (twoCalls opened one two three) = [early, late] := by
  have third : Moment.starts? ⟨.working two, .start ((Task.ofSize 0 64 64).placed 0)⟩ =
      some ((Task.ofSize 0 64 64).placed 0) := by
    rw [Moment.starts?_start, both.third]
    rfl
  have fourth : Moment.starts? ⟨.working three, .start ((Task.ofSize 1 64 64).placed 1)⟩ =
      some ((Task.ofSize 1 64 64).placed 1) := by
    rw [Moment.starts?_start, both.fourth]
    rfl
  have first : ∀ session : Session SimulatedDevice Arena, ∀ task,
      Moment.starts? ⟨.working session, .generate task⟩ = none := fun _ _ => rfl
  refine ⟨?_, ?_⟩
  · simp only [Moment.started, twoCalls, List.filterMap_cons, first, third, fourth,
      List.filterMap_nil]
  · simp only [Moment.sent, twoCalls, List.filterMap_cons, Moment.sends?, first, third, fourth,
      Option.map_none, Option.map_some, List.filterMap_nil, Decoder.board, both.next.1,
      both.next.2]

/-- The moments up to a `wait` for the first of two pictures that the device refuses. -/
def Session.lostCalls (opened one two three started : Session SimulatedDevice Arena) :
    List (Moment SimulatedDevice Arena) :=
  twoCalls opened one two three ++
    [⟨.working (started.polling true), .wait ((Task.ofSize 0 64 64).placed 0)⟩]

theorem Session.continues_lostCalls :
    ∀ moment ∈ lostCalls opened one two three started, moment.call.Continues :=
  List.forall_mem_append.mpr ⟨continues_twoCalls, List.forall_mem_singleton.mpr trivial⟩

/-- When the device fails the `wait` for the first of two pictures, it keeps both in flight. -/
theorem Session.TwoStarted.lost (both : TwoStarted early late opened one two three started) :
    ∃ lost, Run Board.Aside (.working opened) (lostCalls opened one two three started)
        (.working lost) ∧
      wait ((Task.ofSize 0 64 64).placed 0) (started.polling true) = .error .pollRefused lost ∧
      (lostCalls opened one two three started).countP Moment.loses = 1 ∧
      lost.reporting = true ∧ lost.board.device.inFlight = [early, late] ∧
      lost.slots.inStage .submitted = 1 ∧
      ∃ slot, lost.Owns ((Task.ofSize 1 64 64).placed 1) .submitted 1 slot := by
  obtain ⟨slot₀, owns₀⟩ := both.owns 0 (by decide)
  obtain ⟨slot₁, owns₁⟩ := both.owns 1 (by decide)
  have owns : (started.polling true).Owns ((Task.ofSize 0 64 64).placed 0) .submitted 0 slot₀ :=
    ⟨owns₀.names, owns₀.found, owns₀.taken, owns₀.serves, owns₀.stage⟩
  obtain ⟨journal, waited⟩ :=
    wait_of_silent rfl owns (SimulatedDevice.collect_of_refusing rfl slot₀.content.file)
  generalize same : Session.reported _ _ = lost at waited
  rw [reported_eq] at same
  have inFlight : lost.board.device.inFlight = [early, late] := same ▸ both.inFlight
  have run : Run Board.Aside (.working opened) (lostCalls opened one two three started)
      (.working lost) := by
    have told : Run Board.Aside (.working opened) _ (.working (started.polling true)) :=
      (both.run Board.Aside).outside ⟨rfl, rfl, rfl⟩
    have last := told.call (.wait ((Task.ofSize 0 64 64).placed 0))
    rwa [Call.next_wait, waited, Action.after_error] at last
  have loses : (lostCalls opened one two three started).countP Moment.loses = 1 := by
    rw [lostCalls, Moment.countP_concat,
      Moment.loses_of_refused (by rw [waited, Action.outcome_error])]
    rfl
  obtain ⟨_, here, -, tracks⟩ := run.tracks both.initialised (.scripted early late)
    continues_lostCalls
  cases here
  have balanced := tracks.balanced
  rw [inFlight, loses] at balanced
  refine ⟨lost, run, waited, loses, same ▸ both.reporting, inFlight,
    (Nat.add_right_cancel balanced).symm, slot₁, ?_⟩
  rw [← same]
  exact ⟨owns₁.names, (SlotPool.get?_put_of_ne _ (by decide) _).trans owns₁.found, owns₁.taken,
    owns₁.serves, owns₁.stage⟩

/-- With two pictures in flight and the first of them lost, the device is out of step by one. -/
theorem one_of_two_lost : ∃ opened lost : Session SimulatedDevice Arena, ∃ moments,
    Decoder.initialise {} true (.idle (Board.scripted .done .done)) =
      .ok (Decoder.capability {}) (.working opened) ∧
    Run Board.Aside (.working opened) moments (.working lost) ∧
    lost.board.device.inFlight.length = lost.slots.inStage .submitted + 1 ∧ ¬ lost.InStep := by
  obtain ⟨opened, one, two, three, started, both⟩ := Session.two_started .done .done
  obtain ⟨lost, run, waited, loses, -⟩ := both.lost
  obtain ⟨_, same, counted, inStep, -⟩ := run.in_flight_accounted both.initialised
    (.scripted .done .done) Session.continues_lostCalls
  cases same
  rw [loses] at counted
  refine ⟨opened, lost, _, both.initialised, run, counted, fun step => ?_⟩
  have answered := inStep.mp step _ (List.mem_append_right _ (List.mem_singleton_self _))
  rw [Moment.loses_of_refused (by rw [waited, Action.outcome_error])] at answered
  cases answered

/-- Device and slots can be out of step, and then a task is reported with the status of an earlier
one: the device fails the `wait` for the first of two pictures, and the `wait` for the second, which
ended well, answers that the watchdog ended it. -/
theorem second_reported_as_first : ∃ opened lost final : Session SimulatedDevice Arena,
    ∃ moments report,
    Decoder.initialise {} true
        (.idle (Board.scripted Ending.timedOut.completion Ending.done.completion)) =
      .ok (Decoder.capability {}) (.working opened) ∧
    Run Board.Aside (.working opened) moments (.working lost) ∧
    moments.map (·.call) = [.generate (.ofSize 0 64 64), .generate (.ofSize 1 64 64),
      .start ((Task.ofSize 0 64 64).placed 0), .start ((Task.ofSize 1 64 64).placed 1),
      .wait ((Task.ofSize 0 64 64).placed 0)] ∧
    ¬ lost.InStep ∧
    Session.wait ((Task.ofSize 1 64 64).placed 1) (lost.polling false) = .ok () final ∧
    final.board.reports = lost.board.reports.push report ∧
    report.task = 1 ∧ report.Tells Ending.timedOut ∧ ¬ report.Tells Ending.done := by
  obtain ⟨opened, one, two, three, started, both⟩ :=
    Session.two_started Ending.timedOut.completion Ending.done.completion
  obtain ⟨lost, run, waited, -, reporting, inFlight, submitted, slot, owns⟩ := both.lost
  obtain ⟨_, same, formed, tracks⟩ := run.tracks both.initialised (.scripted ..)
    Session.continues_lostCalls
  cases same
  have space : lost.board.device.registers.size = SimulatedDevice.registerSpace := tracks.space
  obtain ⟨device, journal, -, answered⟩ := @Session.wait_of_waiting _ (lost.polling false)
    (formed.of_same rfl rfl rfl rfl) rfl ((Task.ofSize 1 64 64).placed 1) rfl 1 slot
    ⟨owns.names, owns.found, owns.taken, owns.serves, owns.stage⟩ _ _ inFlight _ rfl
  have told := Ending.timedOut.tells_of_readBack space (formed.slots _ _ owns.found).file
    ((Task.ofSize 1 64 64).placed 1) rfl
  refine ⟨opened, lost, _, _, _, both.initialised, run, rfl, ?_, answered,
    Session.reports_reported _ (by exact reporting) _, rfl, told, fun tells => ?_⟩
  · unfold Session.InStep
    rw [inFlight, submitted]
    decide
  · have same := told.status.symm.trans tells.status
    revert same
    decide

end Trial

end VideoAccel
