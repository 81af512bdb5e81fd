import VideoAccel.Proofs.Pipeline.Progress

/-!
Several tasks at once.

A caller with a list of tasks makes three calls for each of them. `Decoder.play` makes such calls,
turn by turn, and stops at the first one that is refused. A `Schedule` makes all of them: each kind
of call in the order of the tasks, and the three calls of a task one after the other; how the calls
of different tasks are interleaved is left open. On a board that refuses nothing every schedule that
does not ask for more slots than there are is answered to its end (`Decoder.play_of_serving`).
-/

namespace VideoAccel

/-- The three calls of a task's life. -/
inductive Phase where
  | generate
  | start
  | wait
deriving DecidableEq, Repr

/-- A call for the task that has the given place in a list. -/
structure Turn where
  phase : Phase
  task : Nat
deriving DecidableEq, Repr

/-- The turns that are left when the first `built` tasks of a list have their registers, the first
`started` were started and the first `waited` were waited for. -/
inductive Schedule (count : Nat) : Nat → Nat → Nat → List Turn → Prop where
  | done : Schedule count count count count []
  | generate {built started waited : Nat} {later : List Turn} (left : built < count)
      (rest : Schedule count (built + 1) started waited later) :
      Schedule count built started waited (⟨.generate, built⟩ :: later)
  | start {built started waited : Nat} {later : List Turn} (ready : started < built)
      (rest : Schedule count built (started + 1) waited later) :
      Schedule count built started waited (⟨.start, started⟩ :: later)
  | wait {built started waited : Nat} {later : List Turn} (ready : waited < started)
      (rest : Schedule count built started (waited + 1) later) :
      Schedule count built started waited (⟨.wait, waited⟩ :: later)

/-- There are no registers for tasks beyond the last. -/
theorem Schedule.built_le {count built started waited : Nat} {turns : List Turn}
    (schedule : Schedule count built started waited turns) : built ≤ count := by
  induction schedule with
  | done => exact Nat.le_refl count
  | generate left rest ih => exact Nat.le_of_lt left
  | start ready rest ih => exact ih
  | wait ready rest ih => exact ih

namespace Decoder

variable {δ α : Type} [Device δ] [Allocator α]

/-- Takes a turn. Answers with the tasks as the caller has them afterwards: generating says which
slot a task has. -/
def take (turn : Turn) (tasks : List Task) : Action (Decoder δ α) (List Task) :=
  match tasks[turn.task]? with
  | none => pure tasks
  | some task =>
      match turn.phase with
      | .generate => do
          let owned ← generate task
          return tasks.set turn.task owned
      | .start => do
          start task
          return tasks
      | .wait => do
          wait task
          return tasks

/-- Takes one turn after the other. -/
def play : List Turn → List Task → Action (Decoder δ α) (List Task)
  | [], tasks => pure tasks
  | turn :: later, tasks => do
      let tasks ← take turn tasks
      play later tasks

variable {session : Session δ α} {tasks owned : List Task} {task : Task} {index : Nat}
  {decoder : Decoder δ α}

/-! ### What a turn comes to -/

theorem take_generate (found : tasks[index]? = some task)
    (ran : take ⟨.generate, index⟩ tasks (working session) = .ok owned decoder) :
    ∃ mine later, Session.Generates session task (.ok mine) later ∧ decoder = working later ∧
      owned = tasks.set index mine := by
  simp only [take, found] at ran
  obtain ⟨mine, middle, generated, ran⟩ := Action.bind_eq_ok_iff.mp ran
  obtain ⟨later, did, rfl⟩ := inSession_eq_ok generated
  cases ran
  have ended := Session.generate_spec session task
  rw [did] at ended
  exact ⟨mine, later, ended, rfl, rfl⟩

theorem take_start (found : tasks[index]? = some task)
    (ran : take ⟨.start, index⟩ tasks (working session) = .ok owned decoder) :
    ∃ later, Session.Starts session task (.ok ()) later ∧ decoder = working later ∧
      owned = tasks := by
  simp only [take, found] at ran
  obtain ⟨done, middle, started, ran⟩ := Action.bind_eq_ok_iff.mp ran
  obtain ⟨later, did, rfl⟩ := inSession_eq_ok started
  cases ran
  have ended := Session.start_spec session task
  rw [did] at ended
  exact ⟨later, ended, rfl, rfl⟩

theorem take_wait (found : tasks[index]? = some task)
    (ran : take ⟨.wait, index⟩ tasks (working session) = .ok owned decoder) :
    ∃ later, Session.Waits session task (.ok ()) later ∧ decoder = working later ∧
      owned = tasks := by
  simp only [take, found] at ran
  obtain ⟨done, middle, waited, ran⟩ := Action.bind_eq_ok_iff.mp ran
  obtain ⟨later, did, rfl⟩ := inSession_eq_ok waited
  cases ran
  have ended := Session.wait_spec session task
  rw [did] at ended
  exact ⟨later, ended, rfl, rfl⟩

theorem take_generate_of_ok {mine : Task} {later : Session δ α} (found : tasks[index]? = some task)
    (ran : Session.generate task session = .ok mine later) :
    take ⟨.generate, index⟩ tasks (working session) = .ok (tasks.set index mine) (working later) := by
  have did : generate task (working session) = .ok mine (working later) := by
    rw [generate, inSession_working, ran]
  simp only [take, found]
  exact Action.bind_of_ok did _

theorem take_start_of_ok {later : Session δ α} (found : tasks[index]? = some task)
    (ran : Session.start task session = .ok () later) :
    take ⟨.start, index⟩ tasks (working session) = .ok tasks (working later) := by
  have did : start task (working session) = .ok () (working later) := by
    rw [start, inSession_working, ran]
  simp only [take, found]
  exact Action.bind_of_ok did _

theorem take_wait_of_ok {later : Session δ α} (found : tasks[index]? = some task)
    (ran : Session.wait task session = .ok () later) :
    take ⟨.wait, index⟩ tasks (working session) = .ok tasks (working later) := by
  have did : wait task (working session) = .ok () (working later) := by
    rw [wait, inSession_working, ran]
  simp only [take, found]
  exact Action.bind_of_ok did _

end Decoder

/-! ### Schedules that are answered -/

/-- The turns never ask for more than `slots` slots at a time if `busy` are in use before. -/
def Turn.fit (slots : Nat) : Nat → List Turn → Bool
  | _, [] => true
  | busy, ⟨.generate, _⟩ :: later => decide (busy < slots) && fit slots (busy + 1) later
  | busy, ⟨.start, _⟩ :: later => fit slots busy later
  | busy, ⟨.wait, _⟩ :: later => fit slots (busy - 1) later

/-- Among tasks with different numbers those of the same number have the same place. -/
theorem Task.index_unique {tasks : List Task} (distinct : (tasks.map (·.id)).Nodup)
    {first second : Nat} {one other : Task} (found : tasks[first]? = some one)
    (also : tasks[second]? = some other) (same : one.id = other.id) : first = second := by
  have inside : first < (tasks.map (·.id)).length := by
    rw [List.length_map]
    exact (List.getElem?_eq_some_iff.mp found).1
  apply (List.getElem?_inj inside distinct).mp
  rw [List.getElem?_map, List.getElem?_map, found, also, Option.map_some, Option.map_some, same]

namespace Session

/-- The session serves tasks without error flags. The first `built` have their registers, the first
`started` were submitted, and those that were waited for hold no slot any more. -/
structure Serving (session : Session SimulatedDevice Arena) (tasks : List Task)
    (built started waited : Nat) : Prop where
  able : session.Able
  clear : ∀ task ∈ tasks, task.flags.hasError = false
  low : ∀ task ∈ tasks, ∀ buffer ∈ LineBuffer.place (session.shapeOf task.coded.picture)
    (LineBufferClass.all.zip Layout.lineBufferRegisters), buffer.offset < Numeral.bound32
  distinct : (tasks.map (·.id)).Nodup
  order : waited ≤ started ∧ started ≤ built
  ahead : ∀ (index : Nat) (task : Task), built ≤ index → tasks[index]? = some task →
    task.slot = none
  pending : ∀ (index : Nat) (task : Task), waited ≤ index → index < built →
    tasks[index]? = some task → ∃ place slot,
      session.Owns task (if index < started then .submitted else .built) place slot
  busy : session.slots.inUse + waited = built
  sent : started ≤ session.board.device.inFlight.length + waited

variable {session : Session SimulatedDevice Arena} {tasks : List Task} {task : Task}
  {built started waited : Nat}

/-- Tasks of different places are served in different slots. -/
theorem Serving.apart (serving : session.Serving tasks built started waited) {index other : Nat}
    {mine : Task} {stage kind : Stage} {place own : Nat} {slot held : Slot SlotContent}
    (found : tasks[index]? = some task) (also : tasks[other]? = some mine) (ne : index ≠ other)
    (owns : session.Owns task stage place slot) (theirs : session.Owns mine kind own held) :
    place ≠ own := by
  apply owns.ne theirs.found theirs.serves
  intro same
  exact ne (Task.index_unique serving.distinct found also same)

theorem Serving.generate (serving : session.Serving tasks built started waited)
    (found : tasks[built]? = some task) (room : session.slots.inUse < session.slots.capacity) :
    ∃ mine later, Session.generate task session = .ok mine later ∧
      later.Serving (tasks.set built mine) (built + 1) started waited ∧
      later.slots.capacity = session.slots.capacity := by
  have member := List.mem_of_getElem? found
  have unplaced := serving.ahead built task (Nat.le_refl _) found
  rcases session.slots.acquire_cases with ⟨place, slot, first, -⟩ | ⟨busy, -⟩
  · obtain ⟨supply, scratch, content, journal, prepares, ran, able⟩ :=
      generate_of_able serving.able (serving.clear task member)
        (fun index names => by cases unplaced.symm.trans names) first (serving.low task member)
    let mine : Task := { task with slot := some place }
    have inside : built < tasks.length := (List.getElem?_eq_some_iff.mp found).1
    have here : (tasks.set built mine)[built]? = some mine := List.getElem?_set_self inside
    have elsewhere : ∀ index, index ≠ built → (tasks.set built mine)[index]? = tasks[index]? :=
      fun index other => List.getElem?_set_ne (Ne.symm other)
    have numbers : (tasks.set built mine).map (·.id) = tasks.map (·.id) := by
      apply List.ext_getElem?
      intro index
      rw [List.getElem?_map, List.getElem?_map]
      by_cases same : index = built
      · subst same
        rw [here, found]
        rfl
      · rw [elsewhere index same]
    refine ⟨mine, _, ran, ⟨able, ?_, ?_, numbers ▸ serving.distinct, ⟨serving.order.1,
      Nat.le_succ_of_le serving.order.2⟩, ?_, ?_, ?_, serving.sent⟩, SlotPool.capacity_put ..⟩
    · intro other among
      rcases List.mem_or_eq_of_mem_set among with old | rfl
      · exact serving.clear other old
      · exact serving.clear task member
    · intro other among
      rcases List.mem_or_eq_of_mem_set among with old | rfl
      · exact serving.low other old
      · exact serving.low task member
    · intro index other beyond there
      rw [elsewhere index (by omega)] at there
      exact serving.ahead index other (by omega) there
    · intro index other low high there
      by_cases same : index = built
      · subst same
        cases here.symm.trans there
        rw [if_neg (Nat.not_lt.mpr serving.order.2)]
        exact ⟨place, _, rfl, SlotPool.get?_put_self first.found _, rfl, prepares.serves, rfl⟩
      · rw [elsewhere index same] at there
        obtain ⟨own, held, owns⟩ := serving.pending index other low (by omega) there
        have ne : place ≠ own := by
          rintro rfl
          cases first.found.symm.trans owns.found
          cases first.free.symm.trans owns.taken
        exact ⟨own, held, owns.of_put rfl ne⟩
    · have counted := SlotPool.inUse_put first.found ⟨true, .built, content⟩
      have busy := serving.busy
      rw [first.free] at counted
      show (session.slots.put place _).inUse + waited = built + 1
      simp only [Bool.toNat_true, Bool.toNat_false] at counted
      omega
  · have full := SlotPool.inUse_of_busy busy
    omega

theorem Serving.start (serving : session.Serving tasks built started waited)
    (found : tasks[started]? = some task) (ready : started < built) :
    ∃ later, Session.start task session = .ok () later ∧
      later.Serving tasks built (started + 1) waited ∧
      later.slots.capacity = session.slots.capacity := by
  have clear := serving.clear task (List.mem_of_getElem? found)
  obtain ⟨place, slot, owns⟩ := serving.pending started task serving.order.1 ready found
  rw [if_neg (Nat.lt_irrefl started)] at owns
  obtain ⟨device, journal, sends, ran, able⟩ := start_of_able serving.able clear owns
  refine ⟨_, ran, ⟨able, serving.clear, serving.low, serving.distinct,
    ⟨Nat.le_succ_of_le serving.order.1, ready⟩, serving.ahead, ?_, ?_, ?_⟩,
    SlotPool.capacity_put ..⟩
  · intro index other low high there
    by_cases same : index = started
    · subst same
      cases found.symm.trans there
      rw [if_pos (Nat.lt_succ_self index)]
      exact ⟨place, _, owns.names, SlotPool.get?_put_self owns.found _, rfl, owns.serves, rfl⟩
    · obtain ⟨own, held, theirs⟩ := serving.pending index other low high there
      have ne := serving.apart found there (Ne.symm same) owns theirs
      have stage : (if index < started + 1 then Stage.submitted else .built) =
          if index < started then .submitted else .built := by
        by_cases before : index < started
        · rw [if_pos before, if_pos (by omega)]
        · rw [if_neg before, if_neg (by omega)]
      rw [stage]
      exact ⟨own, held, theirs.of_put rfl ne⟩
  · have counted := SlotPool.inUse_put owns.found ⟨true, .submitted, slot.content⟩
    have busy := serving.busy
    rw [owns.taken] at counted
    simp only [Bool.toNat_true] at counted
    show (session.slots.put place _).inUse + waited = built
    omega
  · have sent := serving.sent
    show started + 1 ≤ device.inFlight.length + waited
    rw [sends.inFlight, List.length_append, List.length_singleton]
    omega

theorem Serving.wait (serving : session.Serving tasks built started waited)
    (found : tasks[waited]? = some task) (ready : waited < started) :
    ∃ later, Session.wait task session = .ok () later ∧
      later.Serving tasks built started (waited + 1) ∧
      later.slots.capacity = session.slots.capacity := by
  have clear := serving.clear task (List.mem_of_getElem? found)
  obtain ⟨place, slot, owns⟩ := serving.pending waited task (Nat.le_refl _)
    (Nat.lt_of_lt_of_le ready serving.order.2) found
  rw [if_pos ready] at owns
  have sent := serving.sent
  cases waiting : session.board.device.inFlight with
  | nil =>
      rw [waiting, List.length_nil] at sent
      omega
  | cons completion rest =>
      obtain ⟨device, file, journal, collects, ran, able⟩ :=
        wait_of_able serving.able clear owns waiting
      rw [reported_eq] at able ran
      refine ⟨_, ran, ⟨able, serving.clear, serving.low, serving.distinct,
        ⟨ready, serving.order.2⟩, serving.ahead, ?_, ?_, ?_⟩, SlotPool.capacity_put ..⟩
      · intro index other low high there
        obtain ⟨own, held, theirs⟩ := serving.pending index other (by omega) high there
        have ne := serving.apart found there (by omega) owns theirs
        exact ⟨own, held, theirs.of_put rfl ne⟩
      · have counted := SlotPool.inUse_put owns.found
          ⟨false, .idle, slot.content.withFile (Layout.status.set 0 file)⟩
        have busy := serving.busy
        rw [owns.taken] at counted
        simp only [Bool.toNat_true, Bool.toNat_false] at counted
        show (session.slots.put place _).inUse + (waited + 1) = built
        omega
      · have one := congrArg List.length collects.waiting
        rw [List.length_cons] at one
        show started ≤ device.inFlight.length + (waited + 1)
        omega

end Session

/-- A schedule that keeps to the slots there are is answered to its end. -/
theorem Decoder.play_of_serving {count built started waited : Nat} {turns : List Turn}
    (schedule : Schedule count built started waited turns) {tasks : List Task}
    (length : tasks.length = count) {session : Session SimulatedDevice Arena}
    (serving : session.Serving tasks built started waited)
    (fit : Turn.fit session.slots.capacity (built - waited) turns = true) :
    ∃ owned final, play turns tasks (working session) = .ok owned final := by
  induction schedule generalizing session tasks with
  | done => exact ⟨tasks, _, rfl⟩
  | @generate built started waited turns left rest ih =>
      subst length
      have found := List.getElem?_eq_getElem left
      simp only [Turn.fit, Bool.and_eq_true, decide_eq_true_eq] at fit
      have busy := serving.busy
      obtain ⟨mine, later, ran, serves, capacity⟩ := serving.generate found (by omega)
      have more : built - waited + 1 = built + 1 - waited := by omega
      rw [more, ← capacity] at fit
      obtain ⟨owned, final, played⟩ := ih List.length_set serves fit.2
      exact ⟨owned, final, (Action.bind_of_ok (take_generate_of_ok found ran) _).trans played⟩
  | @start built started waited turns ready rest ih =>
      subst length
      have found := List.getElem?_eq_getElem (Nat.lt_of_lt_of_le ready rest.built_le)
      obtain ⟨later, ran, serves, capacity⟩ := serving.start found ready
      rw [Turn.fit, ← capacity] at fit
      obtain ⟨owned, final, played⟩ := ih rfl serves fit
      exact ⟨owned, final, (Action.bind_of_ok (take_start_of_ok found ran) _).trans played⟩
  | @wait built started waited turns ready rest ih =>
      subst length
      have done := Nat.lt_of_lt_of_le ready serving.order.2
      have found := List.getElem?_eq_getElem (Nat.lt_of_lt_of_le done rest.built_le)
      obtain ⟨later, ran, serves, capacity⟩ := serving.wait found ready
      have less : built - waited - 1 = built - (waited + 1) := by omega
      rw [Turn.fit, less, ← capacity] at fit
      obtain ⟨owned, final, played⟩ := ih rfl serves fit
      exact ⟨owned, final, (Action.bind_of_ok (take_wait_of_ok found ran) _).trans played⟩

/-- A session that was just opened and refuses nothing can take any tasks without error flags that
were given no slot, as long as a patch can say where their line buffers lie. -/
theorem Session.Able.serving {session : Session SimulatedDevice Arena} (able : session.Able)
    (unused : session.slots.inUse = 0) {tasks : List Task}
    (clear : ∀ task ∈ tasks, task.flags.hasError = false)
    (unplaced : ∀ task ∈ tasks, task.slot = none) (distinct : (tasks.map (·.id)).Nodup)
    (low : ∀ task ∈ tasks, ∀ buffer ∈ LineBuffer.place (session.shapeOf task.coded.picture)
      (LineBufferClass.all.zip Layout.lineBufferRegisters), buffer.offset < Numeral.bound32) :
    session.Serving tasks 0 0 0 where
  able := able
  clear := clear
  low := low
  distinct := distinct
  order := ⟨Nat.le_refl 0, Nat.le_refl 0⟩
  ahead _ task _ found := unplaced task (List.mem_of_getElem? found)
  pending index _ _ high := absurd high (Nat.not_lt_zero index)
  busy := unused
  sent := Nat.zero_le _

end VideoAccel
