import VideoAccel.Proofs.CommandLine.Frames
import VideoAccel.Proofs.CommandLine.Lines

/-!
What a trial run reports.

Between two frames a trial run is `Midway`: its decoder is under way, the reports that were printed and
those on the board are the ones that the reported frames ask for, and the totals count what was
printed. A frame leaves it midway (`Midway.frame`), and so do all frames one after the other
(`Midway.frames`), waiting for the tasks that are left (`Midway.finishAll`) and printing
(`Midway.drain`). A run with valid settings and a picture size that can be decoded thus comes to its
end, and its lines show a record for each frame and the right totals (`execute_reports_every_frame`).
-/

namespace VideoAccel.CommandLine

open VideoAccel.Action (bind_of_ok get_run modify_run)

/-! ### Steps of a run -/

namespace Run

/-- What the decoder's session answers, the run answers. -/
theorem onDecoder_of_ok {α : Type} {action : Action (Session SimulatedDevice Arena) α}
    {state : RunState} {session later : Session SimulatedDevice Arena} {value : α}
    (working : state.decoder = .working session) (ran : action session = .ok value later)
    (explain : Fault → RunError) :
    onDecoder explain (Decoder.inSession action) state =
      .ok value { state with decoder := .working later } := by
  unfold onDecoder
  rw [working, Decoder.inSession, ran]

theorem finishOldest_of_cons {state : RunState} {task : Task} {later : List Task}
    (oldest : state.inFlight = task :: later) :
    finishOldest state = finish task { state with inFlight := later } := by
  rw [finishOldest, bind_of_ok (get_run state), oldest]
  rfl

/-- Sends the task of a frame to the device. -/
def submit (index : Nat) (task : Task) : Run Unit := do
  let task ← onDecoder (.generation index) (Decoder.generate task)
  onDecoder (.submission index) (Decoder.start task)
  modify fun state => { state with inFlight := state.inFlight ++ [task] }

theorem submit_of_ok {index : Nat} {task owned : Task} {state : RunState}
    {session middle later : Session SimulatedDevice Arena}
    (working : state.decoder = .working session)
    (generated : Session.generate task session = .ok owned middle)
    (started : Session.start owned middle = .ok () later) :
    submit index task state =
      .ok () { state with decoder := .working later, inFlight := state.inFlight ++ [owned] } := by
  let built : RunState := { state with decoder := .working middle }
  have first : onDecoder (.generation index) (Decoder.generate task) state = .ok owned built :=
    onDecoder_of_ok working generated _
  have second : onDecoder (.submission index) (Decoder.start owned) built =
      .ok () { built with decoder := .working later } := onDecoder_of_ok rfl started _
  rw [submit, bind_of_ok first, bind_of_ok second]
  rfl

/-- While a slot is free, a frame is sent at once. -/
theorem frame_of_room {options : Options} {pictures : Sequence} {depth index : Nat}
    {state : RunState} {session : Session SimulatedDevice Arena}
    (room : ¬ depth ≤ state.inFlight.length) (working : state.decoder = .working session) :
    frame options pictures depth index state =
      submit index (taskFor options pictures index)
        { state with
          decoder := .working (session.onto (options.armed index session.board.device)) } := by
  rw [frame, bind_of_ok (get_run state), if_neg room]
  have condition : (options.hardwareErrors.contains index &&
      !(taskFor options pictures index).flags.hasError) =
        (options.fails index && !options.skips index) :=
    congrArg (fun flag => options.fails index && !flag) (hasError_taskFor ..)
  simp only [condition]
  cases told : options.fails index && !options.skips index with
  | true =>
      have fails := (Bool.and_eq_true_iff.mp told).1
      have armed : options.armed index session.board.device =
          session.board.device.pushCompletion (.ofStatus
            (StatusWord.interrupt ||| StatusWord.ready ||| StatusWord.decodeError) false false) := by
        rw [Options.armed, if_pos told, Options.ending, if_pos fails]
        rfl
      rw [armed]
      show submit index (taskFor options pictures index) _ = _
      simp only [working]
      rfl
  | false =>
      have armed : options.armed index session.board.device = session.board.device := by
        rw [Options.armed, told]
        rfl
      rw [armed, show session.onto session.board.device = session from rfl, ← working]
      rfl

/-- Otherwise it is sent once the oldest task is finished. -/
theorem frame_of_full {options : Options} {pictures : Sequence} {depth index : Nat}
    {state middle final : RunState} (full : depth ≤ state.inFlight.length)
    (finished : finishOldest state = .ok () middle) (drained : drain options middle = .ok () final)
    (room : ¬ depth ≤ final.inFlight.length) :
    frame options pictures depth index state = frame options pictures depth index final := by
  rw [frame, bind_of_ok (get_run state), if_pos full, bind_of_ok finished, bind_of_ok drained,
    bind_of_ok (get_run final), if_neg room]

end Run

/-! ### A run between two frames -/

/-- The frames below `sent` were sent. `drained` are the reports printed and counted so far; others may
be on the board. -/
structure Midway (options : Options) (pictures : Sequence) (depth : Nat) (state : RunState)
    (session : Session SimulatedDevice Arena) (drained : List Report) (sent : Nat) : Prop where
  decoder : state.decoder = .working session
  underway : Underway options pictures depth session
    ((drained ++ session.board.reports.toList).map (·.task)) state.inFlight sent
  expected : ∀ report ∈ drained ++ session.board.reports.toList, options.Expects report
  totals : state.totals = drained.foldl Totals.count {}
  lines : state.lines.toList = drained.flatMap (reportLines options)
  fits : state.inFlight.length ≤ depth

variable {options : Options} {pictures : Sequence} {depth sent : Nat} {state : RunState}
  {session : Session SimulatedDevice Arena} {drained : List Report}

/-- The oldest task in flight can be waited for. -/
theorem Midway.finish (midway : Midway options pictures depth state session drained sent)
    {task : Task} {later : List Task} (oldest : state.inFlight = task :: later) :
    ∃ after left, Run.finish task { state with inFlight := later } = .ok () after ∧
      after.inFlight = later ∧ Midway options pictures depth after left drained sent := by
  have underway := midway.underway
  rw [oldest] at underway
  obtain ⟨left, report, waited, reports, names, expects, underway⟩ := underway.waits
  have collected : drained ++ left.board.reports.toList =
      (drained ++ session.board.reports.toList) ++ [report] := by
    rw [reports, Array.toList_push, List.append_assoc]
  have working : ({ state with inFlight := later } : RunState).decoder = .working session :=
    midway.decoder
  have fits := midway.fits
  rw [oldest] at fits
  refine ⟨_, left, Run.onDecoder_of_ok working waited _, rfl, rfl, ?_, ?_, midway.totals,
    midway.lines, Nat.le_of_succ_le fits⟩
  · rw [collected, List.map_append, List.map_singleton, names]
    exact underway
  · rw [collected]
    intro other member
    rcases List.mem_append.mp member with earlier | last
    · exact midway.expected other earlier
    · rw [List.mem_singleton.mp last]
      exact expects

/-- The reports on the board are printed and counted. -/
theorem Midway.drain (midway : Midway options pictures depth state session drained sent) :
    ∃ after left, Run.drain options state = .ok () after ∧ after.inFlight = state.inFlight ∧
      left.board.reports = #[] ∧
      Midway options pictures depth after left (drained ++ session.board.reports.toList) sent := by
  let left := session.withBoard { session.board with reports := #[] }
  have underway := midway.underway
  have emptied : (drained ++ session.board.reports.toList) ++ left.board.reports.toList =
      drained ++ session.board.reports.toList := List.append_nil _
  have ran : Run.drain options state = .ok ()
      { state with
        decoder := .working left
        totals := session.board.reports.foldl Totals.count state.totals
        lines := state.lines ++ session.board.reports.toList.flatMap (reportLines options) } := by
    unfold Run.drain modify modifyGet
    show EStateM.Result.ok () _ = _
    simp only [midway.decoder]
    rfl
  refine ⟨_, left, ran, rfl, rfl, rfl, ?_, ?_, ?_, ?_, midway.fits⟩
  · rw [emptied]
    exact ⟨underway.able.withBoard rfl underway.able.willing.device, underway.reporting,
      underway.capacity, underway.store, underway.order,
      fun task member => (underway.waiting task member).kept fun index slot owns => owns.found,
      underway.busy, underway.device, underway.supply⟩
  · rw [emptied]
    exact midway.expected
  · rw [List.foldl_append, ← midway.totals, Array.foldl_toList]
  · rw [List.flatMap_append, ← midway.lines]
    exact Array.toList_appendList

/-- While a slot is free, the next frame can be sent. -/
theorem Midway.send (midway : Midway options pictures depth state session drained sent)
    (decodable : Decodable pictures) (room : state.inFlight.length < depth) :
    ∃ after left, Run.frame options pictures depth sent state = .ok () after ∧
      Midway options pictures depth after left drained (sent + 1) := by
  obtain ⟨owned, middle, left, generated, started, reports, underway⟩ :=
    midway.underway.sends decodable room
  have collected : drained ++ left.board.reports.toList = drained ++ session.board.reports.toList :=
    congrArg (drained ++ ·.toList) reports
  have ready : ({ state with
      decoder := .working (session.onto (options.armed sent session.board.device)) } :
        RunState).decoder = .working (session.onto (options.armed sent session.board.device)) := rfl
  have submitted := (Run.frame_of_room (Nat.not_le.mpr room) midway.decoder).trans
    (Run.submit_of_ok ready generated started)
  refine ⟨_, left, submitted, rfl, ?_, ?_, midway.totals, midway.lines, ?_⟩
  · rw [collected]
    exact underway
  · rw [collected]
    exact midway.expected
  · rw [List.length_append, List.length_singleton]
    exact room

/-- The next frame can be sent, after the oldest task is finished if all slots are taken. -/
theorem Midway.frame (midway : Midway options pictures depth state session drained sent)
    (decodable : Decodable pictures) (positive : 0 < depth) :
    ∃ after left further, Run.frame options pictures depth sent state = .ok () after ∧
      Midway options pictures depth after left (drained ++ further) (sent + 1) := by
  by_cases full : depth ≤ state.inFlight.length
  · cases oldest : state.inFlight with
    | nil =>
        rw [oldest, List.length_nil] at full
        omega
    | cons task later =>
        have fits := midway.fits
        obtain ⟨middle, waited, finished, rest, midway⟩ := midway.finish oldest
        obtain ⟨final, emptied, drains, kept, -, midway⟩ := midway.drain
        have fewer : final.inFlight.length < depth := by
          rw [kept, rest]
          rw [oldest, List.length_cons] at fits
          exact fits
        obtain ⟨after, left, sends, midway⟩ := midway.send decodable fewer
        have waits := (Run.finishOldest_of_cons oldest).trans finished
        have ran := (Run.frame_of_full full waits drains (Nat.not_le.mpr fewer)).trans sends
        exact ⟨after, left, _, ran, midway⟩
  · obtain ⟨after, left, sends, midway⟩ := midway.send decodable (Nat.not_le.mp full)
    exact ⟨after, left, [], sends, by rw [List.append_nil]; exact midway⟩

/-- All further frames can be sent, one after the other. -/
theorem Midway.frames (midway : Midway options pictures depth state session drained sent)
    (decodable : Decodable pictures) (positive : 0 < depth) (count : Nat) :
    ∃ after left further,
      (List.range' sent count).forM (Run.frame options pictures depth) state = .ok () after ∧
      Midway options pictures depth after left (drained ++ further) (sent + count) := by
  induction count generalizing state session drained sent with
  | zero => exact ⟨state, session, [], rfl, by rw [List.append_nil]; exact midway⟩
  | succ count ih =>
      obtain ⟨middle, waiting, early, first, midway⟩ := midway.frame decodable positive
      obtain ⟨after, left, late, rest, midway⟩ := ih midway
      rw [List.append_assoc, Nat.add_right_comm] at midway
      refine ⟨after, left, early ++ late, ?_, midway⟩
      rw [List.range'_succ, List.forM_eq_forM, List.forM_cons, bind_of_ok first]
      exact rest

/-- All tasks in flight can be waited for. -/
theorem Midway.finishAll (midway : Midway options pictures depth state session drained sent)
    {queue : List Task} (inFlight : state.inFlight = queue) :
    ∃ after left, Run.finishAll queue state = .ok () after ∧ after.inFlight = [] ∧
      Midway options pictures depth after left drained sent := by
  induction queue generalizing state session with
  | nil => exact ⟨state, session, rfl, inFlight, midway⟩
  | cons task later ih =>
      obtain ⟨middle, waited, finished, rest, midway⟩ := midway.finish inFlight
      obtain ⟨after, left, others, empty, midway⟩ := ih midway rest
      refine ⟨after, left, ?_, empty, midway⟩
      rw [Run.finishAll, bind_of_ok (modify_run _ state), bind_of_ok finished, others]

/-! ### Totals -/

namespace Totals

theorem foldl_count (reports : List Report) (totals : Totals) :
    reports.foldl count totals =
      { totals with
        tasks := totals.tasks + reports.length
        hardwareErrors := totals.hardwareErrors +
          reports.countP fun report => report.hardError && !report.skipped
        skipped := totals.skipped + reports.countP (·.skipped) } := by
  induction reports generalizing totals with
  | nil => rfl
  | cons report rest ih =>
      rw [List.foldl_cons, ih]
      have step : ∀ p : Report → Bool, (report :: rest).countP p = (p report).toNat + rest.countP p := by
        intro p
        rw [List.countP_cons, Nat.add_comm]
        cases p report <;> rfl
      rw [step, step, List.length_cons, count]
      simp only [Nat.add_assoc, Nat.add_comm 1]

end Totals

/-! ### A whole run -/

/-- The pictures of the run that the command line asks for. -/
def Options.sequence (options : Options) : Sequence :=
  .of options.width options.height options.fields storeSlots

/-- The output that the command line asks for. -/
def Options.output (options : Options) : OutputInfo :=
  { width := options.width
    height := options.height
    format := .nv12
    compressed := options.compressed }

/-- No frame was sent to a decoder that was just initialised and told what its output is like. -/
theorem Underway.opened (options : Options) {config : Config} {scratch : Buffer} {memory : Arena}
    {journal : Journal}
    (able : (Session.opened config true scratch { trialBoard options with memory, journal }).Able)
    (allocations : memory.allocCount = 1) (stride : StrideRule) (events : Journal) :
    Underway options options.sequence config.slotCount
      ((Session.opened config true scratch { trialBoard options with memory, journal }).commanded
        options.compressed stride events) [] [] 0 where
  able := able.commanded options.compressed stride events
  reporting := rfl
  capacity := SlotPool.capacity_ofDepth ..
  store := rfl
  order := rfl
  waiting _ impossible := absurd impossible List.not_mem_nil
  busy := SlotPool.inUse_ofDepth ..
  device := ⟨Bytes.size_zeros _, rfl, rfl, rfl, rfl⟩
  supply := by
    refine ⟨?_, rfl, allocations⟩
    show LineBufferCache.serves (if _ then _ else _) _ = false
    split <;> rfl

/-- With valid settings the decoder can be initialised and told what its output is like. -/
theorem Midway.opened (options : Options) {config : Config} (valid : config.validate = .ok ()) :
    ∃ first after session,
      Run.onDecoder .initialisation (Decoder.initialise config true)
        { decoder := .idle (trialBoard options) } = .ok (Decoder.capability config) first ∧
      Run.onDecoder .command (Decoder.control (.setOutput options.output)) first = .ok () after ∧
      Midway options options.sequence config.slotCount after session [] 0 := by
  have willing : (trialBoard options).Willing := ⟨rfl, rfl⟩
  obtain ⟨scratch, memory, board, granted, -, ⟨journal, rfl⟩, opens, able⟩ :=
    Decoder.initialise_of_willing valid true willing
  have allocations : memory.allocCount = 1 := Arena.allocCount_alloc granted
  obtain ⟨stride, events, told⟩ := Session.control_run (.setOutput options.output)
    (Session.opened config true scratch { trialBoard options with memory, journal })
  let first : RunState :=
    { decoder := .working
        (.opened config true scratch { trialBoard options with memory, journal }) }
  have began : Run.onDecoder .initialisation (Decoder.initialise config true)
      { decoder := .idle (trialBoard options) } = .ok (Decoder.capability config) first := by
    unfold Run.onDecoder
    simp only [opens]
    rfl
  have working : first.decoder = .working
      (.opened config true scratch { trialBoard options with memory, journal }) := rfl
  refine ⟨first, _, _, began, Run.onDecoder_of_ok working told _, rfl,
    .opened options able allocations stride events, ?_, rfl, rfl, Nat.zero_le _⟩
  exact fun _ impossible => absurd impossible List.not_mem_nil

/-- The totals of a run that has come to its end. -/
def RunState.summary (state : RunState) (board : Board SimulatedDevice Arena) : Totals :=
  { state.totals with
    allocations := board.memory.allocCount
    liveBytes := board.memory.liveBytes
    registerWrites := board.device.writeCount }

/-- The run is answered to its end. All its frames are reported, and the last line has the totals. -/
theorem Run.sequence_run (options : Options) {config : Config} (valid : config.validate = .ok ())
    (width : options.width ≤ 4096) (height : options.height ≤ 2304) :
    ∃ reports final, ∃ session : Session SimulatedDevice Arena, ∃ state : RunState,
      Run.sequence options config { decoder := .idle (trialBoard options) } = .ok () final ∧
      final.lines.toList = reports.flatMap (reportLines options) ++
        [(state.summary session.board).line options.json] ∧
      state.inFlight = [] ∧ session.board.reports = #[] ∧
      Midway options options.sequence config.slotCount state session reports options.frames := by
  obtain ⟨first, opened, session, began, told, midway⟩ := Midway.opened options valid
  have small : ¬ ((Decoder.capability config).maxWidth < options.width ∨
      (Decoder.capability config).maxHeight < options.height) := by
    rintro (wide | high)
    · exact Nat.not_lt.mpr width wide
    · exact Nat.not_lt.mpr height high
  have positive : 0 < config.slotCount := by
    obtain ⟨deep, -⟩ := Config.validate_eq_ok_iff.mp valid
    unfold Config.slotCount
    split <;> omega
  have decodable : Decodable options.sequence := ⟨rfl, width, height⟩
  obtain ⟨sent, busy, early, frames, midway⟩ := midway.frames decodable positive options.frames
  rw [Nat.zero_add] at midway
  obtain ⟨waited, quiet, finished, empty, midway⟩ := midway.finishAll rfl
  obtain ⟨state, left, drained, same, silent, midway⟩ := midway.drain
  let closed : RunState := { state with decoder := .idle left.close }
  have released : Run.onDecoder .command Decoder.release state = .ok () closed := by
    unfold Run.onDecoder
    simp only [midway.decoder]
    rfl
  have board : state.decoder.board = left.board := congrArg Decoder.board midway.decoder
  let last := (state.summary left.board).line options.json
  refine ⟨_, { closed with lines := closed.lines.push last }, left, state, ?_, ?_,
    same.trans empty, silent, midway⟩
  · rw [Run.sequence, bind_of_ok began, if_neg small]
    refine (bind_of_ok told _).trans ?_
    refine (bind_of_ok (by rw [List.range_eq_range']; exact frames) _).trans ?_
    refine (bind_of_ok (get_run sent) _).trans ?_
    refine (bind_of_ok finished _).trans ?_
    refine (bind_of_ok drained _).trans ?_
    refine (bind_of_ok (get_run state) _).trans ?_
    refine (bind_of_ok released _).trans ?_
    rw [board]
    rfl
  · rw [Array.toList_push]
    exact congrArg (· ++ [last]) midway.lines

/-- The totals say how many frames there were, how many were skipped, how many of the others the
hardware failed on, how often registers were written, and how many buffers were taken. -/
structure Options.Sums (options : Options) (totals : Totals) : Prop where
  tasks : totals.tasks = options.frames
  skipped : totals.skipped = (List.range options.frames).countP options.skips
  hardwareErrors : totals.hardwareErrors =
    (List.range options.frames).countP fun frame => options.fails frame && !options.skips frame
  registerWrites : totals.registerWrites = 5 * (options.frames - totals.skipped)
  allocations : totals.allocations =
    if ∀ frame < options.frames, options.skips frame = true then 1 else 19

theorem Options.worked_eq_sub (options : Options) (sent : Nat) :
    options.worked sent = sent - (List.range sent).countP options.skips := by
  have split := (List.range sent).length_eq_countP_add_countP options.skips
  have rest : (List.range sent).countP (fun frame => decide ¬options.skips frame = true) =
      options.worked sent :=
    List.countP_congr fun frame _ => by cases options.skips frame <;> decide
  rw [List.length_range, rest] at split
  omega

theorem Options.worked_pos_iff (options : Options) (sent : Nat) :
    0 < options.worked sent ↔ ¬ ∀ frame < sent, options.skips frame = true := by
  unfold worked
  rw [List.countP_pos_iff]
  simp

/-- If the expected reports were made, as many of them have a property as there are frames with it. -/
theorem countP_reports {reports : List Report} {frames : Nat}
    (order : reports.map (·.task) = List.range frames) {p : Report → Bool} {q : Nat → Bool}
    (same : ∀ report ∈ reports, p report = q report.task) :
    reports.countP p = (List.range frames).countP q := by
  rw [← order, List.countP_map]
  exact List.countP_congr fun report member => by rw [same report member]; rfl

/-- In the end every frame was reported as expected, and the totals sum up the reports. -/
theorem Midway.ended {reports : List Report}
    (midway : Midway options pictures depth state session reports options.frames)
    (empty : state.inFlight = []) (silent : session.board.reports = #[]) :
    reports.map (·.task) = List.range options.frames ∧
      (∀ report ∈ reports, options.Expects report) ∧
      options.Sums (state.summary session.board) := by
  have order := midway.underway.order
  have expected := midway.expected
  have counted := midway.totals
  rw [silent] at order expected
  rw [empty, List.map_nil, List.append_nil, List.append_nil] at order
  rw [List.append_nil] at expected
  rw [Totals.foldl_count] at counted
  have skipped : state.totals.skipped = (List.range options.frames).countP options.skips := by
    rw [counted, ← countP_reports order fun report member => (expected report member).skipped]
    exact Nat.zero_add _
  refine ⟨order, expected, ?_, skipped, ?_, ?_, ?_⟩
  · show state.totals.tasks = _
    rw [counted, ← List.length_map (·.task), order, List.length_range]
    exact Nat.zero_add _
  · show state.totals.hardwareErrors = _
    have failed : ∀ report ∈ reports, (report.hardError && !report.skipped) =
        (options.fails report.task && !options.skips report.task) := by
      intro report member
      have expects := expected report member
      rw [expects.hardError, expects.skipped]
      cases options.skips report.task <;> cases options.fails report.task <;> rfl
    rw [counted, ← countP_reports order failed]
    exact Nat.zero_add _
  · show session.board.device.writeCount = 5 * (options.frames - state.totals.skipped)
    rw [midway.underway.device.writes, options.worked_eq_sub, skipped]
  · show session.supply.memory.allocCount = _
    rw [midway.underway.supply.allocations]
    by_cases all : ∀ frame < options.frames, options.skips frame = true
    · rw [if_pos all, if_neg fun any => (options.worked_pos_iff _).mp any all]
    · rw [if_neg all, if_pos ((options.worked_pos_iff _).mpr all)]

/-- Whatever was read and changed, the settings are checked last. -/
theorem validate_of_settings {options : Options} {fileText : Except String String} {config : Config}
    (valid : settings options fileText = .ok config) : config.validate = .ok () := by
  simp only [settings, bind, Except.bind] at valid
  split at valid
  -- no file is named
  case h_1 =>
    split at valid
    case h_1 accepted =>
      cases valid
      exact accepted
    case h_2 => cases valid
  -- a file is named, which has to be readable and to hold settings
  case h_2 =>
    split at valid
    case h_1 => cases valid
    case h_2 =>
      split at valid
      case h_1 =>
        split at valid
        case h_1 accepted =>
          cases valid
          exact accepted
        case h_2 => cases valid
      case h_2 => cases valid

/-- With valid settings the outcome is that of the run. -/
theorem execute_of_settings {options : Options} {fileText : Except String String} {config : Config}
    (running : options.list = false) (codec : Codec.ofName? options.codec = some .h264)
    (valid : settings options fileText = .ok config) {final : RunState}
    (ran : Run.sequence options config { decoder := .idle (trialBoard options) } = .ok () final) :
    execute options fileText = ⟨final.lines.toList, none⟩ := by
  have made : Registry.standard.create .h264 = .ok h264Decoder := rfl
  unfold execute
  simp only [running, valid, codec, made, bind, Except.bind, Bool.false_eq_true, if_false, ran]

/-- With valid settings and a picture size that can be decoded, a trial run comes to its end: no call
is refused. Its lines come in groups, one for each frame in order, and the totals have the last line. A
group is the record of its frame, with the slot and the verdict that the frame asks for, and the registers
if they are to be printed. -/
theorem execute_reports_every_frame (options : Options) {fileText : Except String String}
    {config : Config} (running : options.list = false)
    (codec : Codec.ofName? options.codec = some .h264)
    (valid : settings options fileText = .ok config) (width : options.width ≤ 4096)
    (height : options.height ≤ 2304) :
    ∃ (reports : List Report) (totals : Totals) (groups : List (List String)) (last : String),
      execute options fileText = ⟨groups.flatten ++ [last], none⟩ ∧
      List.Forall₂ options.Shows reports groups ∧ totals.ToldBy options.json last ∧
      reports.map (·.task) = List.range options.frames ∧
      (∀ report ∈ reports, options.Expects report) ∧ options.Sums totals := by
  have accepted := validate_of_settings valid
  obtain ⟨reports, final, session, state, ran, lines, empty, silent, midway⟩ :=
    Run.sequence_run options accepted width height
  obtain ⟨order, expected, sums⟩ := midway.ended empty silent
  let totals := state.summary session.board
  refine ⟨reports, totals, reports.map (reportLines options), totals.line options.json, ?_, ?_,
    totals.toldBy_line options.json, order, expected, sums⟩
  · rw [execute_of_settings running codec valid ran, lines, List.flatMap_def]
  · rw [List.forall₂_map_right_iff, List.forall₂_same]
    exact fun report _ => shows_reportLines options report

/-- Five frames through a pipeline of two slots. The stream of frame 1 is damaged; the hardware fails on
frame 0, and would fail on frame 1 and on a frame that never comes. -/
def fiveFrames : Options :=
  { frames := 5
    depth := some 2
    parseErrors := [1]
    hardwareErrors := [0, 1, 9] }

theorem five_frames_reported :
    ∃ (reports : List Report) (totals : Totals) (groups : List (List String)) (last : String),
      execute fiveFrames (.error "no file") = ⟨groups.flatten ++ [last], none⟩ ∧
      List.Forall₂ fiveFrames.Shows reports groups ∧ totals.ToldBy false last ∧
      reports.map (·.task) = [0, 1, 2, 3, 4] ∧
      (∀ report ∈ reports, fiveFrames.Expects report) ∧
      totals = ⟨5, 1, 1, 19, totals.liveBytes, 20⟩ := by
  obtain ⟨reports, totals, groups, last, ran, shown, told, order, expected, sums⟩ :=
    @execute_reports_every_frame fiveFrames (.error "no file") { pipelineDepth := 2 } rfl rfl rfl
      (by decide) (by decide)
  refine ⟨reports, totals, groups, last, ran, shown, told, order, expected, ?_⟩
  have skipped : totals.skipped = 1 := sums.skipped.trans (by decide)
  have writes := sums.registerWrites
  rw [skipped] at writes
  obtain ⟨tasks, hardwareErrors, skips, allocations, liveBytes, registerWrites⟩ := totals
  simp only [Totals.mk.injEq, true_and]
  exact ⟨sums.tasks, sums.hardwareErrors.trans (by decide), skipped,
    sums.allocations.trans (by decide), writes⟩

end VideoAccel.CommandLine
