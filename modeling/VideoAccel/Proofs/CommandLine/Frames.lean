import VideoAccel.CommandLine.Run
import VideoAccel.Proofs.Memory.LineBuffers
import VideoAccel.Proofs.Memory.Tally
import VideoAccel.Proofs.Pipeline.Skipping

/-!
The frames of a trial run in the pipeline.

Between two frames of a trial run its session is `Underway`: the tasks that were sent and not waited
for are those of the last frames, in order; each that is not skipped owns a submitted slot, and the
device has their completions in the same order. Waiting for the oldest of them delivers the report
that its frame asks for (`Underway.waits`), and a further frame can be sent as long as a slot is free
(`Underway.sends`). Both leave the session under way.
-/

namespace VideoAccel

/-- The session with another device. -/
def Session.onto (session : Session SimulatedDevice Arena) (device : SimulatedDevice) :
    Session SimulatedDevice Arena :=
  session.withBoard { session.board with device }

namespace CommandLine

/-! ### What is asked of a frame -/

namespace Options

/-- The stream of the frame is damaged, so that the pipeline passes it over. -/
def skips (options : Options) (frame : Nat) : Bool :=
  options.parseErrors.contains frame

/-- The hardware is to fail on the frame, if it gets there. -/
def fails (options : Options) (frame : Nat) : Bool :=
  options.hardwareErrors.contains frame

/-- How the device ends the frame. -/
def ending (options : Options) (frame : Nat) : Ending :=
  if options.fails frame then
    ⟨StatusWord.interrupt ||| StatusWord.ready ||| StatusWord.decodeError, false, false⟩
  else .done

theorem isHardError_ending (options : Options) (frame : Nat) :
    (options.ending frame).isHardError = options.fails frame := by
  unfold ending
  cases options.fails frame <;> decide

/-- The report names the slot of its frame and says what has become of it. -/
structure Expects (options : Options) (report : Report) : Prop where
  outputSlot : report.outputSlot = report.task % storeSlots
  skipped : report.skipped = options.skips report.task
  hardError : report.hardError = (options.skips report.task || options.fails report.task)

/-- How many of the first frames reach the device. -/
def worked (options : Options) (sent : Nat) : Nat :=
  (List.range sent).countP fun frame => !options.skips frame

theorem worked_succ (options : Options) (sent : Nat) :
    options.worked (sent + 1) = options.worked sent + (!options.skips sent).toNat := by
  unfold worked
  rw [List.range_succ, List.countP_append, List.countP_singleton]
  cases options.skips sent <;> rfl

/-- The completions of the tasks in flight, oldest first. A skipped task has none. -/
def completions (options : Options) (queue : List Task) : List Completion :=
  (queue.filter fun task => !task.flags.hasError).map fun task =>
    (options.ending task.id).completion

/-- The device before a frame is sent to it: if it is to fail on the frame, it was told so. -/
def armed (options : Options) (frame : Nat) (device : SimulatedDevice) : SimulatedDevice :=
  if options.fails frame && !options.skips frame then
    device.pushCompletion (options.ending frame).completion
  else device

/-- Telling the device of a frame changes its script and nothing else. -/
theorem armed_eq (options : Options) (frame : Nat) (device : SimulatedDevice) :
    options.armed frame device =
      { device with script := (options.armed frame device).script } := by
  unfold armed
  split <;> rfl

variable {options : Options} {task : Task}

theorem completions_cons_of_flagged (flagged : task.flags.hasError = true) (queue : List Task) :
    options.completions (task :: queue) = options.completions queue := by
  rw [completions, List.filter_cons_of_neg (by rw [flagged]; decide), completions]

theorem completions_cons_of_unflagged (unflagged : task.flags.hasError = false)
    (queue : List Task) :
    options.completions (task :: queue) =
      (options.ending task.id).completion :: options.completions queue := by
  rw [completions, List.filter_cons_of_pos (by rw [unflagged]; decide), List.map_cons, completions]

theorem completions_append (queue later : List Task) :
    options.completions (queue ++ later) =
      options.completions queue ++ options.completions later := by
  unfold completions
  rw [List.filter_append, List.map_append]

end Options

theorem Run.hasError_taskFor (options : Options) (pictures : Sequence) (index : Nat) :
    (taskFor options pictures index).flags.hasError = options.skips index :=
  Bool.or_false _

/-! ### A session between two frames -/

/-- The task of a frame that was sent; it owns a slot unless it is skipped. -/
structure Sent (options : Options) (session : Session SimulatedDevice Arena) (task : Task) :
    Prop where
  outputSlot : task.outputSlot = task.id % storeSlots
  skips : task.flags.hasError = options.skips task.id
  owned : task.flags.hasError = false → ∃ index slot, session.Owns task .submitted index slot

/-- The device has taken the frames below `sent` that are not skipped, and has the completions of those
in `queue` ahead of it. -/
structure Takes (options : Options) (device : SimulatedDevice) (queue : List Task) (sent : Nat) :
    Prop where
  space : device.registers.size = SimulatedDevice.registerSpace
  usual : device.usual = .done
  script : device.script = []
  inFlight : device.inFlight = options.completions queue
  writes : device.writeCount = 5 * options.worked sent

namespace Takes

variable {options : Options} {device after : SimulatedDevice} {task : Task} {queue : List Task}
  {sent : Nat}

/-- The oldest task in flight is the one that the device completes next. -/
theorem waiting (takes : Takes options device (task :: queue) sent)
    (unflagged : task.flags.hasError = false) :
    device.inFlight = (options.ending task.id).completion :: options.completions queue := by
  rw [← options.completions_cons_of_unflagged unflagged]
  exact takes.inFlight

theorem passes (takes : Takes options device (task :: queue) sent)
    (flagged : task.flags.hasError = true) : Takes options device queue sent := by
  refine { takes with inFlight := ?_ }
  rw [← options.completions_cons_of_flagged flagged]
  exact takes.inFlight

theorem collects (takes : Takes options device (task :: queue) sent)
    (unflagged : task.flags.hasError = false)
    (collects : device.Collects (options.ending task.id).completion after)
    (writes : after.writeCount = device.writeCount) : Takes options after queue sent where
  space := by rw [collects.registers, Completion.size_apply, takes.space]
  usual := collects.usual.trans takes.usual
  script := collects.script.trans takes.script
  inFlight := (List.cons.inj (collects.waiting.symm.trans (takes.waiting unflagged))).2
  writes := writes.trans takes.writes

theorem skips (takes : Takes options device queue sent) (flagged : task.flags.hasError = true)
    (skipped : options.skips sent = true) : Takes options device (queue ++ [task]) (sent + 1) where
  space := takes.space
  usual := takes.usual
  script := takes.script
  inFlight := by
    rw [options.completions_append, options.completions_cons_of_flagged flagged, takes.inFlight]
    exact (List.append_nil _).symm
  writes := by
    rw [takes.writes, options.worked_succ, skipped]
    rfl

/-- A device that was told about the frame, if there is something to tell, has its completion ready. -/
theorem armed (takes : Takes options device queue sent) (worked : options.skips sent = false) :
    (options.armed sent device).nextCompletion = (options.ending sent).completion ∧
    (options.armed sent device).script.tail = [] := by
  unfold Options.armed Options.ending
  rw [worked, Bool.not_false, Bool.and_true]
  cases options.fails sent with
  | true =>
      unfold SimulatedDevice.nextCompletion SimulatedDevice.pushCompletion
      simp only [if_true, takes.script]
      exact ⟨rfl, rfl⟩
  | false =>
      unfold SimulatedDevice.nextCompletion
      simp only [Bool.false_eq_true, if_false, takes.script, takes.usual]
      exact ⟨rfl, rfl⟩

theorem sends (takes : Takes options device queue sent) (unflagged : task.flags.hasError = false)
    (id : task.id = sent) (worked : options.skips sent = false)
    (sends : (options.armed sent device).Sends after)
    (writes : after.writeCount = (options.armed sent device).writeCount + 5) :
    Takes options after (queue ++ [task]) (sent + 1) := by
  obtain ⟨next, script⟩ := takes.armed worked
  have told := options.armed_eq sent device
  refine ⟨?_, ?_, sends.script.trans script, ?_, ?_⟩
  · rw [sends.status.size, told, takes.space]
  · rw [sends.usual, told, takes.usual]
  · rw [sends.inFlight, next, told, options.completions_append,
      options.completions_cons_of_unflagged unflagged, id, ← takes.inFlight]
    rfl
  · rw [writes, options.worked_succ, worked, Nat.mul_add, ← takes.writes, told]
    rfl

end Takes

/-- The shared buffers were taken for the first frame that reached the device, and serve all of
them. -/
structure Serves (shape : PictureShape) (size : Nat) (supply : Supply Arena) (worked : Nat) :
    Prop where
  lines : supply.lines.serves shape = decide (0 < worked)
  motion : supply.motion.serves storeSlots size = decide (0 < worked)
  allocations : supply.memory.allocCount = if 0 < worked then 19 else 1

/-- Only the first frame that reaches the device needs buffers: those for the line buffers, and one for
each slot of the picture store. -/
theorem Serves.provides {shape : PictureShape} {size worked : Nat} {supply after : Supply Arena}
    (serves : Serves shape size supply worked)
    (provides : supply.Provides shape storeSlots size (.ok ()) after) :
    Serves shape size after (worked + 1) := by
  obtain ⟨⟨lines, motion⟩, tally⟩ := provides.tally
  have one := decide_eq_true (Nat.succ_pos worked)
  refine ⟨lines.trans one.symm, motion.trans one.symm, ?_⟩
  rw [tally, serves.lines, serves.motion, serves.allocations, if_pos (Nat.succ_pos worked)]
  by_cases any : 0 < worked
  · rw [decide_eq_true any, if_pos any]
    rfl
  · rw [decide_eq_false any, if_neg any]
    rfl

/-- The bytes that the motion vectors of a picture of the sequence take. -/
def motionBytes (pictures : Sequence) : Nat :=
  MotionPool.bytesFor pictures.width pictures.height (pictures.picture 0).sequence.fieldCoding

/-- The pictures go round all slots of the picture store, and they are not too large for the decoder. -/
structure Decodable (pictures : Sequence) : Prop where
  slots : pictures.slots = storeSlots
  width : pictures.width ≤ Decoder.maxWidth
  height : pictures.height ≤ Decoder.maxHeight

/-- The frames below `sent` were sent; those in `done` were reported, and the tasks of the others are
in `queue`. -/
structure Underway (options : Options) (pictures : Sequence) (depth : Nat)
    (session : Session SimulatedDevice Arena) (done : List Nat) (queue : List Task) (sent : Nat) :
    Prop where
  able : session.Able
  reporting : session.reporting = true
  capacity : session.slots.capacity = depth
  store : session.board.frames.slotCount = storeSlots
  order : done ++ queue.map (·.id) = List.range sent
  waiting : ∀ task ∈ queue, Sent options session task
  busy : session.slots.inUse = session.board.device.inFlight.length
  device : Takes options session.board.device queue sent
  supply : Serves (session.shapeOf (pictures.picture 0)) (motionBytes pictures) session.supply
    (options.worked sent)

variable {options : Options} {pictures : Sequence} {depth sent : Nat}
  {session : Session SimulatedDevice Arena} {done : List Nat} {task : Task} {queue : List Task}

/-- The oldest task was waited for, and its report is the one that its frame asks for. -/
structure Delivers (options : Options) (pictures : Sequence) (depth : Nat)
    (session : Session SimulatedDevice Arena) (done : List Nat) (task : Task) (queue : List Task)
    (sent : Nat) (later : Session SimulatedDevice Arena) (report : Report) : Prop where
  waited : Session.wait task session = .ok () later
  reports : later.board.reports = session.board.reports.push report
  names : report.task = task.id
  expects : options.Expects report
  underway : Underway options pictures depth later (done ++ [task.id]) queue sent

/-- The next frame was sent, after the device was told if it is to fail on it. -/
structure Submits (options : Options) (pictures : Sequence) (depth : Nat)
    (session : Session SimulatedDevice Arena) (done : List Nat) (queue : List Task) (sent : Nat)
    (owned : Task) (middle later : Session SimulatedDevice Arena) : Prop where
  generated : Session.generate (Run.taskFor options pictures sent)
    (session.onto (options.armed sent session.board.device)) = .ok owned middle
  started : Session.start owned middle = .ok () later
  reports : later.board.reports = session.board.reports
  underway : Underway options pictures depth later done (queue ++ [owned]) (sent + 1)

/-- A task that was sent stays so while its slot does. -/
theorem Sent.kept (sent : Sent options session task) {later : Session SimulatedDevice Arena}
    (keeps : ∀ index slot, session.Owns task .submitted index slot →
      later.slots.get? index = some slot) : Sent options later task where
  outputSlot := sent.outputSlot
  skips := sent.skips
  owned unflagged := by
    obtain ⟨index, slot, owns⟩ := sent.owned unflagged
    exact ⟨index, slot, owns.names, keeps index slot owns, owns.taken, owns.serves, owns.stage⟩

namespace Underway

theorem order_cons (underway : Underway options pictures depth session done (task :: queue) sent) :
    (done ++ [task.id]) ++ queue.map (·.id) = List.range sent := by
  rw [List.append_assoc]
  exact underway.order

theorem order_concat (underway : Underway options pictures depth session done queue sent)
    (id : task.id = sent) : done ++ (queue ++ [task]).map (·.id) = List.range (sent + 1) := by
  rw [List.map_append, ← List.append_assoc, underway.order, List.range_succ, ← id]
  rfl

/-- No frame is sent twice. -/
theorem id_ne (underway : Underway options pictures depth session done (task :: queue) sent)
    {other : Task} (member : other ∈ queue) : other.id ≠ task.id := by
  have distinct : (done ++ task.id :: queue.map (·.id)).Nodup := by
    rw [show done ++ task.id :: queue.map (·.id) = List.range sent from underway.order]
    exact List.nodup_range
  have fresh := (List.nodup_cons.mp (List.nodup_append.mp distinct).2.1).1
  exact fun same => fresh (same ▸ List.mem_map_of_mem member)

/-- A skipped frame is reported as skipped. -/
theorem waits_skipped (underway : Underway options pictures depth session done (task :: queue) sent)
    (flagged : task.flags.hasError = true) :
    ∃ later report, Delivers options pictures depth session done task queue sent later report := by
  have oldest := underway.waiting task List.mem_cons_self
  have skips := oldest.skips.symm.trans flagged
  have able := underway.able.reported (.skip task)
  have waited := Session.wait_of_flagged flagged session
  rw [Session.reported_eq] at able waited
  refine ⟨_, .skip task, waited, if_pos underway.reporting, rfl, ?_, able, underway.reporting,
    underway.capacity, underway.store, underway.order_cons, ?_, underway.busy,
    underway.device.passes flagged, underway.supply⟩
  · exact ⟨oldest.outputSlot, skips.symm, by rw [Report.skip, skips, Bool.true_or]⟩
  · intro other member
    exact (underway.waiting other (List.mem_cons_of_mem _ member)).kept
      fun index slot owns => owns.found

/-- Any other frame is reported with its ending, and its slot is free again. -/
theorem waits_worked (underway : Underway options pictures depth session done (task :: queue) sent)
    (unflagged : task.flags.hasError = false) :
    ∃ later report, Delivers options pictures depth session done task queue sent later report := by
  have oldest := underway.waiting task List.mem_cons_self
  have skips := oldest.skips.symm.trans unflagged
  obtain ⟨index, slot, owns⟩ := oldest.owned unflagged
  have waiting := underway.device.waiting unflagged
  obtain ⟨device, content, journal, report, collects, writes, waited, able, names, slots, unskipped,
    tells⟩ := underway.able.wait unflagged owns waiting underway.device.space
  have takes := underway.device.collects unflagged collects writes
  rw [Session.reported_eq] at able waited
  refine ⟨_, report, waited, if_pos underway.reporting, names, ?_, able, underway.reporting, ?_,
    underway.store, underway.order_cons, ?_, ?_, takes, underway.supply⟩
  · refine ⟨by rw [slots, names]; exact oldest.outputSlot, by rw [unskipped, names, skips], ?_⟩
    rw [tells.hardError, options.isHardError_ending, names, skips, Bool.false_or]
  · exact (SlotPool.capacity_put ..).trans underway.capacity
  · intro other member
    refine (underway.waiting other (List.mem_cons_of_mem _ member)).kept
      fun own held theirs => (SlotPool.get?_put_of_ne _ ?_ _).trans theirs.found
    exact (theirs.ne owns.found owns.serves (underway.id_ne member)).symm
  · have counted := SlotPool.inUse_put owns.found ⟨false, .idle, content⟩
    have busy := underway.busy
    rw [waiting, List.length_cons, ← takes.inFlight] at busy
    rw [owns.taken, Bool.toNat_true, Bool.toNat_false] at counted
    show (session.slots.put index _).inUse = device.inFlight.length
    omega

/-- Waiting for the oldest task delivers the report that its frame asks for. -/
theorem waits (underway : Underway options pictures depth session done (task :: queue) sent) :
    ∃ later report, Delivers options pictures depth session done task queue sent later report := by
  cases flagged : task.flags.hasError with
  | true => exact underway.waits_skipped flagged
  | false => exact underway.waits_worked flagged

/-- A skipped frame takes up no slot, and the device hears nothing of it. -/
theorem sends_skipped (underway : Underway options pictures depth session done queue sent)
    (decodable : Decodable pictures) (skips : options.skips sent = true) :
    ∃ owned middle later,
      Submits options pictures depth session done queue sent owned middle later := by
  have flags := Run.hasError_taskFor options pictures sent
  have flagged := flags.trans skips
  have same : session.onto (options.armed sent session.board.device) = session := by
    rw [Options.armed, skips, Bool.not_true, Bool.and_false]
    rfl
  have generated := (congrArg (Session.generate (Run.taskFor options pictures sent)) same).trans
    (Session.generate_skipped flagged session)
  refine ⟨_, _, _, generated, Session.start_skipped flagged _, rfl,
    (underway.able.recorded _).recorded _, underway.reporting, underway.capacity, underway.store,
    underway.order_concat rfl, ?_, underway.busy, underway.device.skips flagged skips, ?_⟩
  · intro task member
    rcases List.mem_append.mp member with earlier | last
    · exact (underway.waiting task earlier).kept fun index slot owns => owns.found
    · obtain rfl := List.mem_singleton.mp last
      exact ⟨congrArg (sent % ·) decodable.slots, flags,
        fun unflagged => absurd (flagged.symm.trans unflagged) nofun⟩
  · rw [options.worked_succ, skips]
    exact underway.supply

/-- While fewer tasks are in flight than there are slots, one of these is free. -/
theorem exists_firstFree (underway : Underway options pictures depth session done queue sent)
    (free : queue.length < depth) : ∃ index slot, session.slots.FirstFree index slot := by
  have few : session.board.device.inFlight.length ≤ queue.length := by
    rw [underway.device.inFlight, Options.completions, List.length_map]
    exact List.length_filter_le ..
  rcases session.slots.acquire_cases with ⟨index, slot, first, -⟩ | ⟨taken, -⟩
  · exact ⟨index, slot, first⟩
  · have full := SlotPool.inUse_of_busy taken
    have busy := underway.busy
    have capacity := underway.capacity
    omega

/-- Any other frame gets the first free slot, and the device takes it with the ending it was told of. -/
theorem sends_worked (underway : Underway options pictures depth session done queue sent)
    (decodable : Decodable pictures) (free : queue.length < depth)
    (skips : options.skips sent = false) :
    ∃ owned middle later,
      Submits options pictures depth session done queue sent owned middle later := by
  have flags := Run.hasError_taskFor options pictures sent
  have unflagged := flags.trans skips
  let device := options.armed sent session.board.device
  have told : device = { session.board.device with script := device.script } :=
    options.armed_eq sent session.board.device
  have ready : (session.onto device).Able :=
    underway.able.withBoard rfl (by
      show device.failPolls = false
      rw [told]
      exact underway.able.willing.device)
  obtain ⟨index, slot, first⟩ := underway.exists_firstFree free
  obtain ⟨supply, scratch, content, later, journal, events, built, final, settled, left, generated,
    started, provides, serves, sends, writes, able⟩ :=
    ready.send unflagged rfl first
      (LineBuffer.offset_lt decodable.width decodable.height rfl rfl)
  let placed : Task := { Run.taskFor options pictures sent with slot := some index }
  have clear : placed.flags.hasError = false := unflagged
  have takes := underway.device.sends clear rfl skips sends writes
  rw [show (session.onto device).board.frames.slotCount = storeSlots from underway.store] at provides
  subst settled left
  refine ⟨_, _, _, generated, started, rfl, able, underway.reporting, ?_, underway.store,
    underway.order_concat rfl, ?_, ?_, takes, ?_⟩
  · exact ((SlotPool.capacity_put ..).trans (SlotPool.capacity_put ..)).trans underway.capacity
  · intro task member
    rcases List.mem_append.mp member with earlier | last
    · refine (underway.waiting task earlier).kept fun own held theirs => ?_
      have ne : index ≠ own := by
        rintro rfl
        cases first.found.symm.trans theirs.found
        cases first.free.symm.trans theirs.taken
      exact ((SlotPool.get?_put_of_ne _ ne _).trans (SlotPool.get?_put_of_ne _ ne _)).trans
        theirs.found
    · obtain rfl := List.mem_singleton.mp last
      exact ⟨congrArg (sent % ·) decodable.slots, flags, fun _ => ⟨index, _, rfl,
        SlotPool.get?_put_self (SlotPool.get?_put_self first.found _) _, rfl, serves, rfl⟩⟩
  · have counted := SlotPool.inUse_put first.found ⟨true, .submitted, content⟩
    rw [first.free, Bool.toNat_true, Bool.toNat_false] at counted
    have one : later.inFlight.length = session.board.device.inFlight.length + 1 := by
      rw [sends.inFlight, List.length_append, List.length_singleton,
        show (session.onto device).board.device = device from rfl, told]
    have busy := underway.busy
    show ((session.slots.put index _).put index _).inUse = later.inFlight.length
    rw [SlotPool.put_put, one]
    omega
  · rw [options.worked_succ, skips]
    exact underway.supply.provides provides

/-- A further frame can be sent as long as fewer tasks are in flight than there are slots. -/
theorem sends (underway : Underway options pictures depth session done queue sent)
    (decodable : Decodable pictures) (free : queue.length < depth) :
    ∃ owned middle later,
      Submits options pictures depth session done queue sent owned middle later := by
  cases skips : options.skips sent with
  | true => exact underway.sends_skipped decodable skips
  | false => exact underway.sends_worked decodable free skips

end Underway

end CommandLine

end VideoAccel
