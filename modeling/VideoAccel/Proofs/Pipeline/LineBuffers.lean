import VideoAccel.Proofs.Memory.LineBuffers
import VideoAccel.Proofs.Pipeline.Backing
import VideoAccel.Proofs.Program.Patches

/-!
The line buffers of a session.

Line buffers are kept from picture to picture and placed anew only when the key of the shape is
another one, or after compression was switched. In every session that a run can reach the cache is
up to date all the same (`Reachable.linesCurrent`), also after buffers were refused. So a task
that got its registers finds the line buffers where placing them from scratch would put them
(`Reachable.lines_placed`).

A built slot describes the line buffers to the device in three places: the address registers, the
patch table and the table of sizes. `Reachable.line_buffers_described` says that the three agree with
each other and with where the buffers lie.
-/

namespace VideoAccel

variable {δ α : Type}

/-! ### Line buffers that are up to date -/

namespace Supply

variable [Allocator α]

/-- Whatever becomes of the motion vectors, the line buffers are readied first. -/
theorem Provides.ensures {shape : PictureShape} {slots size : Nat} {supply after : Supply α}
    {outcome : Except Fault Unit} (provides : supply.Provides shape slots size outcome after) :
    ∃ answer memory, supply.lines.Ensures shape supply.memory answer after.lines memory ∧
      (outcome = .ok () → answer = .ok ()) := by
  cases provides with
  | noLines refused => exact ⟨_, _, refused, id⟩
  | noMotion ready refused => exact ⟨_, _, ready, fun _ => rfl⟩
  | provided ready granted => exact ⟨_, _, ready, id⟩

end Supply

namespace Session

/-- The line buffers have the property, for the present state of compression. -/
def LinesHave (property : LineBufferCache → Bool → Prop) (session : Session δ α) : Prop :=
  property session.lines session.compressed

/-- As long as the line buffers have a key, they are those for every picture with that key in the
present state of compression. -/
def LinesCurrent (session : Session δ α) : Prop :=
  session.LinesHave LineBufferCache.Current

variable {property : LineBufferCache → Bool → Prop}

theorem LinesHave.of_same {before after : Session δ α} (holds : before.LinesHave property)
    (lines : after.lines = before.lines) (compressed : after.compressed = before.compressed) :
    after.LinesHave property := by
  unfold LinesHave
  rw [lines, compressed]
  exact holds

theorem LinesHave.reported {session : Session δ α} (holds : session.LinesHave property)
    (report : Report) : (session.reported report).LinesHave property := by
  rw [reported_eq]
  exact holds.of_same rfl rfl

section Memory

variable [Allocator α]

theorem Prepares.ensures {session : Session δ α} {index : Nat} {task : Task}
    {content final : SlotContent} {outcome : Except Fault Unit} {supply : Supply α}
    {scratch : Buffer}
    (prepares : Prepares session index task content outcome supply scratch final) :
    ∃ answer memory, session.lines.Ensures (session.shapeOf task.coded.picture)
        session.board.memory answer supply.lines memory ∧
      (outcome = .ok () → answer = .ok ()) := by
  have provides := session.provision_spec task.coded.picture
  cases prepares with
  | starved refused =>
      rw [refused] at provides
      exact provides.ensures
  | unbuilt granted refused =>
      rw [granted] at provides
      obtain ⟨answer, memory, ensures, -⟩ := provides.ensures
      exact ⟨answer, memory, ensures, nofun⟩
  | unsynced granted built refused =>
      rw [granted] at provides
      obtain ⟨answer, memory, ensures, -⟩ := provides.ensures
      exact ⟨answer, memory, ensures, nofun⟩
  | ready granted built synced =>
      rw [granted] at provides
      exact provides.ensures

/-- A change of compression outdates the line buffers, and other commands leave them alone. -/
theorem LinesHave.commanded {session : Session δ α}
    (renewed : LineBufferCache.Renewed α property) (holds : session.LinesHave property)
    {compressed : Bool} {stride : StrideRule} {journal : Journal} :
    (session.commanded compressed stride journal).LinesHave property := by
  unfold LinesHave Session.commanded
  by_cases same : session.compressed = compressed
  · rw [if_pos same, ← same]
    exact holds
  · rw [if_neg same]
    exact renewed.forgotten rfl _

theorem LinesHave.settled {session : Session δ α} (renewed : LineBufferCache.Renewed α property)
    (holds : session.LinesHave property) {index : Nat} {task : Task} {content final : SlotContent}
    {outcome : Except Fault Unit} {supply : Supply α} {scratch : Buffer}
    (prepares : Prepares session index task content outcome supply scratch final)
    (slot : Slot SlotContent) (journal : Journal) :
    (session.settle index slot supply scratch journal).LinesHave property := by
  obtain ⟨answer, memory, ensures, -⟩ := prepares.ensures
  have before : property session.lines (session.shapeOf task.coded.picture).compressed := holds
  exact renewed.ensures before ensures

theorem LinesHave.generates {session later : Session δ α} {task : Task}
    {outcome : Except Fault Task} (renewed : LineBufferCache.Renewed α property)
    (holds : session.LinesHave property) (generates : Generates session task outcome later) :
    later.LinesHave property := by
  cases generates with
  | skipped flagged journal => exact holds.of_same rfl rfl
  | held unflagged names alreadyHeld => exact holds
  | full unflagged unheld busy => exact holds
  | failed unflagged unheld first prepares journal => exact holds.settled renewed prepares _ journal
  | built unflagged unheld first prepares journal => exact holds.settled renewed prepares _ journal

/-- The line buffers that a task without error flags was generated with have the key of its picture,
and are those that the picture needs. -/
theorem Generates.lines {session later : Session δ α} {task owned : Task}
    (generates : Generates session task (.ok owned) later) (current : session.LinesCurrent)
    (unflagged : task.flags.hasError = false) :
    later.lines.placedFor = some (later.shapeOf task.coded.picture).key ∧
    later.lines.buffers = LineBuffer.place (later.shapeOf task.coded.picture)
      later.lines.registers := by
  cases generates with
  | skipped flagged journal => cases unflagged.symm.trans flagged
  | built _ unheld first prepares journal =>
      obtain ⟨answer, memory, ensures, answers⟩ := prepares.ensures
      rw [answers rfl] at ensures
      exact ⟨ensures.placedFor, ensures.buffers current⟩

/-- Line buffers that were readied are where placing them from scratch would put them. -/
theorem lines_of_granted {session : Session δ α} (formed : session.Formed)
    (current : session.LinesCurrent) {picture : Picture} {supply : Supply α}
    (granted : session.provision picture session.supply = .ok () supply) :
    supply.lines.registers = LineBufferClass.all.zip Layout.lineBufferRegisters ∧
    supply.lines.buffers = LineBuffer.place (session.shapeOf picture)
      (LineBufferClass.all.zip Layout.lineBufferRegisters) := by
  have registers := (registers_provision (by rw [granted, Action.after_ok])).trans formed.registers
  have provides := session.provision_spec picture
  rw [granted, Action.outcome_ok, Action.after_ok] at provides
  obtain ⟨answer, memory, ensures, answers⟩ := provides.ensures
  rw [answers rfl] at ensures
  refine ⟨registers, ?_⟩
  rw [← registers]
  exact ensures.buffers current

end Memory

section Hardware

variable [Device δ]

theorem LinesHave.starts {session later : Session δ α} {task : Task}
    {outcome : Except Fault Unit} (holds : session.LinesHave property)
    (starts : Starts session task outcome later) : later.LinesHave property := by
  cases starts with
  | skipped flagged journal => exact holds.of_same rfl rfl
  | refused unflagged misdirected kind => exact holds
  | failed unflagged owns refused journal => exact holds.of_same rfl rfl
  | started unflagged owns accepted journal => exact holds.of_same rfl rfl

theorem LinesHave.waits {session later : Session δ α} {task : Task}
    {outcome : Except Fault Unit} (holds : session.LinesHave property)
    (waits : Waits session task outcome later) : later.LinesHave property := by
  have redeviced : ∀ device index slot journal,
      (session.redevice device index slot journal).LinesHave property :=
    fun _ _ _ _ => holds.of_same rfl rfl
  cases waits with
  | skipped flagged => exact holds.reported _
  | refused unflagged misdirected kind => exact holds
  | lost unflagged owns silent journal => exact .reported (redeviced _ _ _ _) _
  | finished unflagged owns collected stored journal => exact .reported (redeviced _ _ _ _) _

end Hardware

end Session

section Runs

variable [Device δ] [Allocator α] {surroundings : Board δ α → Board δ α → Prop}
  {session later : Session δ α} {task owned : Task}

theorem Reachable.linesHave {property : LineBufferCache → Bool → Prop}
    (renewed : LineBufferCache.Renewed α property) (reached : Reachable surroundings session) :
    session.LinesHave property := by
  obtain ⟨board, moments, run⟩ := reached
  exact run.invariant (fun _ _ _ _ _ => renewed.forgotten rfl _)
    (fun holds generates => holds.generates renewed generates)
    Session.LinesHave.starts Session.LinesHave.waits (fun holds => holds.commanded renewed)
    (fun holds => holds.of_same rfl rfl) (fun _ impossible => by cases impossible) session rfl

theorem Reachable.linesCurrent (reached : Reachable surroundings session) : session.LinesCurrent :=
  reached.linesHave LineBufferCache.renewed_current

variable [ExactGrants α]

/-- A device buffer that was readied for a task is as large as its line buffers ask for. -/
theorem Reachable.lines_sized (reached : Reachable surroundings session)
    (generates : Session.Generates session task (.ok owned) later)
    (unflagged : task.flags.hasError = false) :
    later.lines.size = LineBuffer.totalSize later.lines.buffers := by
  have sized := (reached.linesHave LineBufferCache.renewed_sized).generates
    LineBufferCache.renewed_sized generates
  apply sized
  rw [(generates.lines reached.linesCurrent unflagged).1]
  exact Option.some_ne_none _

/-- When the registers of a task were generated, the line buffers are where placing them from
scratch for its picture would put them, and the device buffer behind them is as large as that asks
for: after tasks of any other geometry, switches of compression and refused buffers. Tasks with error
flags are answered too, but need no line buffers. -/
theorem Reachable.lines_placed (reached : Reachable surroundings session)
    (unflagged : task.flags.hasError = false)
    (generated : Session.generate task session = .ok owned later) :
    let placed := LineBuffer.place (later.shapeOf task.coded.picture)
      (LineBufferClass.all.zip Layout.lineBufferRegisters)
    later.lines.buffers = placed ∧ later.lines.size = LineBuffer.totalSize placed := by
  have generates := Session.generate_spec session task
  rw [generated, Action.outcome_ok, Action.after_ok] at generates
  have buffers := (generates.lines reached.linesCurrent unflagged).2
  have size := reached.lines_sized generates unflagged
  rw [(reached.formed.generates generates).registers] at buffers
  exact ⟨buffers, size.trans (congrArg LineBuffer.totalSize buffers)⟩

end Runs

/-- A decoder on a board at rest that generates its first picture has line buffers of 1216 bytes. -/
theorem first_lines_placed : ∃ session later : Session SimulatedDevice Arena,
    Reachable (fun _ _ => False) session ∧
    Session.generate (.ofSize 0 64 64) session = .ok ((Task.ofSize 0 64 64).placed 0) later ∧
    later.lines.buffers = LineBuffer.place (later.shapeOf (Task.ofSize 0 64 64).coded.picture)
      (LineBufferClass.all.zip Layout.lineBufferRegisters) ∧
    later.lines.size = 1216 := by
  obtain ⟨opened, later, -, -, reached, generated, -⟩ := Session.first_picture fun _ _ => False
  obtain ⟨buffers, size⟩ := Reachable.lines_placed reached rfl generated
  have total : ∀ compressed, LineBuffer.totalSize (LineBuffer.place ⟨64, 64, 8, 1, false, compressed⟩
      (LineBufferClass.all.zip Layout.lineBufferRegisters)) = 1216 := by decide
  exact ⟨opened, later, reached, generated, buffers, size.trans (total later.compressed)⟩

/-- A task with error flags that was generated on a decoder just initialised has none of the line
buffers that its picture would need. -/
theorem skipped_lines_unplaced :
    let skipped : Task := { Task.ofSize 0 64 64 with flags := { parseError := true } }
    ∃ session later : Session SimulatedDevice Arena,
      Reachable (fun _ _ => False) session ∧
      Session.generate skipped session = .ok { skipped with slot := none } later ∧
      let placed := LineBuffer.place (later.shapeOf skipped.coded.picture)
        (LineBufferClass.all.zip Layout.lineBufferRegisters)
      ¬ (later.lines.buffers = placed ∧ later.lines.size = LineBuffer.totalSize placed) := by
  intro skipped
  obtain ⟨opened, initialised, able, -, -, -, compressed, -, -, supply⟩ :=
    @Decoder.initialise_atRest {} rfl true 1 64 64
  have run : Run (fun _ _ => False) (.idle (Board.atRest 1 64 64)) _ _ :=
    .call .nil (.initialise {} true)
  rw [Call.next_initialise, initialised, Action.after_ok] at run
  obtain ⟨journal, generated, -⟩ := @Session.generate_of_flagged _ able skipped rfl
  refine ⟨opened, _, ⟨_, _, run⟩, generated, ?_⟩
  rintro placed ⟨buffers, -⟩
  have empty : opened.lines = .empty Layout.lineBufferRegisters := congrArg Supply.lines supply
  have shape : (opened.recorded journal).shapeOf skipped.coded.picture =
      ⟨64, 64, 8, 1, false, false⟩ := Session.shapeOf_ofSize compressed 0 64 64
  simp only [placed, shape] at buffers
  have unplaced : (LineBufferCache.empty Layout.lineBufferRegisters).buffers ≠
      LineBuffer.place ⟨64, 64, 8, 1, false, false⟩
        (LineBufferClass.all.zip Layout.lineBufferRegisters) := by decide
  exact unplaced ((congrArg LineBufferCache.buffers empty).symm.trans buffers)

/-! ### What the device is told about line buffers -/

namespace LineBufferCache

/-- With the registers of the hardware no two line buffers share one. -/
theorem nodup_reg {cache : LineBufferCache}
    (registers : cache.registers = LineBufferClass.all.zip Layout.lineBufferRegisters) :
    (cache.buffers.map (·.reg)).Nodup := by
  have same : cache.buffers.map (·.reg) = cache.registers.map Prod.snd := by
    rw [LineBufferCache.registers, List.map_map]
    rfl
  rw [same, registers]
  decide

end LineBufferCache

/-- What a slot tells the device about a line buffer. If it is in use, its address register names the
device buffer, the patch table says where in it the line buffer lies, unless it is at the start, and
the table of sizes has one row for it. If it is not in use, nothing is said about it. -/
structure SlotContent.Describes (content : SlotContent) (handle : Handle) (buffer : LineBuffer) :
    Prop where
  register : (Field.word buffer.reg).get content.file =
    if buffer.size = 0 then 0 else handle.registerValue
  patch : content.patches.offsetOf? buffer.reg =
    if buffer.size = 0 ∨ buffer.offset = 0 then none else some buffer.offset
  row : LineBuffer.sizesFor content.lineBuffers buffer.reg =
    if buffer.size = 0 then [] else [buffer.size]

/-- A slot that was prepared for a task describes all line buffers that the task was given. -/
theorem Session.Prepares.describes [Allocator α] {session : Session δ α} (formed : session.Formed)
    {index : Nat} {task : Task} {content final : SlotContent} {supply : Supply α} {scratch : Buffer}
    (full : content.file.size = Layout.fileBytes)
    (prepares : Prepares session index task content (.ok ()) supply scratch final)
    (sizes : ∀ buffer ∈ supply.lines.buffers, buffer.size < Numeral.bound32) :
    ∀ buffer ∈ supply.lines.buffers, final.Describes supply.lines.handle buffer := by
  intro buffer member
  have registers := (formed.prepares prepares full).1.trans formed.registers
  have distinct := LineBufferCache.nodup_reg registers
  have sound := formed.prepares_sound prepares full
  have whole : (content.draft session.scratch).file.size = Layout.fileBytes := full
  have register : (Field.word buffer.reg).get final.file =
      if buffer.size = 0 then 0 else supply.lines.handle.registerValue := by
    rw [prepares.file]
    by_cases unused : buffer.size = 0
    · rw [if_pos unused]
      exact Job.get_lineBuffer_image_of_unused sound whole distinct member unused
    · rw [if_neg unused]
      exact Job.get_lineBuffer_image_of_mem sound whole member unused
  cases prepares with
  | ready provided built synced =>
      obtain ⟨_, patches, -, pushed, -, rfl⟩ := Draft.build_eq_ok built
      refine ⟨register, ?_, ?_⟩
      · exact Job.offsetOf?_lineBuffer sound.lines distinct pushed member
      · have small : ∀ reg ∈ Layout.lineBufferRegisters, reg < Numeral.bound32 := by decide
        exact LineBuffer.sizes_deviceList distinct
          (fun other among => small _ (sound.lines other among)) sizes member

/-- The slot that a task was generated in describes all line buffers to the device, provided their
sizes have 32 bits; what it says agrees with where they lie. Each of them starts and ends on a
multiple of 64 bytes and lies inside the device buffer, no two share a byte, and those in use tile the
device buffer. Only a task with error flags is answered without a slot. -/
theorem Reachable.line_buffers_described [Device δ] [Allocator α] [ExactGrants α]
    {surroundings : Board δ α → Board δ α → Prop} {session later : Session δ α} {task owned : Task}
    (reached : Reachable surroundings session)
    (generated : Session.generate task session = .ok owned later)
    (sizes : ∀ buffer ∈ later.lines.buffers, buffer.size < Numeral.bound32) :
    (owned.slot = none ↔ task.flags.hasError = true) ∧
    ∀ index, owned.slot = some index → ∃ slot, later.slots.get? index = some slot ∧
      later.lines.registers = LineBufferClass.all.zip Layout.lineBufferRegisters ∧
      (∀ buffer ∈ later.lines.buffers, slot.content.Describes later.lines.handle buffer ∧
        buffer.Aligned ∧ buffer.offset + buffer.size ≤ later.lines.size) ∧
      later.lines.buffers.Pairwise
        (fun a b => ∀ position, ¬ (a.Covers position ∧ b.Covers position)) ∧
      LineBuffer.Tiles 0 (later.lines.buffers.filter fun buffer => buffer.size ≠ 0)
        later.lines.size := by
  have generates := Session.generate_spec session task
  rw [generated, Action.outcome_ok, Action.after_ok] at generates
  have registers := (reached.formed.generates generates).registers
  have lines := generates.lines reached.linesCurrent
  have sized := reached.lines_sized generates
  cases generates with
  | skipped flagged journal => exact ⟨⟨fun _ => flagged, fun _ => rfl⟩, nofun⟩
  | @built unflagged unheld own slot first supply scratch content prepares journal =>
      have tiles := LineBuffer.place_tiles (session.shapeOf task.coded.picture)
        supply.lines.registers
      have aligned := LineBuffer.place_aligned (session.shapeOf task.coded.picture)
        supply.lines.registers
      have buffers : supply.lines.buffers = LineBuffer.place (session.shapeOf task.coded.picture)
        supply.lines.registers := (lines unflagged).2
      have size : supply.lines.size = LineBuffer.totalSize supply.lines.buffers := sized unflagged
      rw [← buffers] at tiles aligned
      rw [← size] at tiles
      refine ⟨⟨nofun, fun flagged => by cases unflagged.symm.trans flagged⟩, ?_⟩
      rintro index same
      obtain rfl : own = index := Option.some.inj same
      have full := (reached.formed.slots _ _ first.found).file
      refine ⟨_, SlotPool.get?_put_self first.found _, registers, fun buffer member => ?_,
        tiles.apart, tiles.used⟩
      exact ⟨prepares.describes reached.formed full sizes buffer member, aligned buffer member,
        (tiles.inside buffer member).2⟩

/-- The first picture is 64 pixels wide and high, and its line buffers are small. -/
theorem first_line_buffers_described : ∃ session later : Session SimulatedDevice Arena, ∃ slot,
    Reachable (fun _ _ => False) session ∧
    Session.generate (.ofSize 0 64 64) session = .ok ((Task.ofSize 0 64 64).placed 0) later ∧
    (∀ buffer ∈ later.lines.buffers, buffer.size < Numeral.bound32) ∧
    later.slots.get? 0 = some slot ∧
    (∀ buffer ∈ later.lines.buffers, slot.content.Describes later.lines.handle buffer) ∧
    LineBuffer.Tiles 0 (later.lines.buffers.filter fun buffer => buffer.size ≠ 0) 1216 := by
  obtain ⟨opened, later, -, -, reached, generated, -⟩ := Session.first_picture fun _ _ => False
  have generates := Session.generate_spec opened (.ofSize 0 64 64)
  rw [generated, Action.outcome_ok, Action.after_ok] at generates
  have buffers := (generates.lines reached.linesCurrent rfl).2
  have registers := (reached.formed.generates generates).registers
  rw [registers] at buffers
  have small : ∀ compressed, ∀ buffer ∈ LineBuffer.place ⟨64, 64, 8, 1, false, compressed⟩
      (LineBufferClass.all.zip Layout.lineBufferRegisters), buffer.size < Numeral.bound32 := by
    decide
  have total : ∀ compressed, LineBuffer.totalSize (LineBuffer.place ⟨64, 64, 8, 1, false, compressed⟩
      (LineBufferClass.all.zip Layout.lineBufferRegisters)) = 1216 := by decide
  have sizes : ∀ buffer ∈ later.lines.buffers, buffer.size < Numeral.bound32 := by
    rw [buffers]
    exact small later.compressed
  obtain ⟨-, described⟩ := Reachable.line_buffers_described reached generated sizes
  obtain ⟨slot, found, -, every, -, tiles⟩ := described 0 rfl
  have size := reached.lines_sized generates rfl
  rw [buffers] at size
  rw [size.trans (total later.compressed)] at tiles
  exact ⟨opened, later, slot, reached, generated, sizes, found, fun buffer member =>
    (every buffer member).1, tiles⟩

end VideoAccel
