import Mathlib.Data.List.Permutation
import VideoAccel.Proofs.Device.Requests
import VideoAccel.Proofs.Pipeline.Flights
import VideoAccel.Proofs.Pipeline.Refusals

/-!
What the device is asked.

Two calls turn to the device. A `start` whose task has built registers hands over its slot: five
sections of registers, the patches, the rows of line buffers, and the order to start. A `wait` for a
task that was submitted polls, and reads the interrupt status if the device answers. No other call
asks for anything, so that the requests on record are one such block after the other, and the calls
say which (`Run.requests_in_blocks`). After a block of the first kind the sections that are sent show
the register file of the slot, and nothing else in the registers has changed.

The rows of line buffers are sorted by size, but a row has only 32 bits for a size. So the sizes that
the device is told need not fall, as those of `deep_picture_unsorted` do not.
-/

namespace VideoAccel

/-! ### What a slot announces -/

/-- The rows tell the device of the line buffers in use, in the order of their sizes. The sizes that
the rows show fall as well if 32 bits are enough to tell which of two is larger. -/
structure LineBuffer.Tabulated (buffers : List LineBuffer) (rows : List LineBufferEntry) : Prop where
  order : ∃ ordered : List LineBuffer,
    ordered.Perm (buffers.filter fun buffer => decide (0 < buffer.size)) ∧
    ordered.Pairwise (fun a b => b.size ≤ a.size) ∧ rows = ordered.map entry
  falling : (rows.Pairwise fun a b => b.size.toNat ≤ a.size.toNat) ↔
    ∀ a ∈ buffers, ∀ b ∈ buffers, 0 < b.size → b.size ≤ a.size →
      b.size % Numeral.bound32 ≤ a.size % Numeral.bound32

theorem LineBuffer.tabulated_deviceList (buffers : List LineBuffer) :
    Tabulated buffers (deviceList buffers) :=
  ⟨deviceList_ordered buffers, deviceList_falling_iff buffers⟩

/-- The line buffers that a picture needs, as they are placed from scratch. -/
def Session.linesFor {δ α : Type} (session : Session δ α) (picture : Picture) : List LineBuffer :=
  LineBuffer.place (session.shapeOf picture)
    (LineBufferClass.all.zip Layout.lineBufferRegisters)

/-- The content was built in the slot by one of the calls of `generate` among the moments, for a task
whose picture needs the line buffers. -/
def SlotContent.BuiltIn {δ α : Type} [Allocator α] (content : SlotContent) (index : Nat)
    (moments : List (Moment δ α)) (buffers : List LineBuffer) : Prop :=
  ∃ before task origin, ⟨.working before, .generate task⟩ ∈ moments ∧
    Session.generate task before = .ok { task with slot := some index } origin ∧
    origin.slots.get? index = some ⟨true, .built, content⟩ ∧ content.task = some task.id ∧
    buffers = before.linesFor task.coded.picture

theorem SlotContent.BuiltIn.append {δ α : Type} [Allocator α] {content : SlotContent} {index : Nat}
    {moments : List (Moment δ α)} {buffers : List LineBuffer}
    (built : content.BuiltIn index moments buffers) (more : List (Moment δ α)) :
    content.BuiltIn index (moments ++ more) buffers := by
  obtain ⟨before, task, origin, member, rest⟩ := built
  exact ⟨before, task, origin, List.mem_append_left more member, rest⟩

namespace Session

variable {δ α : Type} [Allocator α] {session origin : Session δ α} {task : Task} {index : Nat}

theorem Prepares.patches {content final : SlotContent} {supply : Supply α} {scratch : Buffer}
    (prepares : Prepares session index task content (.ok ()) supply scratch final) :
    final.patches.Sound := by
  cases prepares with
  | ready granted built synced =>
      obtain ⟨_, patches, -, pushed, -, rfl⟩ := Draft.build_eq_ok built
      exact PatchTable.Sound.empty.pushAll pushed

/-- The rows of a slot that was prepared for a task are those of the line buffers of its picture. -/
theorem Prepares.rows (formed : session.Formed) (current : session.LinesCurrent)
    {content final : SlotContent} {supply : Supply α} {scratch : Buffer}
    (prepares : Prepares session index task content (.ok ()) supply scratch final) :
    final.lineBuffers = LineBuffer.deviceList (session.linesFor task.coded.picture) := by
  cases prepares with
  | ready granted built synced =>
      exact congrArg LineBuffer.deviceList (lines_of_granted formed current granted).2

/-- What a call of `generate` built has its patches in order, and its rows tell of the line buffers that
the picture needs. -/
theorem Builds.announces (formed : session.Formed) (current : session.LinesCurrent)
    {content : SlotContent} (builds : session.Builds task index content origin) :
    content.patches.Sound ∧
      LineBuffer.Tabulated (session.linesFor task.coded.picture) content.lineBuffers := by
  have generates := generate_spec session task
  rw [builds.generated, Action.outcome_ok, Action.after_ok] at generates
  have found := builds.found
  cases generates with
  | built unflagged unheld first prepares journal =>
      cases (SlotPool.get?_put_self first.found _).symm.trans found
      refine ⟨prepares.patches, ?_⟩
      rw [prepares.rows formed current]
      exact LineBuffer.tabulated_deviceList _

/-! ### The slot a task is started or waited for in -/

section Owning

variable {δ α : Type} {session : Session δ α} {task : Task} {stage : Stage}

/-- What the slot holds that the task owns in the given stage, provided the task has no error
flags. -/
def ownContent? (session : Session δ α) (task : Task) (stage : Stage) : Option SlotContent :=
  if task.flags.hasError then none
  else match Action.outcome (ownedSlot task stage session) with
    | .ok index => (session.slots.get? index).map (·.content)
    | .error _ => none

theorem ownContent?_of_flagged (flagged : task.flags.hasError = true) :
    session.ownContent? task stage = none :=
  if_pos flagged

theorem Owns.ownContent? (unflagged : task.flags.hasError = false) {index : Nat}
    {slot : Slot SlotContent} (owns : session.Owns task stage index slot) :
    session.ownContent? task stage = some slot.content := by
  rw [Session.ownContent?, unflagged, owns.passes, Action.outcome_ok]
  simp only [owns.found, Bool.false_eq_true, if_false, Option.map_some]

theorem ownContent?_of_misdirected
    (misdirected : ∀ index slot, ¬ session.Owns task stage index slot) :
    session.ownContent? task stage = none := by
  rcases ownedSlot_cases session task stage with ⟨index, slot, owns, -⟩ | ⟨-, fault, -, ran⟩
  · exact absurd owns (misdirected index slot)
  · rw [ownContent?, ran, Action.outcome_error, ite_self]

end Owning

end Session

/-! ### What one call asks -/

/-- The block of requests that the call makes, if it makes one. -/
def Moment.block? {α : Type} (moment : Moment SimulatedDevice α) : Option RequestBlock := do
  let session ← moment.before.session?
  match moment.call with
  | .start task => (session.ownContent? task .built).map .submission
  | .wait task =>
      (session.ownContent? task .submitted).map fun _ => .poll session.board.device.answers
  | _ => none

/-- What a call does to the device, by the block of requests that it makes. -/
inductive Decoder.Asks {α : Type} (before after : Decoder SimulatedDevice α) :
    Option RequestBlock → Prop where
  | nothing (same : after.board.device = before.board.device) : Asks before after none
  | submission {first session : Session SimulatedDevice α} {index : Nat} {content : SlotContent}
      (began : before = .working first)
      (built : first.slots.get? index = some ⟨true, .built, content⟩)
      (reached : after = .working session)
      (found : session.slots.get? index = some ⟨true, .submitted, content⟩)
      (full : content.file.size = Layout.fileBytes)
      (taken : session.board.device = before.board.device.taking content) :
      Asks before after (some (.submission content))
  | answered {file status : Bytes} {device : SimulatedDevice} (full : file.size = Layout.fileBytes)
      (collected : Session.collect file before.board.device = .ok status device)
      (left : after.board.device = device) : Asks before after (some (.poll true))
  | silent (polled : after.board.device = before.board.device.record .poll) :
      Asks before after (some (.poll false))

namespace Decoder

variable {α : Type} {before after : Decoder SimulatedDevice α} {block : Option RequestBlock}

/-- The requests of the block come after all others. -/
theorem Asks.requests (asks : Asks before after block) : after.board.device.requests.toList =
    before.board.device.requests.toList ++ block.toList.flatMap RequestBlock.requests := by
  cases asks with
  | nothing same =>
      rw [same]
      exact (List.append_nil _).symm
  | @submission first session index content began built reached found full taken =>
      subst reached
      show session.board.device.requests.toList = _
      rw [taken, SimulatedDevice.requests_taking, SimulatedDevice.submission_of_full full,
        Array.toList_append]
      exact congrArg _ (List.append_nil _).symm
  | answered full collected left =>
      rw [left, SimulatedDevice.requests_collect collected,
        SimulatedDevice.size_view_interruptStatus full, Array.toList_append]
      rfl
  | silent polled =>
      rw [polled]
      exact Array.toList_push

/-- No call changes how many registers there are. -/
theorem Asks.space (asks : Asks before after block) :
    after.board.device.registers.size = before.board.device.registers.size := by
  cases asks with
  | nothing same => rw [same]
  | @submission first session index content began built reached found full taken =>
      subst reached
      show session.board.device.registers.size = _
      rw [taken, SimulatedDevice.registers_taking, Section.size_copyAll]
  | answered full collected left =>
      obtain ⟨completion, collects, -⟩ := SimulatedDevice.collect_eq_ok full collected
      rw [left, collects.registers, Completion.size_apply]
  | silent polled =>
      rw [polled]
      rfl

/-! ### Calls that leave the device alone -/

section Idle

variable {δ : Type} [Allocator α]

theorem device_released (decoder : Decoder δ α) :
    decoder.released.board.device = decoder.board.device := by
  cases decoder with
  | idle board => rfl
  | working session =>
      show session.close.device = session.board.device
      unfold Session.close
      simp only
      split <;> rfl

theorem device_takeScratch (layout : ScratchLayout) (board : Board δ α) :
    (Action.after (takeScratch layout board)).device = board.device := by
  have takes := takeScratch_spec layout board
  generalize Action.outcome (takeScratch layout board) = outcome at takes
  generalize Action.after (takeScratch layout board) = left at takes
  cases takes with
  | refused refuses => rfl
  | overrun granted overruns => rfl
  | unsynced granted stored refuses => rfl
  | taken granted stored passed journal => rfl

end Idle

end Decoder

/-! ### The three calls of a task's life -/

namespace Session

variable {α : Type} {session later : Session SimulatedDevice α} {task : Task}

theorem Starts.asks {outcome : Except Fault Unit} (formed : session.Formed)
    (starts : Starts session task outcome later) :
    Decoder.Asks (.working session) (.working later)
      (Moment.block? ⟨.working session, .start task⟩) := by
  have what : Moment.block? ⟨.working session, .start task⟩ =
      (session.ownContent? task .built).map .submission := rfl
  cases starts with
  | skipped flagged journal =>
      rw [what, ownContent?_of_flagged flagged]
      exact .nothing rfl
  | refused unflagged misdirected kind =>
      rw [what, ownContent?_of_misdirected misdirected]
      exact .nothing rfl
  | @failed unflagged index slot owns fault device refused journal =>
      cases (SimulatedDevice.transmit_eq slot.content _).symm.trans refused
  | @started unflagged index slot owns device accepted journal =>
      rw [what, owns.ownContent? unflagged]
      have built : session.slots.get? index = some ⟨true, .built, slot.content⟩ := by
        rw [owns.found, ← owns.taken, ← owns.stage]
      exact .submission rfl built rfl (SlotPool.get?_put_self owns.found _)
        (formed.slots index slot owns.found).file (SimulatedDevice.eq_taking accepted)

theorem Waits.asks {outcome : Except Fault Unit} (formed : session.Formed)
    (waits : Waits session task outcome later) :
    Decoder.Asks (.working session) (.working later)
      (Moment.block? ⟨.working session, .wait task⟩) := by
  have what : Moment.block? ⟨.working session, .wait task⟩ =
      (session.ownContent? task .submitted).map fun _ => .poll session.board.device.answers := rfl
  cases waits with
  | skipped flagged =>
      rw [what, ownContent?_of_flagged flagged]
      exact .nothing (reported_device ..)
  | refused unflagged misdirected kind =>
      rw [what, ownContent?_of_misdirected misdirected]
      exact .nothing rfl
  | @lost unflagged index slot owns fault device silent journal =>
      obtain ⟨why, -, rfl⟩ :=
        SimulatedDevice.collect_eq_error (formed.slots index slot owns.found).file silent
      rw [what, owns.ownContent? unflagged, Option.map_some, SimulatedDevice.answers_of_silent why]
      exact .silent (reported_device ..)
  | @finished unflagged index slot owns status file device collected stored journal =>
      have full := (formed.slots index slot owns.found).file
      obtain ⟨completion, collects, -⟩ := SimulatedDevice.collect_eq_ok full collected
      rw [what, owns.ownContent? unflagged, Option.map_some,
        SimulatedDevice.answers_of_collects collects]
      exact .answered full collected (reported_device ..)

end Session

section Runs

variable {α : Type} [Allocator α]

/-- A call of a decoder asks for the block that can be read off it, and for nothing else. -/
theorem Call.asks (call : Call) {decoder : Decoder SimulatedDevice α}
    (formed : ∀ session, decoder = .working session → session.Formed) :
    decoder.Asks (call.next decoder) (Moment.block? ⟨decoder, call⟩) := by
  have leads := call.next_spec decoder
  generalize call.next decoder = final at leads ⊢
  -- Taking the scratch buffer leaves the device alone, whether or not it can be had.
  have steady : ∀ layout, (Action.after (Decoder.takeScratch layout decoder.released.board)).device =
      decoder.board.device := fun layout =>
    (Decoder.device_takeScratch layout _).trans (Decoder.device_released decoder)
  have unasked : ∀ config reporting,
      Moment.block? ⟨decoder, .initialise config reporting⟩ = none := by
    intro config reporting
    cases decoder <;> rfl
  cases leads with
  | started ends => exact ends.asks (formed _ rfl)
  | waited ends => exact ends.asks (formed _ rfl)
  | generated ends => exact .nothing ends.device
  | commanded => exact .nothing rfl
  | noted acknowledged => rcases acknowledged with rfl | rfl <;> exact .nothing rfl
  | @released session => exact .nothing (Decoder.device_released (.working session))
  | ignored other => exact .nothing rfl
  | refused invalid =>
      rw [unasked]
      exact .nothing rfl
  | @failed _ config _ _ _ _ taken =>
      rw [unasked]
      have same := steady (.of scratchSizes config.slotCount)
      rw [taken] at same
      exact .nothing same
  | @opened _ config _ _ _ _ taken =>
      rw [unasked]
      have same := steady (.of scratchSizes config.slotCount)
      rw [taken] at same
      exact .nothing same

/-- A board whose device was not asked for anything yet. -/
structure Board.Unasked (board : Board SimulatedDevice α) : Prop where
  space : board.device.registers.size = SimulatedDevice.registerSpace
  requests : board.device.requests = #[]

/-- A change of the board on which nobody asks the device for anything. The device may be told how
tasks will end and to refuse its polls, and the allocator to refuse. -/
structure Board.Quiet (before after : Board SimulatedDevice α) : Prop where
  space : after.device.registers.size = before.device.registers.size
  requests : after.device.requests = before.device.requests

variable {board : Board SimulatedDevice α} {moments : List (Moment SimulatedDevice α)}
  {decoder : Decoder SimulatedDevice α} {session : Session SimulatedDevice α}

/-- Along a run every call asks for its block, and the blocks make up the requests on record. -/
theorem Run.asks (unasked : board.Unasked)
    (run : Run Board.Quiet (.idle board) moments decoder) :
    decoder.board.device.registers.size = SimulatedDevice.registerSpace ∧
    decoder.board.device.requests.toList =
      (moments.filterMap Moment.block?).flatMap RequestBlock.requests ∧
    ∀ moment ∈ moments,
      moment.before.board.device.registers.size = SimulatedDevice.registerSpace ∧
      moment.before.Asks (moment.call.next moment.before) moment.block? := by
  induction run with
  | nil =>
      refine ⟨unasked.space, ?_, fun _ impossible => absurd impossible List.not_mem_nil⟩
      exact congrArg Array.toList unasked.requests
  | @call moments decoder earlier call ih =>
      obtain ⟨space, requests, each⟩ := ih
      have asks : decoder.Asks (call.next decoder) (Moment.block? ⟨decoder, call⟩) := by
        refine call.asks ?_
        rintro session rfl
        exact earlier.formed fun _ impossible => by cases impossible
      refine ⟨asks.space.trans space, ?_, fun moment member => ?_⟩
      · rw [asks.requests, requests, Moment.filterMap_concat, List.flatMap_append]
      · rcases List.mem_append.mp member with before | last
        · exact each moment before
        · rw [List.mem_singleton.mp last]
          exact ⟨space, asks⟩
  | @outside moments decoder earlier other allowed ih =>
      obtain ⟨space, requests, each⟩ := ih
      have same : (decoder.mapBoard fun _ => other).board = other := by cases decoder <;> rfl
      rw [same]
      refine ⟨allowed.space.trans space, ?_, each⟩
      rw [allowed.requests]
      exact requests

/-- What a run submits was built before, in the slot that it is submitted from, and is in order. -/
theorem Run.submitted_content {surroundings : Board SimulatedDevice α → Board SimulatedDevice α → Prop}
    (run : Run surroundings (.idle board) moments (.working session)) {index : Nat}
    {content : SlotContent} (built : session.slots.get? index = some ⟨true, .built, content⟩) :
    content.patches.Sound ∧ ∃ buffers, content.BuiltIn index moments buffers ∧
      LineBuffer.Tabulated buffers content.lineBuffers := by
  obtain ⟨before, task, origin, member, builds⟩ := run.slot_built session rfl index _ built rfl
  obtain ⟨earlier, later, split⟩ := List.append_of_mem member
  have reached : Reachable surroundings before := ⟨board, earlier, run.up_to split⟩
  obtain ⟨patches, rows⟩ := builds.announces reached.formed reached.linesCurrent
  exact ⟨patches, _, ⟨before, task, origin, member, builds.generated, builds.found, builds.serves, rfl⟩,
    rows⟩

/-- What a submission of a run hands over was built in the slot by an earlier call and is in order, and
the device has taken it. -/
theorem Run.submits (unasked : board.Unasked) (run : Run Board.Quiet (.idle board) moments decoder)
    {earlier later : List (Moment SimulatedDevice α)} {moment : Moment SimulatedDevice α}
    (split : moments = earlier ++ moment :: later) {content : SlotContent}
    (asked : moment.block? = some (.submission content)) :
    content.patches.Sound ∧ ∃ session index buffers,
      moment.call.next moment.before = .working session ∧
      session.slots.get? index = some ⟨true, .submitted, content⟩ ∧
      content.BuiltIn index earlier buffers ∧
      LineBuffer.Tabulated buffers content.lineBuffers ∧
      SimulatedDevice.Submits content moment.before.board.device session.board.device := by
  obtain ⟨-, -, each⟩ := run.asks unasked
  obtain ⟨space, asks⟩ := each moment (split ▸ List.mem_append_right _ List.mem_cons_self)
  rw [asked] at asks
  cases asks with
  | @submission first session index _ began built reached found full taken =>
      have before := run.up_to split
      rw [began] at before
      obtain ⟨patches, buffers, builtIn, rows⟩ := before.submitted_content built
      refine ⟨patches, session, index, buffers, reached, found, builtIn, rows, ?_⟩
      rw [taken]
      exact SimulatedDevice.submits_taking full space

/-- Whatever is called from the first use of a device on, what it was asked is one block of requests
after the other: a submission for every `start` whose task has built registers, and a poll for every
`wait` whose task was submitted, with a look at the interrupt status if the device answered. No
section that is written touches the interrupt status. Every table of patches holds at most sixteen,
for different registers and none for an offset of zero. What is submitted from a slot was built there
by an earlier `generate`, and its rows tell of the line buffers in use of the picture that this call was
given, the largest first; the sizes in the rows fall exactly if no line buffer in use is smaller than
another and yet has more in the last 32 bits of its size. Right after a submission the sections that
are sent show the register file of the submitted slot, and the other registers are as before. -/
theorem Run.requests_in_blocks (unasked : board.Unasked)
    (run : Run Board.Quiet (.idle board) moments decoder) :
    let requests := decoder.board.device.requests.toList
    requests = (moments.filterMap Moment.block?).flatMap RequestBlock.requests ∧
    (∀ offset length, .writeRegisters offset length ∈ requests →
      offset + length ≤ Layout.interruptStatus.offset ∨ Layout.interruptStatus.stop ≤ offset) ∧
    (∀ entries, .patches entries ∈ requests → PatchTable.Sound ⟨entries⟩) ∧
    (∀ rows, .lineBuffers rows ∈ requests →
      ∃ (content : SlotContent) (index : Nat) (buffers : List LineBuffer),
        content.BuiltIn index moments buffers ∧ content.lineBuffers = rows ∧
        LineBuffer.Tabulated buffers rows) ∧
    ∀ earlier moment later, moments = earlier ++ moment :: later →
      ∀ content, moment.block? = some (.submission content) →
      ∃ session index buffers, moment.call.next moment.before = .working session ∧
        session.slots.get? index = some ⟨true, .submitted, content⟩ ∧
        content.BuiltIn index earlier buffers ∧
        LineBuffer.Tabulated buffers content.lineBuffers ∧
        SimulatedDevice.Submits content moment.before.board.device session.board.device := by
  intro requests
  obtain ⟨-, recorded, -⟩ := run.asks unasked
  have origin : ∀ request ∈ requests, ∃ moment ∈ moments, ∃ block,
      moment.block? = some block ∧ request ∈ block.requests := by
    intro request member
    rw [show requests = _ from recorded] at member
    obtain ⟨block, among, mine⟩ := List.mem_flatMap.mp member
    obtain ⟨moment, known, asked⟩ := List.mem_filterMap.mp among
    exact ⟨moment, known, block, asked, mine⟩
  refine ⟨recorded, ?_, ?_, ?_, ?_⟩
  · intro offset length member
    obtain ⟨moment, -, block, -, mine⟩ := origin _ member
    obtain ⟨sec, sent, rfl, rfl⟩ := RequestBlock.section_of_mem_requests mine
    have apart : ∀ sec ∈ Layout.written, sec.offset + sec.size ≤ Layout.interruptStatus.offset ∨
        Layout.interruptStatus.stop ≤ sec.offset := by decide
    exact apart sec sent
  · intro entries member
    obtain ⟨moment, known, block, asked, mine⟩ := origin _ member
    obtain ⟨content, rfl, rfl⟩ := RequestBlock.patches_of_mem_requests mine
    obtain ⟨earlier, later, split⟩ := List.append_of_mem known
    exact (run.submits unasked split asked).1
  · intro rows member
    obtain ⟨moment, known, block, asked, mine⟩ := origin _ member
    obtain ⟨content, rfl, rfl⟩ := RequestBlock.lineBuffers_of_mem_requests mine
    obtain ⟨earlier, later, split⟩ := List.append_of_mem known
    obtain ⟨-, session, index, buffers, -, -, built, tabulated, -⟩ := run.submits unasked split asked
    rw [split]
    exact ⟨content, index, buffers, built.append _, rfl, tabulated⟩
  · intro earlier moment later split content asked
    exact (run.submits unasked split asked).2

end Runs

theorem Board.Unasked.atRest (slots width height : Nat) :
    (Board.atRest slots width height).Unasked :=
  ⟨Bytes.size_zeros _, rfl⟩

/-- A task for a picture of one macroblock whose luma samples have the given depth. -/
def Task.ofDepth (id lumaDepth : Nat) : Task :=
  { Task.ofSize id 16 16 with coded := { picture := { sequence := { lumaDepth } } } }

theorem Session.shapeOf_ofDepth {δ α : Type} {session : Session δ α}
    (uncompressed : session.compressed = false) (id lumaDepth : Nat) :
    session.shapeOf (Task.ofDepth id lumaDepth).coded.picture =
      ⟨16, 16, lumaDepth, 1, false, false⟩ := by
  unfold shapeOf
  rw [uncompressed]
  rfl

/-- A picture of absurd depth needs a line buffer of two to the 32 and 64 bytes, and two of 128. The
device is told 64, 128 and 128, in this order. -/
theorem deep_picture_unsorted : ∃ moments, ∃ session : Session SimulatedDevice Arena, ∃ content,
    (Board.atRest 1 64 64).Unasked ∧
    Run Board.Quiet (.idle (Board.atRest 1 64 64)) moments (.working session) ∧
    session.board.device.requests.toList = (RequestBlock.submission content).requests ∧
    content.lineBuffers = [⟨138, 64⟩, ⟨135, 128⟩, ⟨137, 128⟩] := by
  obtain ⟨opened, initialised, able, slots, -, -, compressed, -⟩ :=
    @Decoder.initialise_atRest {} rfl true 1 64 64
  have run : Run Board.Quiet (.idle (Board.atRest 1 64 64)) _ _ :=
    .call .nil (.initialise {} true)
  rw [Call.next_initialise, initialised, Action.after_ok] at run
  have reached : Reachable Board.Quiet opened := ⟨_, _, run⟩
  let task := Task.ofDepth 0 357913942
  have shape : opened.shapeOf task.coded.picture = ⟨16, 16, 357913942, 1, false, false⟩ :=
    Session.shapeOf_ofDepth compressed 0 _
  -- Nothing stands in the way of the task's registers.
  have unheld : ¬ opened.AlreadyHolds task :=
    Session.not_alreadyHolds_of_unheld fun _ => nofun
  have first : opened.slots.FirstFree 0 ⟨false, .idle, .fresh {}⟩ := by
    rw [slots]
    exact SlotPool.ofDepth_firstFree (by decide) _
  have free := Session.not_busy_of_firstFree first
  have fed : ¬ opened.Starves task.coded.picture :=
    Session.not_starves_of_willing able.willing.memory _
  have within : ¬ opened.Overreaches task.coded.picture := by
    rw [Session.Overreaches, shape]
    decide
  have answered := Session.answered_of_whole reached.formed reached.linesCurrent reached.whole
    (show task.flags.hasError = false from rfl)
  obtain ⟨index, -, -, -, outcome, -⟩ := answered.built unheld free fed within
  have generates := Session.generate_spec opened task
  rw [outcome] at generates
  have generated := run.call (.generate task)
  rw [Call.next_generate] at generated
  generalize Action.after (Session.generate task opened) = built at generates generated
  cases generates with
  | @built unflagged _ _ _ taken supply scratch content prepares journal =>
      let built := opened.settle index ⟨true, .built, content⟩ supply scratch journal
      have owns : built.Owns (task.placed index) .built index ⟨true, .built, content⟩ :=
        ⟨rfl, SlotPool.get?_put_self taken.found _, rfl, prepares.serves, rfl⟩
      have started := generated.call (.start (task.placed index))
      rw [Call.next_start] at started
      obtain ⟨requests, -⟩ := started.requests_in_blocks (.atRest 1 64 64)
      have rows := prepares.rows reached.formed reached.linesCurrent
      rw [Session.linesFor, shape] at rows
      have asked : Moment.block? ⟨.working built, .start (task.placed index)⟩ =
          some (.submission content) := by
        show (built.ownContent? _ _).map _ = _
        rw [owns.ownContent? (by exact unflagged)]
        rfl
      refine ⟨_, _, content, .atRest 1 64 64, started, requests.trans ?_, rows.trans (by cbv)⟩
      rw [Moment.filterMap_concat, asked]
      exact List.append_nil _

end VideoAccel
