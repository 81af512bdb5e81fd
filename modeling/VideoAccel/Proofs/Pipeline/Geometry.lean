import VideoAccel.Proofs.Pipeline.Caches
import VideoAccel.Proofs.Pipeline.Progress
import VideoAccel.Proofs.Program.Geometry

/-!
What the hardware is told about the output buffer.

Once a task was generated, its slot shows the strides of its output buffer as the picture store has them
at that moment, with the stride rule that commands have left in force (`Reachable.strides_described`).
This is so exactly where the values fit their fields before they are kept to 32 bits; a value that fits
only because it was cut shows something else (`large_output_undescribed`).
-/

namespace VideoAccel

variable {δ α : Type}

/-- The registers show the output that a task goes to: nothing where the picture store has no buffer, and
else, exactly as long as the values fit, its strides, or those of the compressed picture. -/
structure Layout.ShowsOutput (pool : FramePool) (compressed : Bool) (task : Task) (file : Bytes) :
    Prop where
  missing : pool.frame? task.outputSlot = none → ShowsNoOutput file
  plain : compressed = false → ∀ buffer, pool.frame? task.outputSlot = some buffer →
    (ShowsPlain buffer task.coded.picture.sequence.chroma file ↔
      pool.FitsPlain task.coded.picture.sequence.chroma)
  compressed : compressed = true → ∀ buffer, pool.frame? task.outputSlot = some buffer →
    (ShowsCompressed buffer file ↔ buffer.FitsCompressed)

/-- A slot that was prepared for a task shows its output. -/
theorem Session.Prepares.showsOutput [Allocator α] {session : Session δ α} (formed : session.Formed)
    {index : Nat} {task : Task} {content final : SlotContent} {supply : Supply α} {scratch : Buffer}
    (full : content.file.size = Layout.fileBytes)
    (prepares : Prepares session index task content (.ok ()) supply scratch final) :
    Layout.ShowsOutput session.board.frames session.compressed task final.file := by
  have sound := formed.prepares_sound prepares full
  have whole : (content.draft session.scratch).file.size = Layout.fileBytes := full
  rw [prepares.file]
  exact
    { missing := Job.showsNoOutput_image sound whole
      plain := fun plain buffer found => ⟨FramePool.fitsPlain_of_shows found,
        Job.showsPlain_image sound whole rfl found plain⟩
      compressed := fun compressed buffer found => ⟨FrameBuffer.fitsCompressed_of_shows,
        Job.showsCompressed_image sound whole found compressed⟩ }

/-- The slot that a task was generated in shows its output, as the picture store has it afterwards. -/
theorem Session.Formed.generated_showsOutput [Allocator α] {session later : Session δ α}
    (formed : session.Formed) {task owned : Task}
    (generated : Session.generate task session = .ok owned later) {index : Nat}
    (owns : owned.slot = some index) :
    ∃ slot, later.slots.get? index = some slot ∧
      Layout.ShowsOutput later.board.frames later.compressed task slot.content.file := by
  have generates := Session.generate_spec session task
  rw [generated, Action.outcome_ok, Action.after_ok] at generates
  cases generates with
  | skipped flagged journal => cases owns
  | @built unflagged unheld own slot first supply scratch content prepares journal =>
      obtain rfl : own = index := Option.some.inj owns
      have full := (formed.slots _ _ first.found).file
      exact ⟨_, SlotPool.get?_put_self first.found _, prepares.showsOutput formed full⟩

/-- The slot that a task was generated in describes its output buffer to the device, whatever the size,
format and stride rule of the pictures, the chroma format and the compression, exactly as long as the
values fit their fields before they are kept to 32 bits; pictures of at most 4096 by 2304 pixels always
do. Only a task with error flags is answered without a slot. -/
theorem Reachable.strides_described [Device δ] [Allocator α]
    {surroundings : Board δ α → Board δ α → Prop} {session later : Session δ α} {task owned : Task}
    (reached : Reachable surroundings session)
    (generated : Session.generate task session = .ok owned later) :
    (owned.slot = none ↔ task.flags.hasError = true) ∧
    (∀ index, owned.slot = some index → ∃ slot, later.slots.get? index = some slot ∧
      Layout.ShowsOutput later.board.frames later.compressed task slot.content.file) ∧
    ∀ pool : FramePool, pool.width ≤ 4096 → pool.height ≤ 2304 →
      (∀ chroma, pool.FitsPlain chroma) ∧
        ∀ slot buffer, pool.frame? slot = some buffer → buffer.FitsCompressed := by
  refine ⟨?_, fun index owns => ?_, fun pool width height => ⟨FramePool.fitsPlain width height,
    fun slot buffer found => FramePool.fitsCompressed width height found⟩⟩
  · have generates := Session.generate_spec session task
    rw [generated, Action.outcome_ok, Action.after_ok] at generates
    cases generates with
    | skipped flagged journal => exact ⟨fun _ => flagged, fun _ => rfl⟩
    | built unflagged unheld first prepares journal =>
        exact ⟨nofun, fun flagged => by cases unflagged.symm.trans flagged⟩
  · exact reached.formed.generated_showsOutput generated owns

/-- A decoder that has not been given a picture yet generates one of 64 by 64 pixels. -/
theorem Session.Able.first_generated {opened : Session SimulatedDevice Arena} (able : opened.Able)
    (slots : opened.slots = .ofDepth 3 fun _ => .fresh {}) :
    ∃ later, Session.generate (.ofSize 0 64 64) opened =
        .ok ((Task.ofSize 0 64 64).placed 0) later ∧
      later.compressed = opened.compressed ∧ later.board.frames = opened.board.frames := by
  have free : opened.slots.FirstFree 0 ⟨false, .idle, .fresh {}⟩ := by
    rw [slots]
    exact SlotPool.ofDepth_firstFree (by decide) _
  have low : ∀ compressed, ∀ buffer ∈ LineBuffer.place ⟨64, 64, 8, 1, false, compressed⟩
      (LineBufferClass.all.zip Layout.lineBufferRegisters), buffer.offset < Numeral.bound32 := by
    decide
  obtain ⟨supply, scratch, content, journal, -, generated, -⟩ :=
    @Session.generate_of_able _ able (.ofSize 0 64 64) rfl (fun _ => nofun) _ _ free
      (low opened.compressed)
  exact ⟨_, generated, rfl, rfl⟩

/-- The pictures are 100 pixels wide and 50 high. As they are, their lines lie 112 bytes apart and their
planes have 64 lines; once a command asks for compression, a header of two units is shown, and the payload
starts on the second page. -/
theorem first_strides_described :
    (∃ session later : Session SimulatedDevice Arena, ∃ slot, Reachable (fun _ _ => False) session ∧
      Session.generate (.ofSize 0 64 64) session = .ok ((Task.ofSize 0 64 64).placed 0) later ∧
      later.slots.get? 0 = some slot ∧
      16 * (Layout.lumaStride.get slot.content.file).toNat = 112 ∧
      16 * (Layout.lumaSize.get slot.content.file).toNat = 112 * 64) ∧
    ∃ session later : Session SimulatedDevice Arena, ∃ slot, Reachable (fun _ _ => False) session ∧
      Session.generate (.ofSize 0 64 64) session = .ok ((Task.ofSize 0 64 64).placed 0) later ∧
      later.slots.get? 0 = some slot ∧
      64 * (Layout.lumaStride.get slot.content.file).toNat = 128 ∧
      512 ≤ 16 * (Layout.payloadOffset.get slot.content.file).toNat := by
  obtain ⟨opened, initialised, able, slots, -, frames, compressed, -, -, -⟩ :=
    @Decoder.initialise_atRest {} rfl true 1 100 50
  have run : Run (fun _ _ => False) (.idle (Board.atRest 1 100 50)) _ _ :=
    .call .nil (.initialise {} true)
  rw [Call.next_initialise, initialised, Action.after_ok] at run
  constructor
  · obtain ⟨later, generated, compressed', frames'⟩ := able.first_generated slots
    have reached : Reachable (fun _ _ => False) opened := ⟨_, _, run⟩
    obtain ⟨-, described, fitting⟩ := Reachable.strides_described reached generated
    obtain ⟨slot, found, shows⟩ := described 0 rfl
    rw [frames', frames, compressed', compressed] at shows
    have plain := (shows.plain rfl _ rfl).mpr ((fitting _ (by decide) (by decide)).1 _)
    exact ⟨opened, later, slot, reached, generated, found, plain.luma, plain.size⟩
  · obtain ⟨stride, journal, commanded⟩ := Session.control_run (.setFormat .nv12 true) opened
    have command : Run (fun _ _ => False) (.idle (Board.atRest 1 100 50)) _ _ :=
      .call run (.control (.setFormat .nv12 true))
    rw [Call.next_control, commanded, Action.after_ok] at command
    have able' := able.commanded true stride journal
    obtain ⟨later, generated, compressed', frames'⟩ := able'.first_generated slots
    have reached : Reachable (fun _ _ => False) (opened.commanded true stride journal) :=
      ⟨_, _, command⟩
    obtain ⟨-, described, fitting⟩ := Reachable.strides_described reached generated
    obtain ⟨slot, found, shows⟩ := described 0 rfl
    have pool : later.board.frames = { FramePool.ofSize 1 100 50 .nv12 with stride } := by
      rw [frames', ← frames]
      rfl
    have width : later.board.frames.width = 100 := congrArg FramePool.width pool
    have height : later.board.frames.height = 50 := congrArg FramePool.height pool
    have output : ∃ buffer, later.board.frames.frame? 0 = some buffer := by
      rw [pool]
      exact ⟨_, rfl⟩
    obtain ⟨buffer, there⟩ := output
    obtain ⟨⟨wide, -⟩, -, lines⟩ := FramePool.frame?_eq_some there
    rw [width] at wide
    rw [FramePool.planeLines, height] at lines
    have packed := (shows.compressed compressed' buffer there).mpr
      ((fitting _ (by omega) (by omega)).2 0 buffer there)
    have header : IsLeast {pixels | 64 ∣ pixels ∧ buffer.width ≤ pixels} 128 := by
      rw [wide]
      exact Writer.isLeast_alignUp (by decide) 100
    have luma := packed.luma.unique header
    have payload := packed.payload
    rw [luma, lines] at payload
    exact ⟨_, later, slot, reached, generated, found, luma, payload⟩

/-- Pictures of 2 ^ 18 by 2 ^ 18 pixels have planes of 2 ^ 36 bytes. In units of 16 that is a value of which
32 bits leave zero. Zero fits its field, as the strides do, but it does not describe the planes. -/
theorem large_output_undescribed :
    ∃ session later : Session SimulatedDevice Arena, ∃ slot buffer,
      Reachable (fun _ _ => False) session ∧
      Session.generate (.ofSize 0 64 64) session = .ok ((Task.ofSize 0 64 64).placed 0) later ∧
      later.slots.get? 0 = some slot ∧ later.compressed = false ∧
      later.board.frames.frame? 0 = some buffer ∧
      buffer.lineStride / 16 = 2 ^ 14 ∧ buffer.lineStride * buffer.planeLines = 2 ^ 36 ∧
      (BitVec.ofNat 32 (2 ^ 36 / 16)).toNat = 0 ∧
      ¬ Layout.ShowsPlain buffer (Task.ofSize 0 64 64).coded.picture.sequence.chroma
        slot.content.file := by
  obtain ⟨opened, initialised, able, slots, -, frames, compressed, -, -, -⟩ :=
    @Decoder.initialise_atRest {} rfl true 1 (2 ^ 18) (2 ^ 18)
  have run : Run (fun _ _ => False) (.idle (Board.atRest 1 (2 ^ 18) (2 ^ 18))) _ _ :=
    .call .nil (.initialise {} true)
  rw [Call.next_initialise, initialised, Action.after_ok] at run
  obtain ⟨later, generated, compressed', frames'⟩ := able.first_generated slots
  have reached : Reachable (fun _ _ => False) opened := ⟨_, _, run⟩
  obtain ⟨slot, found, shows⟩ := reached.formed.generated_showsOutput generated rfl
  rw [compressed] at compressed'
  have pool := frames'.trans frames
  rw [compressed', pool] at shows
  refine ⟨opened, later, slot, _, reached, generated, found, compressed', by rw [pool]; rfl, by decide,
    by decide, by decide, fun described => ?_⟩
  have fits := ((shows.plain rfl _ rfl).mp described).lumaSize
  revert fits
  decide

end VideoAccel
