import VideoAccel.Proofs.Pipeline.Files
import VideoAccel.Proofs.Pipeline.Progress

/-!
A slot that was used before is as good as a new one.

Whatever a slot served, whatever builds were refused in it halfway and whatever status was read back
into it: the image, the patch table and the line buffers that a later task finds there are those
that the same build leaves in a slot that was never used (`Reachable.generated_fresh`).
-/

namespace VideoAccel

namespace Buffer

/-- Pieces that were all stored lie inside the buffer. -/
theorem inside_of_writeAll {pieces : List (Nat × Bytes)} {buffer final : Buffer}
    (written : writeAll pieces buffer = .ok () final) :
    ∀ piece ∈ pieces, piece.1 + piece.2.size ≤ buffer.size := by
  induction pieces generalizing buffer with
  | nil => exact fun _ impossible => absurd impossible List.not_mem_nil
  | cons first rest ih =>
      obtain ⟨_, middle, stored, later⟩ := Action.bind_eq_ok_iff.mp written
      by_cases fits : first.1 + first.2.size ≤ buffer.size
      · rw [write_of_le buffer fits] at stored
        cases stored
        intro piece member
        rcases List.mem_cons.mp member with rfl | among
        · exact fits
        · exact ih later piece among
      · rw [write, dif_neg fits] at stored
        cases stored

end Buffer

/-- Where the blobs of a task go and how long they are does not depend on the parameter cache. -/
theorem Job.blobs_extents (job : Job) (first second : ParameterCache) {piece : Nat × Bytes}
    (member : piece ∈ job.blobs first) :
    ∃ other ∈ job.blobs second, other.1 = piece.1 ∧ other.2.size = piece.2.size := by
  rcases List.mem_append.mp member with copy | rest
  · obtain ⟨i, inside, rfl⟩ := List.mem_map.mp copy
    refine ⟨_, List.mem_append_left _ (List.mem_map_of_mem inside), rfl, ?_⟩
    simp only [ParameterCache.size_entry]
  · exact ⟨piece, List.mem_append_right _ rest, rfl, rfl⟩

/-- A build that answers also answers over any other file with the same common registers, over any
patch table, any parameter cache and any scratch buffer of the same handle and size, and leaves the
same image and the same patch table. -/
theorem Draft.build_akin {job : Job} (sound : job.Sound) {draft built : Draft} {full : Bool}
    (ran : build job draft = .ok full built) {file : Bytes} (akin : Layout.Akin draft.file file)
    (whole : file.size = Layout.fileBytes) (patches : PatchTable) (cache : ParameterCache)
    {scratch : Buffer} (handle : scratch.handle = draft.scratch.handle)
    (size : scratch.size = draft.scratch.size) :
    ∃ again rebuilt, build job ⟨file, patches, cache, scratch⟩ = .ok again rebuilt ∧
      rebuilt.file = built.file ∧ rebuilt.patches = built.patches := by
  obtain ⟨stored, pushes, written, pushed, -, rfl⟩ := build_eq_ok ran
  have room : ∀ piece ∈ job.blobs (job.nextCache cache),
      piece.1 + piece.2.size ≤ scratch.size := by
    intro piece member
    obtain ⟨known, among, start, length⟩ := job.blobs_extents _ (job.nextCache draft.cache) member
    rw [← start, ← length, size]
    exact Buffer.inside_of_writeAll written known among
  obtain ⟨final, rewritten⟩ := Buffer.writeAll_ok scratch room
  have same : image job draft = image job ⟨file, patches, cache, scratch⟩ :=
    @image_akin job sound draft ⟨file, patches, cache, scratch⟩ akin whole handle.symm
  have repushed : PatchTable.pushAll (job.pointers scratch.handle) .empty = .ok pushes := by
    rw [handle]
    exact pushed
  exact ⟨_, _, build_of_ok rewritten repushed, by simp only [same], rfl⟩

section Fresh

variable {δ α : Type} [Device δ] [Allocator α] [BoundedReads δ]

/-- A task that was generated finds in its slot what the same build leaves in a fresh slot: one with
only the common registers set and no patches, whatever its parameter cache and whatever the scratch
buffer of the same handle and size holds. -/
theorem Reachable.generated_fresh {surroundings : Board δ α → Board δ α → Prop}
    {session later : Session δ α} (reached : Reachable surroundings session) {task answered : Task}
    (unflagged : task.flags.hasError = false)
    (generated : Session.generate task session = .ok answered later) :
    ∃ index slot, answered.slot = some index ∧ later.slots.get? index = some slot ∧
      ∀ (cache : ParameterCache) (scratch : Buffer),
        scratch.handle = later.scratch.handle → scratch.size = later.scratch.size →
        let job := later.jobFor index task
          (task.coded.picture.resolveReferences later.board.frames.frame? Layout.referenceCount)
        ∃ full built,
          Draft.build job ⟨freshFile session.config, .empty, cache, scratch⟩ = .ok full built ∧
          slot.content.file = built.file ∧ slot.content.patches = built.patches ∧
          slot.content.lineBuffers = LineBuffer.deviceList job.lines.buffers ∧
          slot.content.task = some task.id := by
  have formed := reached.formed
  have ended := Session.generate_spec session task
  rw [generated, Action.outcome_ok, Action.after_ok] at ended
  cases ended with
  | skipped flagged journal => cases unflagged.symm.trans flagged
  | @built _ _ index slot first supply scratch content prepares journal =>
      refine ⟨index, _, rfl, SlotPool.get?_put_self first.found _, fun cache other handle size => ?_⟩
      have changed := prepares.changedIn
      cases prepares with
      | @ready supply full draft memory granted built synced =>
          have sound : (session.jobWith index task supply).Sound :=
            Session.Formed.sound ((Session.registers_provision (by
              rw [granted, Action.after_ok])).trans formed.registers) index task
          have fresh : (freshFile session.config).size = Layout.fileBytes :=
            (Assignment.size_store _ _).trans (Bytes.size_zeros _)
          have akin : Layout.Akin slot.content.file (freshFile session.config) :=
            reached.uniform index slot first.found
          obtain ⟨again, rebuilt, ran, file, patches⟩ := Draft.build_akin sound built akin fresh
            .empty cache (handle.trans changed.handle) (size.trans changed.size)
          exact ⟨again, rebuilt, ran, file.symm, patches.symm, rfl, rfl⟩

end Fresh

/-- Slot 0 serves a second picture, of another size, after the first one was decoded in it: it gets
the image of a slot that was never used. -/
theorem second_picture_fresh : ∃ session later : Session SimulatedDevice Arena, ∃ used slot,
    Reachable (fun _ _ => False) session ∧
    session.slots.get? 0 = some used ∧ used.content.task = some 0 ∧
    Session.generate (.ofSize 1 128 64) session = .ok ((Task.ofSize 1 128 64).placed 0) later ∧
    later.slots.get? 0 = some slot ∧
    ∃ full built, Draft.build
        (later.jobFor 0 (.ofSize 1 128 64) ((Task.ofSize 1 128 64).coded.picture.resolveReferences
          later.board.frames.frame? Layout.referenceCount))
        ⟨freshFile session.config, .empty, {}, later.scratch⟩ = .ok full built ∧
      slot.content.file = built.file ∧ slot.content.patches = built.patches := by
  obtain ⟨opened, built, started, content, ⟨board, moments, run⟩, generated, found, serves,
    submitted, able, reporting, there, inFlight, -⟩ := Session.first_picture fun _ _ => False
  have owns : started.Owns ((Task.ofSize 0 64 64).placed 0) .submitted 0
      ⟨true, .submitted, content⟩ := ⟨rfl, there, rfl, serves, rfl⟩
  obtain ⟨device, file, journal, -, waited, waitedAble⟩ :=
    Session.wait_of_able able rfl owns inFlight
  have run₁ := run.call (.generate (.ofSize 0 64 64))
  rw [Call.next_generate, generated, Action.after_ok] at run₁
  have run₂ := run₁.call (.start ((Task.ofSize 0 64 64).placed 0))
  rw [Call.next_start, submitted, Action.after_ok] at run₂
  have run₃ := run₂.call (.wait ((Task.ofSize 0 64 64).placed 0))
  rw [Call.next_wait, waited, Action.after_ok] at run₃
  generalize decoded : (started.redevice device 0
    ⟨false, .idle, content.withFile (Layout.status.set 0 file)⟩ journal).reported
      (Session.finalReport ((Task.ofSize 0 64 64).placed 0) file
        (Verdict.ofFile file).isHardError) = session at run₃ waitedAble
  have free : session.slots.get? 0 =
      some ⟨false, .idle, content.withFile (Layout.status.set 0 file)⟩ := by
    rw [← decoded, Session.reported_slots]
    exact SlotPool.get?_put_self there _
  have first : session.slots.FirstFree 0 ⟨false, .idle, content.withFile (Layout.status.set 0 file)⟩ :=
    ⟨free, rfl, fun other before => absurd before (Nat.not_lt_zero other)⟩
  have placed : ∀ compressed, ∀ buffer ∈ LineBuffer.place ⟨128, 64, 8, 1, false, compressed⟩
      (LineBufferClass.all.zip Layout.lineBufferRegisters), buffer.offset < Numeral.bound32 := by
    decide
  obtain ⟨supply, scratch, final, journal', prepares, again, -⟩ :=
    @Session.generate_of_able session waitedAble (.ofSize 1 128 64) rfl (fun _ => nofun) _ _ first
      (placed session.compressed)
  have reached : Reachable (fun _ _ => False) session := ⟨board, _, run₃⟩
  obtain ⟨index, slot, names, holds, fresh⟩ := reached.generated_fresh rfl again
  obtain rfl : 0 = index := Option.some.inj names
  obtain ⟨full, image, ran, file, patches, -⟩ := fresh {} _ rfl rfl
  exact ⟨session, _, _, slot, reached, free, serves, again, holds, full, image, ran, file, patches⟩

end VideoAccel
