import VideoAccel.Proofs.Pipeline.Caches
import VideoAccel.Proofs.Pipeline.Progress
import VideoAccel.Proofs.Program.References

/-!
What the hardware is told about references.

Once a task was generated, its slot shows all sixteen reference slots as they were filled: present rows
as they are, missing ones by their stand-ins (`references_filled_and_shown`). As a stand-in is always
the current picture or a present row, no address is zero as long as those have buffers.
-/

namespace VideoAccel

variable {δ α : Type}

/-- The slot that a task was generated in shows the references that were resolved for it. -/
theorem Session.Generated.shows [Allocator α] {session later : Session δ α} {task : Task}
    {index : Nat} (generated : session.Generated task index later) (formed : session.Formed) :
    ∃ slot, later.slots.get? index = some slot ∧ ∀ i entry,
      (task.coded.picture.resolveReferences session.board.frames.frame?
        Layout.referenceCount).slots[i]? = some entry →
      Layout.ShowsReference session.board.frames.frame? later.motion slot.content.file i entry := by
  have ended := Session.generate_spec session task
  rw [generated.answered, Action.outcome_ok, Action.after_ok] at ended
  cases ended with
  | @built _ _ _ slot first supply scratch content prepares journal =>
      refine ⟨_, SlotPool.get?_put_self first.found _, fun i entry there => ?_⟩
      have full := (formed.slots _ _ first.found).file
      have sound := formed.prepares_sound prepares full
      have whole : (slot.content.draft session.scratch).file.size = Layout.fileBytes := full
      show Layout.ShowsReference _ _ content.file i entry
      rw [prepares.file]
      exact Job.shows_image sound whole there

/-- However many reference slots there are, whatever the table and the picture store: each is filled
with its row, or, if that is missing, with the nearest present row before it or the current picture.
Once a task was generated, its registers show all sixteen of them. The order counts are read back if
those of the present rows have 32 bits, and if the current picture and all present rows have buffers,
every address names the buffer of its slot. -/
theorem references_filled_and_shown [Device δ] [Allocator α]
    {surroundings : Board δ α → Board δ α → Prop} :
    (∀ (picture : Picture) (frame? : Nat → Option FrameBuffer) (count : Nat),
      (picture.resolveReferences frame? count).slots.length = count ∧
      ∀ i entry, (picture.resolveReferences frame? count).slots[i]? = some entry →
        picture.Fills picture.slot 0 i entry) ∧
    ∀ {session later : Session δ α} {task : Task} {index : Nat},
      Reachable surroundings session → session.Generated task index later →
      ∃ slot, later.slots.get? index = some slot ∧ ∀ i < Layout.referenceCount, ∃ entry,
        let picture := task.coded.picture
        let frame? := session.board.frames.frame?
        let file := slot.content.file
        (picture.resolveReferences frame? Layout.referenceCount).slots[i]? = some entry ∧
        Layout.ShowsReference frame? later.motion file i entry ∧
        (picture.Ordered → ((Layout.referenceOrder i false).get file).toInt = entry.topOrder ∧
          ((Layout.referenceOrder i true).get file).toInt = entry.bottomOrder) ∧
        (picture.Backed frame? later.motion →
          Layout.NamesBuffers frame? later.motion file i entry) := by
  refine ⟨Picture.fills_resolved, fun {session later task index} reached generated => ?_⟩
  obtain ⟨slot, found, every⟩ := generated.shows reached.formed
  refine ⟨slot, found, fun i known => ?_⟩
  obtain ⟨length, fills⟩ :=
    task.coded.picture.fills_resolved session.board.frames.frame? Layout.referenceCount
  have there := List.getElem?_eq_getElem (length.symm ▸ known)
  have shows := every i _ there
  exact ⟨_, there, shows, shows.ordered (fills i _ there), shows.backed (fills i _ there)⟩

/-- A picture that names slots 1 and 2 in the third and sixth row of its table only. -/
def Task.gapped : Task :=
  let task := Task.ofSize 0 64 64
  let rows := task.coded.picture.references
  let third : ReferenceFrame := { present := true, slot := 1, topUsed := true, topOrder := -4 }
  let sixth : ReferenceFrame := { present := true, slot := 2, bottomOrder := 6 }
  { task with
    coded := { picture := { task.coded.picture with
      references := (rows.set 2 third).set 5 sixth } } }

theorem Task.slot_lt_of_names {slot : Nat} (names : Task.gapped.coded.picture.Names slot) :
    slot < 3 := by
  rcases names with rfl | ⟨index, frame, found, rfl⟩
  · decide
  · have every : ∀ frame ∈ Task.gapped.coded.picture.references, frame.slot < 3 := by decide
    exact every frame (Vector.mem_of_getElem? (Picture.reference?_eq_some_iff.mp found).1)

theorem Task.ordered_gapped : Task.gapped.coded.picture.Ordered := by
  intro index frame found
  have every : ∀ frame ∈ Task.gapped.coded.picture.references,
      (-2 ^ 31 ≤ frame.topOrder ∧ frame.topOrder < 2 ^ 31) ∧
        (-2 ^ 31 ≤ frame.bottomOrder ∧ frame.bottomOrder < 2 ^ 31) := by decide
  exact every frame (Vector.mem_of_getElem? (Picture.reference?_eq_some_iff.mp found).1)

/-- The picture is decoded on a board with three slots, whose motion vector buffers have the handles 12
to 14. What is missing before the third row comes from the current picture, what is missing behind the
sixth from that row. -/
theorem gapped_references_shown :
    ∃ session later : Session SimulatedDevice Arena, ∃ slot,
      Reachable (fun _ _ => False) session ∧ session.Generated .gapped 0 later ∧
      later.slots.get? 0 = some slot ∧
      ((Layout.referenceBase 1).get slot.content.file).toInt = 1000 ∧
      ((Layout.referenceBase 4).get slot.content.file).toInt = 1001 ∧
      ((Layout.referenceMotionBase 15).get slot.content.file).toInt = 14 ∧
      ((Layout.referenceOrder 2 false).get slot.content.file).toInt = -4 ∧
      (Layout.referenceTopUsed.get slot.content.file).getLsbD 2 = true := by
  obtain ⟨opened, initialised, able, slots, -, frames, compressed, -, -, supply⟩ :=
    @Decoder.initialise_atRest {} rfl true 3 64 64
  have run : Run (fun _ _ => False) (.idle (Board.atRest 3 64 64)) _ _ :=
    .call .nil (.initialise {} true)
  rw [Call.next_initialise, initialised, Action.after_ok] at run
  have reached : Reachable (fun _ _ => False) opened := ⟨_, _, run⟩
  have free : opened.slots.FirstFree 0 ⟨false, .idle, .fresh {}⟩ := by
    rw [slots]
    exact SlotPool.ofDepth_firstFree (by decide) _
  have shape : opened.shapeOf Task.gapped.coded.picture = ⟨64, 64, 8, 1, false, false⟩ :=
    Session.shapeOf_ofSize compressed 0 64 64
  obtain ⟨provided, scratch, content, journal, prepares, generated, -⟩ :=
    @Session.generate_of_able _ able .gapped rfl (fun _ => nofun) _ _ free (by
      rw [shape]
      decide)
  have taken : opened.Generated .gapped 0 _ := ⟨rfl, generated⟩
  have handles : provided.motion.buffers.map (·.handle) = [⟨12⟩, ⟨13⟩, ⟨14⟩] := by
    obtain ⟨result, asked, handles⟩ : ∃ result : Supply Arena,
        Supply.provide ⟨64, 64, 8, 1, false, false⟩ 3 2048 ⟨.empty Layout.lineBufferRegisters, .empty,
          { nextHandle := 11
            live := [(⟨10⟩, (ScratchLayout.of scratchSizes 3).totalSize)]
            sizes := [(ScratchLayout.of scratchSizes 3).totalSize] }⟩ = .ok () result ∧
        result.motion.buffers.map (·.handle) = [⟨12⟩, ⟨13⟩, ⟨14⟩] := ⟨_, rfl, rfl⟩
    cases prepares with
    | ready granted built synced =>
        rw [Session.provision, shape, frames, supply] at granted
        cases asked.symm.trans granted
        exact handles
  have vectors : ∀ slot < 3, provided.motion.handle slot = ⟨12 + slot⟩ := by
    intro slot small
    rw [MotionPool.handle, ← List.getElem?_map, handles]
    match slot, small with
    | 0, _ => rfl
    | 1, _ => rfl
    | 2, _ => rfl
  have known : ∀ slot < 3, ∃ buffer, opened.board.frames.frame? slot = some buffer ∧
      buffer.handle = ⟨1000 + slot⟩ := by
    intro slot small
    rw [frames]
    match slot, small with
    | 0, _ => exact ⟨_, rfl, rfl⟩
    | 1, _ => exact ⟨_, rfl, rfl⟩
    | 2, _ => exact ⟨_, rfl, rfl⟩
  have backed : Task.gapped.coded.picture.Backed opened.board.frames.frame? provided.motion := by
    have proper : ∀ {first : Int} {slot : Nat}, 0 < first → first < 2000 → slot < 3 →
        Handle.Proper ⟨first + slot⟩ := fun _ _ _ => ⟨by simp only; omega, by simp only; omega⟩
    constructor
    · intro slot names
      have small := Task.slot_lt_of_names names
      obtain ⟨buffer, found, handle⟩ := known slot small
      exact ⟨buffer, found, handle ▸ proper (by decide) (by decide) small⟩
    · intro slot names
      have small := Task.slot_lt_of_names names
      exact vectors slot small ▸ proper (by decide) (by decide) small
  obtain ⟨slot, found, rows⟩ := references_filled_and_shown.2 reached taken
  -- Slots 1, 2, 4 and 15 hold the current picture, the third row, its stand-in and that of the sixth.
  obtain ⟨first, there, -, -, names₁⟩ := rows 1 (by decide)
  obtain rfl : .standIn 0 = first := Option.some.inj there
  obtain ⟨third, there, shows, ordered, -⟩ := rows 2 (by decide)
  obtain rfl : ⟨true, 1, false, true, false, false, -4, 0⟩ = third := Option.some.inj there
  obtain ⟨fourth, there, -, -, names₄⟩ := rows 4 (by decide)
  obtain rfl : .standIn 1 = fourth := Option.some.inj there
  obtain ⟨last, there, -, -, names₁₅⟩ := rows 15 (by decide)
  obtain rfl : .standIn 2 = last := Option.some.inj there
  have base : ∀ {i slot : Nat} {file : Bytes}, slot < 3 →
      Layout.NamesBuffers opened.board.frames.frame? provided.motion file i (.standIn slot) →
      ((Layout.referenceBase i).get file).toInt = 1000 + slot := by
    intro i slot file small names
    obtain ⟨buffer, found, -, value⟩ := names.picture
    obtain ⟨other, same, handle⟩ := known slot small
    cases found.symm.trans same
    rw [value, handle]
  refine ⟨opened, _, slot, reached, taken, found, base (by decide) (names₁ backed),
    base (by decide) (names₄ backed), ?_, (ordered Task.ordered_gapped).1, shows.topUsed⟩
  rw [(names₁₅ backed).motion.2]
  exact congrArg Handle.value (vectors 2 (by decide))

end VideoAccel
