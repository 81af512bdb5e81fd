import VideoAccel.Proofs.Pipeline.Isolation

/-!
What the register files of all slots have in common.

The common registers are set once, when a session is opened, and no call changes them afterwards: in
every slot they are those of a fresh file (`Reachable.uniform`). A build clears or stores everything
else, so the image it leaves does not depend on the slot it was built in, nor on the tasks that were
there before (`Draft.image_akin`).
-/

namespace VideoAccel

namespace Layout

/-- The register files differ only in bits that belong to their tasks. -/
structure Akin (a b : Bytes) : Prop where
  size : a.size = b.size
  bits : ∀ i, ¬ Transient i → a.bitAt i = b.bitAt i

variable {a b c : Bytes}

theorem Akin.refl (a : Bytes) : Akin a a :=
  ⟨rfl, fun _ _ => rfl⟩

theorem Akin.trans (first : Akin a b) (second : Akin b c) : Akin a c :=
  ⟨first.size.trans second.size, fun i apart => (first.bits i apart).trans (second.bits i apart)⟩

/-- Storing a task's field makes no difference to the rest. -/
theorem Akin.set {field : Field} (ofTask : OfTask field) (value : BitVec 32) (file : Bytes) :
    Akin (field.set value file) file where
  size := Field.size_set ..
  bits i apart := by
    rw [Field.bitAt_set, if_neg]
    rintro ⟨-, covers⟩
    exact apart (ofTask.transient covers)

/-- Nor does reading back a section that every build clears. -/
theorem Akin.store {sec : Section} (member : sec ∈ cleared) {data : Bytes}
    (fits : data.size ≤ sec.size) (file : Bytes) : Akin (sec.store data file) file where
  size := Section.size_store ..
  bits _ apart :=
    Section.bitAt_store_of_not_covers fits file fun covers => apart (.inl ⟨sec, member, covers⟩)

end Layout

/-! ### Building over another file -/

namespace Job

/-- Every build stores anew what lies outside the sections it clears. -/
theorem stores_rewritten (job : Job) (scratch : Handle) {field : Field}
    (member : field ∈ Layout.rewritten) : ∃ value, (field, value) ∈ job.assignment scratch := by
  obtain ⟨luma, chroma, size, payload, eq⟩ := job.geometry_eq
  have stored : field ∈ ([(Layout.streamLength, BitVec.ofNat 32 job.streamLength)] ++
      job.geometry : Assignment).map Prod.fst := by
    rw [eq]
    exact member
  obtain ⟨⟨_, value⟩, entry, rfl⟩ := List.mem_map.mp stored
  refine ⟨value, ?_⟩
  simp only [assignment, List.append_assoc]
  rw [← List.append_assoc]
  exact List.mem_append_left _ entry

/-- What a build stores does not depend on the region of scratch memory, nor on whether the
parameter sets are serialised anew. -/
theorem assignment_relocated (job : Job) (region : ScratchRegion) (serialiseAll : Bool)
    (scratch : Handle) :
    ({ job with region, serialiseAll } : Job).assignment scratch = job.assignment scratch := by
  simp only [assignment, pointers, List.map_append]
  rfl

end Job

namespace Draft

/-- The image of a task does not depend on what was in the slot before. -/
theorem image_akin {job : Job} (sound : job.Sound) {first second : Draft}
    (akin : Layout.Akin first.file second.file) (full : second.file.size = Layout.fileBytes)
    (scratch : first.scratch.handle = second.scratch.handle) :
    image job first = image job second := by
  unfold image
  rw [scratch]
  apply Assignment.store_congr
  · rw [size_clearedFile, size_clearedFile, akin.size]
  · intro entry member
    apply ((Job.stores_of_mem sound member).ofTask sound).lies
    rw [size_clearedFile, full]
  · intro i uncovered
    rw [bitAt_clearedFile, bitAt_clearedFile]
    by_cases covered : ∃ sec ∈ Layout.cleared, sec.Covers i
    · rw [decide_eq_true covered]
      rfl
    · rw [akin.bits i]
      rintro (impossible | ⟨field, member, covers⟩)
      · exact covered impossible
      · obtain ⟨value, entry⟩ := job.stores_rewritten second.scratch.handle member
        exact uncovered _ entry covers

end Draft

/-! ### The files of a session -/

namespace Session

variable {δ α : Type}

/-- In every slot the common registers are as they were set once. -/
def Uniform (session : Session δ α) : Prop :=
  ∀ index slot, session.slots.get? index = some slot →
    Layout.Akin slot.content.file (freshFile session.config)

theorem Uniform.opened (config : Config) (reporting : Bool) (scratch : Buffer) (board : Board δ α) :
    (Session.opened config reporting scratch board).Uniform := by
  intro index slot found
  obtain ⟨i, -, eq⟩ := List.mem_map.mp (List.mem_of_getElem? found)
  have file : slot.content.file = freshFile config := by rw [← eq, SlotContent.fresh]
  rw [file]
  exact .refl _

theorem Uniform.of_same {before after : Session δ α} (uniform : before.Uniform)
    (config : after.config = before.config) (slots : after.slots = before.slots) :
    after.Uniform := by
  intro index slot found
  rw [config]
  rw [slots] at found
  exact uniform index slot found

/-- A slot may be replaced by one whose file differs in its task's bits only. -/
theorem Uniform.of_put {before after : Session δ α} (uniform : before.Uniform)
    (config : after.config = before.config) {index : Nat} {old slot : Slot SlotContent}
    (slots : after.slots = before.slots.put index slot)
    (found : before.slots.get? index = some old)
    (akin : Layout.Akin slot.content.file old.content.file) : after.Uniform := by
  intro other final there
  rw [config]
  rw [slots] at there
  rcases SlotPool.get?_put_cases there with ⟨-, rfl⟩ | ⟨-, before⟩
  · exact akin.trans (uniform index old found)
  · exact uniform other final before

theorem Uniform.reported {session : Session δ α} (uniform : session.Uniform) (report : Report) :
    (session.reported report).Uniform := by
  refine uniform.of_same ?_ (reported_slots session report)
  unfold Session.reported
  split <;> rfl

section Memory

variable [Allocator α]

/-- Preparing a task changes only the task's own bits of the slot's file. -/
theorem Formed.prepares_akin {session : Session δ α} (formed : session.Formed) {index : Nat}
    {task : Task} {content final : SlotContent} {outcome : Except Fault Unit} {supply : Supply α}
    {scratch : Buffer}
    (prepares : Prepares session index task content outcome supply scratch final) :
    Layout.Akin final.file content.file := by
  have sound : ∀ {supply : Supply α},
      session.provision task.coded.picture session.supply = .ok () supply →
      (session.jobWith index task supply).Sound := fun granted =>
    Formed.sound ((registers_provision (by rw [granted, Action.after_ok])).trans formed.registers)
      index task
  cases prepares with
  | starved refused => exact .refl _
  | unbuilt granted refused =>
      have confined := (Draft.build_confined (sound granted)).error refused
      exact ⟨confined.size, confined.bits⟩
  | unsynced granted built refused =>
      have confined := (Draft.build_confined (sound granted)).ok built
      exact ⟨confined.size, confined.bits⟩
  | ready granted built synced =>
      have confined := (Draft.build_confined (sound granted)).ok built
      exact ⟨confined.size, confined.bits⟩

theorem Uniform.generates {session later : Session δ α} {task : Task} {outcome : Except Fault Task}
    (uniform : session.Uniform) (formed : session.Formed)
    (generates : Generates session task outcome later) : later.Uniform := by
  cases generates with
  | skipped flagged journal => exact uniform.of_same rfl rfl
  | held unflagged names holds => exact uniform
  | full unflagged unheld busy => exact uniform
  | failed unflagged unheld first prepares journal =>
      exact uniform.of_put rfl rfl first.found (formed.prepares_akin prepares)
  | built unflagged unheld first prepares journal =>
      exact uniform.of_put rfl rfl first.found (formed.prepares_akin prepares)

end Memory

section Hardware

variable [Device δ]

theorem Uniform.starts {session later : Session δ α} {task : Task} {outcome : Except Fault Unit}
    (uniform : session.Uniform) (starts : Starts session task outcome later) : later.Uniform := by
  cases starts with
  | skipped flagged journal => exact uniform.of_same rfl rfl
  | refused unflagged misdirected kind => exact uniform
  | failed unflagged owns refused journal => exact uniform.of_put rfl rfl owns.found (.refl _)
  | started unflagged owns accepted journal => exact uniform.of_put rfl rfl owns.found (.refl _)

theorem Uniform.waits [BoundedReads δ] {session later : Session δ α} {task : Task}
    {outcome : Except Fault Unit} (uniform : session.Uniform)
    (waits : Waits session task outcome later) : later.Uniform := by
  have cleared : ∀ file, Layout.Akin (Layout.status.set 0 file) file :=
    fun file => .set (by decide) 0 file
  have settled : ∀ {device : δ} {index : Nat} {slot : Slot SlotContent} {file : Bytes}
      {journal : Journal} {report : Report}, session.slots.get? index = some slot →
      Layout.Akin file slot.content.file →
      ((session.redevice device index ⟨false, .idle, slot.content.withFile
        (Layout.status.set 0 file)⟩ journal).reported report).Uniform := by
    intro device index slot file journal report found akin
    apply Uniform.reported
    exact uniform.of_put rfl rfl found ((cleared file).trans akin)
  cases waits with
  | skipped flagged => exact uniform.reported _
  | refused unflagged misdirected kind => exact uniform
  | lost unflagged owns silent journal => exact settled owns.found (.refl _)
  | finished unflagged owns collected stored journal =>
      rw [stored]
      exact settled owns.found (.store (by decide) (size_le_of_collect collected) _)

end Hardware

end Session

/-- In every slot of every session that can be reached the common registers are as they were set
once. -/
theorem Reachable.uniform [Device δ] [Allocator α] [BoundedReads δ]
    {surroundings : Board δ α → Board δ α → Prop} {session : Session δ α}
    (reached : Reachable surroundings session) : session.Uniform := by
  obtain ⟨board, moments, run⟩ := reached
  have both : session.Formed ∧ session.Uniform := by
    refine run.invariant (I := fun session => session.Formed ∧ session.Uniform) ?_ ?_ ?_ ?_ ?_ ?_
      (fun _ impossible => by cases impossible) session rfl
    · exact fun config reporting scratch board valid =>
        ⟨.opened valid reporting scratch board, .opened config reporting scratch board⟩
    · exact fun kept generates =>
        ⟨kept.1.generates generates, kept.2.generates kept.1 generates⟩
    · exact fun kept starts => ⟨kept.1.starts starts, kept.2.starts starts⟩
    · exact fun kept waits => ⟨kept.1.waits waits, kept.2.waits waits⟩
    · exact fun kept => ⟨kept.1.commanded, kept.2.of_same rfl rfl⟩
    · exact fun kept => ⟨kept.1.of_same rfl rfl rfl rfl, kept.2.of_same rfl rfl⟩
  exact both.2

end VideoAccel
