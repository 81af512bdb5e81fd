import VideoAccel.Proofs.Program.Image

/-!
Runs of a build.

A build answers exactly when all blobs fit into the scratch buffer and all offsets into the patch
table (`Draft.build_of_ok`), and what it then leaves behind is `Draft.image` and what was stored and
recorded on the way (`Draft.build_eq_ok`). A build that is refused has written no byte of the scratch
buffer outside its own region and no bit of the register file that does not belong to the task, like
one that answers (`Draft.build_scratch`, `Draft.build_confined`).
-/

namespace VideoAccel

/-! ### Recording offsets -/

namespace PatchTable

/-- Records the offsets of several pointers, in order. -/
def pushAll : List (Field × BitVec 32 × Nat) → PatchTable → Except Fault PatchTable
  | [], table => .ok table
  | (field, _, offset) :: rest, table =>
      match table.push field.reg offset with
      | .ok next => pushAll rest next
      | .error fault => .error fault

theorem push_ok {table : PatchTable} {reg offset : Nat} (knownReg : reg < Numeral.bound32)
    (knownOffset : offset < Numeral.bound32) (room : table.entries.length < limit) :
    ∃ next, table.push reg offset = .ok next ∧
      next.entries.length ≤ table.entries.length + 1 := by
  unfold push
  by_cases zero : offset = 0
  · rw [if_pos zero]
    exact ⟨table, rfl, Nat.le_succ _⟩
  rw [if_neg zero, if_neg (Nat.not_le.mpr knownReg), if_neg (Nat.not_le.mpr knownOffset)]
  by_cases known : table.entries.any (·.reg == reg) = true
  · rw [if_pos known]
    exact ⟨_, rfl, by rw [List.length_map]; exact Nat.le_succ _⟩
  · rw [if_neg known, if_neg (Nat.not_le.mpr room)]
    exact ⟨_, rfl, by rw [List.length_append]; exact Nat.le_refl _⟩

/-- Offsets below the bound are recorded as long as there is a place for each of them. -/
theorem pushAll_ok {pointers : List (Field × BitVec 32 × Nat)} {table : PatchTable}
    (known : ∀ pointer ∈ pointers,
      pointer.1.reg < Numeral.bound32 ∧ pointer.2.2 < Numeral.bound32)
    (room : table.entries.length + pointers.length ≤ limit) :
    ∃ next, pushAll pointers table = .ok next := by
  induction pointers generalizing table with
  | nil => exact ⟨table, rfl⟩
  | cons pointer rest ih =>
      obtain ⟨field, value, offset⟩ := pointer
      obtain ⟨knownReg, knownOffset⟩ := known _ List.mem_cons_self
      rw [List.length_cons] at room
      obtain ⟨next, pushed, grown⟩ := push_ok knownReg knownOffset
        (show table.entries.length < limit by omega)
      obtain ⟨final, later⟩ := ih (fun other member => known other (List.mem_cons_of_mem _ member))
        (show next.entries.length + rest.length ≤ limit by omega)
      refine ⟨final, ?_⟩
      rw [pushAll, pushed]
      exact later

theorem pushAll_append (first second : List (Field × BitVec 32 × Nat)) (table : PatchTable) :
    pushAll (first ++ second) table = (pushAll first table).bind (pushAll second) := by
  induction first generalizing table with
  | nil => rfl
  | cons pointer rest ih =>
      obtain ⟨field, value, offset⟩ := pointer
      rw [List.cons_append, pushAll, pushAll]
      cases table.push field.reg offset with
      | error fault => rfl
      | ok next => exact ih next

/-- An offset that is out of bounds cannot be recorded. -/
theorem push_of_far {table : PatchTable} {reg offset : Nat} (known : reg < Numeral.bound32)
    (far : Numeral.bound32 ≤ offset) : table.push reg offset = .error (.patchOffset offset) := by
  have positive : offset ≠ 0 := by
    rintro rfl
    exact absurd far (by decide)
  rw [push, if_neg positive, if_neg (Nat.not_le.mpr known), if_pos far]

/-- With a place for each offset, nothing but an offset that is out of bounds stops the recording. -/
theorem pushAll_of_far {pointers : List (Field × BitVec 32 × Nat)} {table : PatchTable}
    (known : ∀ pointer ∈ pointers, pointer.1.reg < Numeral.bound32)
    (room : table.entries.length + pointers.length ≤ limit)
    (far : ∃ pointer ∈ pointers, Numeral.bound32 ≤ pointer.2.2) :
    ∃ offset, pushAll pointers table = .error (.patchOffset offset) := by
  induction pointers generalizing table with
  | nil =>
      obtain ⟨_, member, -⟩ := far
      exact absurd member List.not_mem_nil
  | cons pointer rest ih =>
      obtain ⟨field, value, offset⟩ := pointer
      have knownReg : field.reg < Numeral.bound32 := known _ List.mem_cons_self
      rw [List.length_cons] at room
      by_cases here : Numeral.bound32 ≤ offset
      · refine ⟨offset, ?_⟩
        rw [pushAll, push_of_far knownReg here]
      · obtain ⟨next, pushed, grown⟩ := push_ok knownReg (Nat.not_le.mp here)
          (show table.entries.length < limit by omega)
        have later : ∃ pointer ∈ rest, Numeral.bound32 ≤ pointer.2.2 := by
          obtain ⟨pointer, member, beyond⟩ := far
          rcases List.mem_cons.mp member with rfl | among
          · exact absurd beyond here
          · exact ⟨pointer, among, beyond⟩
        obtain ⟨first, refused⟩ := ih (fun other member => known other (List.mem_cons_of_mem _ member))
          (show next.entries.length + rest.length ≤ limit by omega) later
        refine ⟨first, ?_⟩
        rw [pushAll, pushed]
        exact refused

end PatchTable

namespace Buffer

theorem writeAll_append (first second : List (Nat × Bytes)) :
    writeAll (first ++ second) = (do writeAll first; writeAll second) := by
  induction first with
  | nil => rfl
  | cons piece rest ih =>
      show (do write piece.1 piece.2; writeAll (rest ++ second)) =
        (do (do write piece.1 piece.2; writeAll rest); writeAll second)
      rw [ih, bind_assoc]

end Buffer

/-! ### The steps of a build -/

namespace Job

/-- The blobs of a task, in the order in which they are stored, and where each goes. -/
def blobs (job : Job) (cache : ParameterCache) : List (Nat × Bytes) :=
  Blob.parameterCopies job.region.parameters cache.entry ++
    [(job.region.lists, Blob.referenceLists job.coded),
      (job.region.scaling, job.coded.picture.scalingLists.toBytes)]

/-- Whether the header of the parameter sets is serialised anew. -/
def serialises (job : Job) (cache : ParameterCache) : Bool :=
  cache.mustSerialise job.coded.picture job.serialiseAll

/-- The parameter cache after the build. -/
def nextCache (job : Job) (cache : ParameterCache) : ParameterCache :=
  cache.update job.coded.picture (job.serialises cache)

end Job

/-- The position lies in an area that the blobs of a task may fill. -/
def ScratchRegion.Touches (region : ScratchRegion) (position : Nat) : Prop :=
  (region.parameters ≤ position ∧
      position < region.parameters + parameterEntryCount * parameterEntryBytes) ∨
    (region.lists ≤ position ∧ position < region.lists + listBytes) ∨
    (region.scaling ≤ position ∧ position < region.scaling + ScalingLists.byteCount)

theorem Job.touches_of_mem_blobs {job : Job} {cache : ParameterCache} {piece : Nat × Bytes}
    (member : piece ∈ job.blobs cache) {position : Nat} (low : piece.1 ≤ position)
    (high : position < piece.1 + piece.2.size) : job.region.Touches position := by
  rcases List.mem_append.mp member with copy | rest
  · left
    obtain ⟨i, inside, rfl⟩ := List.mem_map.mp copy
    have small : i < parameterEntryCount := List.mem_range.mp inside
    have last : (i + 1) * parameterEntryBytes ≤ parameterEntryCount * parameterEntryBytes :=
      Nat.mul_le_mul_right _ small
    rw [Nat.succ_mul] at last
    simp only [ParameterCache.size_entry] at low high
    omega
  · simp only [List.mem_cons, List.not_mem_nil, or_false] at rest
    rcases rest with rfl | rfl
    · simp only [Blob.size_referenceLists] at high
      exact .inr (.inl ⟨low, high⟩)
    · simp only [ScalingLists.size_toBytes] at high
      exact .inr (.inr ⟨low, high⟩)

namespace ScratchLayout

variable {layout : ScratchLayout}

/-- The blobs of a task lie in its region. -/
theorem inRegion_of_touches (sizes : layout.sizes = scratchSizes) (fits : layout.Fits)
    {index position : Nat} (known : index < layout.copies)
    (touches : (layout.region index).Touches position) : layout.InRegion index position := by
  have next := fits.scaling_region_add known
  have parameters : parameterEntryCount * parameterEntryBytes ≤ alignPage layout.sizes.parameters := by
    rw [sizes]
    exact le_alignPage _
  have lists : listBytes ≤ alignPage layout.sizes.lists := by
    rw [sizes]
    exact le_alignPage _
  have scaling : ScalingLists.byteCount ≤ alignPage layout.sizes.scaling := by
    rw [sizes]
    exact le_alignPage _
  have second := fits.lists_region known
  have third := fits.scaling_region known
  unfold InRegion
  rcases touches with ⟨low, high⟩ | ⟨low, high⟩ | ⟨low, high⟩ <;> omega

/-- The table of entropy decoder start values lies in front of the regions. -/
theorem inCommon_of_lt (sizes : layout.sizes = scratchSizes) (fits : layout.Fits) {position : Nat}
    (inside : position < layout.entropyOffset + EntropyTable.byteCount) :
    layout.InCommon position := by
  have table : EntropyTable.byteCount ≤ alignPage layout.sizes.entropy := by
    rw [sizes]
    exact le_alignPage _
  have start : layout.entropyOffset = 0 := rfl
  unfold InCommon
  rw [fits.regionsOffset_eq, commonExtent]
  omega

end ScratchLayout

namespace Draft

/-- What a build starts from: the file with everything cleared that earlier tasks left behind. -/
def clearedFile (file : Bytes) : Bytes :=
  Layout.cleared.foldl (fun file sec => sec.clear file) file

theorem size_clearedFile (file : Bytes) : (clearedFile file).size = file.size := by
  simp only [clearedFile, Layout.cleared, List.foldl_cons, List.foldl_nil, Section.size_clear]

theorem bitAt_clearedFile (file : Bytes) (i : Nat) :
    (clearedFile file).bitAt i =
      (!decide (∃ sec ∈ Layout.cleared, sec.Covers i) && file.bitAt i) := by
  have every : ∀ (sections : List Section) (file : Bytes),
      (sections.foldl (fun file sec => sec.clear file) file).bitAt i =
        (!decide (∃ sec ∈ sections, sec.Covers i) && file.bitAt i) := by
    intro sections
    induction sections with
    | nil => intro file; simp
    | cons sec rest ih =>
        intro file
        rw [List.foldl_cons, ih, Section.bitAt_clear]
        by_cases here : sec.Covers i
        · simp [here]
        · simp [here]
  exact every Layout.cleared file

theorem point_of_ok {pointers : List (Field × BitVec 32 × Nat)} {draft : Draft}
    {patches : PatchTable} (pushed : PatchTable.pushAll pointers draft.patches = .ok patches) :
    point pointers draft = .ok ()
      { draft with
        file := Assignment.store (pointers.map fun (field, value, _) => (field, value)) draft.file
        patches } := by
  induction pointers generalizing draft with
  | nil => cases pushed; rfl
  | cons pointer rest ih =>
      obtain ⟨field, value, offset⟩ := pointer
      rw [PatchTable.pushAll] at pushed
      cases first : draft.patches.push field.reg offset with
      | error fault =>
          rw [first] at pushed
          cases pushed
      | ok next =>
          rw [first] at pushed
          have later := @ih { draft with file := field.set value draft.file, patches := next } pushed
          simp only [point, Bind.bind, EStateM.bind, assign, Assignment.store, List.foldl_cons,
            List.foldl_nil, first]
          exact later

theorem point_of_error {pointers : List (Field × BitVec 32 × Nat)} {draft : Draft} {fault : Fault}
    (refused : PatchTable.pushAll pointers draft.patches = .error fault) :
    ∃ file patches, point pointers draft = .error fault { draft with file, patches } := by
  induction pointers generalizing draft with
  | nil => cases refused
  | cons pointer rest ih =>
      obtain ⟨field, value, offset⟩ := pointer
      rw [PatchTable.pushAll] at refused
      cases first : draft.patches.push field.reg offset with
      | error other =>
          rw [first] at refused
          cases refused
          refine ⟨field.set value draft.file, draft.patches, ?_⟩
          simp only [point, Bind.bind, EStateM.bind, assign, Assignment.store, List.foldl_cons,
            List.foldl_nil, first]
      | ok next =>
          rw [first] at refused
          obtain ⟨file, patches, later⟩ :=
            @ih { draft with file := field.set value draft.file, patches := next } refused
          refine ⟨file, patches, ?_⟩
          simp only [point, Bind.bind, EStateM.bind, assign, Assignment.store, List.foldl_cons,
            List.foldl_nil, first]
          exact later

theorem onScratch_bind {α β : Type} (action : Action Buffer α) (next : α → Action Buffer β) :
    onScratch (action >>= next) = onScratch action >>= fun value => onScratch (next value) := by
  exact Action.on_bind (fun draft : Draft => draft.scratch)
    (fun scratch (draft : Draft) => { draft with scratch }) (fun _ _ => rfl) (fun _ _ _ => rfl)
    action next

theorem clear_run (draft : Draft) :
    clear draft = .ok () { draft with file := clearedFile draft.file, patches := .empty } := rfl

/-- The part of a build that fills the registers. -/
def fill (job : Job) : Action Draft Unit := do
  assign [(Layout.streamLength, BitVec.ofNat 32 job.streamLength)]
  assign job.geometry
  assign job.pictureFields
  assign job.pictureAddresses
  point job.lineBufferPointers
  let draft ← get
  point (job.scratchPointers draft.scratch.handle)
  assign [(Layout.errorInfoBase, 0)]
  assign job.referenceAddresses

/-- A build clears, brings the parameter cache up to date, stores the blobs and fills the
registers. -/
theorem build_eq (job : Job) : build job = do
    clear
    let draft ← get
    set { draft with cache := job.nextCache draft.cache }
    onScratch (Buffer.writeAll (job.blobs (job.nextCache draft.cache)))
    fill job
    return job.serialises draft.cache := by
  simp only [build, writeParameters, fill, Job.blobs, Buffer.writeAll_append, onScratch_bind,
    Buffer.writeAll, bind_assoc, pure_bind]
  rfl

/-! ### Builds that answer and builds that are refused -/

/-- What a build that answers leaves behind, apart from what it stored in scratch memory and
recorded in the patch table. -/
def image (job : Job) (draft : Draft) : Bytes :=
  (job.assignment draft.scratch.handle).store (clearedFile draft.file)

theorem fill_of_ok {job : Job} {draft : Draft} {patches : PatchTable}
    (pushed : PatchTable.pushAll (job.pointers draft.scratch.handle) draft.patches = .ok patches) :
    fill job draft =
      .ok () { draft with file := (job.assignment draft.scratch.handle).store draft.file, patches } := by
  rw [Job.pointers, PatchTable.pushAll_append] at pushed
  cases lines : PatchTable.pushAll job.lineBufferPointers draft.patches with
  | error fault =>
      rw [lines] at pushed
      cases pushed
  | ok middle =>
      rw [lines] at pushed
      have first := fun file => @point_of_ok _ { draft with file } _ lines
      have second := fun file => @point_of_ok _ { draft with file, patches := middle } _ pushed
      simp only [fill, Bind.bind, EStateM.bind, assign, Action.get_run, first, second,
        Job.assignment, Job.pointers, Assignment.store_append, List.map_append]

theorem fill_of_error {job : Job} {draft : Draft} {fault : Fault}
    (refused : PatchTable.pushAll (job.pointers draft.scratch.handle) draft.patches =
      .error fault) :
    ∃ file patches, fill job draft = .error fault { draft with file, patches } := by
  rw [Job.pointers, PatchTable.pushAll_append] at refused
  cases lines : PatchTable.pushAll job.lineBufferPointers draft.patches with
  | error other =>
      rw [lines] at refused
      cases refused
      have first := fun file => @point_of_error _ { draft with file } _ lines
      obtain ⟨file, patches, stopped⟩ := first (job.pictureAddresses.store
        (job.pictureFields.store (job.geometry.store (Assignment.store
          [(Layout.streamLength, BitVec.ofNat 32 job.streamLength)] draft.file))))
      refine ⟨file, patches, ?_⟩
      simp only [fill, Bind.bind, EStateM.bind, assign, stopped]
  | ok middle =>
      rw [lines] at refused
      have first := fun file => @point_of_ok _ { draft with file } _ lines
      have second := fun file => @point_of_error _ { draft with file, patches := middle } _ refused
      obtain ⟨file, patches, stopped⟩ := second (Assignment.store
        (job.lineBufferPointers.map fun (field, value, _) => (field, value))
        (job.pictureAddresses.store (job.pictureFields.store (job.geometry.store (Assignment.store
          [(Layout.streamLength, BitVec.ofNat 32 job.streamLength)] draft.file)))))
      refine ⟨file, patches, ?_⟩
      simp only [fill, Bind.bind, EStateM.bind, assign, Action.get_run, first, stopped]

/-- A build stores the blobs; if they fit, it fills the registers. -/
theorem build_run (job : Job) (draft : Draft) :
    build job draft =
      match Buffer.writeAll (job.blobs (job.nextCache draft.cache)) draft.scratch with
      | .error fault scratch =>
          .error fault ⟨clearedFile draft.file, .empty, job.nextCache draft.cache, scratch⟩
      | .ok _ scratch =>
          match fill job ⟨clearedFile draft.file, .empty, job.nextCache draft.cache, scratch⟩ with
          | .error fault filled => .error fault filled
          | .ok _ filled => .ok (job.serialises draft.cache) filled := by
  simp only [build_eq, Bind.bind, EStateM.bind, clear_run, Action.get_run, Action.set_run, onScratch,
    Action.on]
  cases Buffer.writeAll (job.blobs (job.nextCache draft.cache)) draft.scratch with
  | error fault scratch => rfl
  | ok done scratch =>
      simp only
      cases fill job ⟨clearedFile draft.file, .empty, job.nextCache draft.cache, scratch⟩ with
      | error fault filled => rfl
      | ok done filled => rfl

theorem handle_of_writeAll {pieces : List (Nat × Bytes)} {before after : Buffer}
    (written : Buffer.writeAll pieces before = .ok () after) : after.handle = before.handle := by
  have changed : Action.Keeps (Buffer.ChangedIn fun _ => True) (Buffer.writeAll pieces) :=
    Buffer.writeAll_changedIn fun _ _ _ _ _ => trivial
  exact (changed.ok written).handle

/-- A build answers when all blobs fit and all offsets can be recorded. -/
theorem build_of_ok {job : Job} {draft : Draft} {scratch : Buffer} {patches : PatchTable}
    (written : Buffer.writeAll (job.blobs (job.nextCache draft.cache)) draft.scratch =
      .ok () scratch)
    (pushed : PatchTable.pushAll (job.pointers draft.scratch.handle) .empty = .ok patches) :
    build job draft = .ok (job.serialises draft.cache)
      { file := image job draft, patches, cache := job.nextCache draft.cache, scratch } := by
  have same := handle_of_writeAll written
  rw [← same] at pushed
  have filled := @fill_of_ok job
    ⟨clearedFile draft.file, .empty, job.nextCache draft.cache, scratch⟩ patches pushed
  rw [build_run, written]
  simp only [filled, same, image]

/-- A build whose blobs fit is refused for the first offset that cannot be recorded. -/
theorem build_of_error {job : Job} {draft : Draft} {scratch : Buffer} {fault : Fault}
    (written : Buffer.writeAll (job.blobs (job.nextCache draft.cache)) draft.scratch =
      .ok () scratch)
    (refused : PatchTable.pushAll (job.pointers draft.scratch.handle) .empty = .error fault) :
    ∃ left, build job draft = .error fault left := by
  rw [← handle_of_writeAll written] at refused
  obtain ⟨file, patches, stopped⟩ := @fill_of_error job
    ⟨clearedFile draft.file, .empty, job.nextCache draft.cache, scratch⟩ fault refused
  rw [build_run, written]
  simp only [stopped]
  exact ⟨_, rfl⟩

/-- A build that answers had room for everything, and this is what it leaves behind. -/
theorem build_eq_ok {job : Job} {draft built : Draft} {full : Bool}
    (ran : build job draft = .ok full built) :
    ∃ scratch patches,
      Buffer.writeAll (job.blobs (job.nextCache draft.cache)) draft.scratch = .ok () scratch ∧
      PatchTable.pushAll (job.pointers draft.scratch.handle) .empty = .ok patches ∧
      full = job.serialises draft.cache ∧
      built = { file := image job draft, patches, cache := job.nextCache draft.cache, scratch } := by
  cases written : Buffer.writeAll (job.blobs (job.nextCache draft.cache)) draft.scratch with
  | error fault scratch =>
      rw [build_run, written] at ran
      cases ran
  | ok done scratch =>
      cases pushed : PatchTable.pushAll (job.pointers draft.scratch.handle) .empty with
      | error fault =>
          obtain ⟨left, stopped⟩ := build_of_error written pushed
          cases ran.symm.trans stopped
      | ok patches =>
          rw [build_of_ok written pushed] at ran
          cases ran
          exact ⟨scratch, patches, rfl, rfl, rfl, rfl⟩

/-! ### What a build leaves alone -/

/-- A build changes only its own region of the scratch buffer, also when it is refused halfway. -/
theorem build_scratch (job : Job) (draft : Draft) :
    Buffer.ChangedIn job.region.Touches draft.scratch (Action.after (build job draft)).scratch := by
  have stored : Action.Keeps (Buffer.ChangedIn job.region.Touches)
      (Buffer.writeAll (job.blobs (job.nextCache draft.cache))) :=
    Buffer.writeAll_changedIn fun _ member _ low high => Job.touches_of_mem_blobs member low high
  rw [build_run]
  cases written : Buffer.writeAll (job.blobs (job.nextCache draft.cache)) draft.scratch with
  | error fault scratch => exact stored.error written
  | ok done scratch =>
      have changed := stored.ok written
      cases pushed : PatchTable.pushAll (job.pointers scratch.handle) .empty with
      | ok patches =>
          have filled := @fill_of_ok job
            ⟨clearedFile draft.file, .empty, job.nextCache draft.cache, scratch⟩ patches pushed
          simp only [filled]
          exact changed
      | error fault =>
          obtain ⟨file, patches, stopped⟩ := @fill_of_error job
            ⟨clearedFile draft.file, .empty, job.nextCache draft.cache, scratch⟩ fault pushed
          simp only [stopped]
          exact changed

/-- Only bits of the register file that belong to the task have changed. -/
structure Confined (before after : Draft) : Prop where
  size : after.file.size = before.file.size
  bits : ∀ i, ¬ Layout.Transient i → after.file.bitAt i = before.file.bitAt i

theorem Confined.steady : Action.Steady Confined where
  refl _ := ⟨rfl, fun _ _ => rfl⟩
  trans first second :=
    { size := second.size.trans first.size
      bits := fun i apart => (second.bits i apart).trans (first.bits i apart) }

theorem clear_confined : Action.Keeps Confined clear := by
  intro draft
  rw [clear_run, Action.after_ok]
  refine ⟨?_, fun i apart => ?_⟩
  · simp only [size_clearedFile]
  · have uncovered : ¬ ∃ sec ∈ Layout.cleared, sec.Covers i := fun covered => apart (.inl covered)
    simp only [bitAt_clearedFile, decide_eq_false uncovered, Bool.not_false, Bool.true_and]

theorem assign_confined {assignment : Assignment}
    (ofTask : ∀ entry ∈ assignment, Layout.OfTask entry.1) :
    Action.Keeps Confined (assign assignment) := by
  intro draft
  refine ⟨Assignment.size_store assignment draft.file, ?_⟩
  intro i apart
  exact Assignment.bitAt_store draft.file fun entry member covers =>
    apart ((ofTask entry member).transient covers)

theorem point_confined {pointers : List (Field × BitVec 32 × Nat)}
    (ofTask : ∀ pointer ∈ pointers, Layout.OfTask pointer.1) :
    Action.Keeps Confined (point pointers) := by
  induction pointers with
  | nil => exact .pure Confined.steady ()
  | cons pointer rest ih =>
      obtain ⟨field, value, offset⟩ := pointer
      have here : Action.Keeps Confined (assign [(field, value)]) :=
        assign_confined fun entry member => by
          rw [List.mem_singleton.mp member]
          exact ofTask _ List.mem_cons_self
      have later := ih fun other member => ofTask other (List.mem_cons_of_mem _ member)
      refine .bind Confined.steady here fun _ => ?_
      refine .bind Confined.steady ?_ fun _ => later
      intro draft
      cases pushed : draft.patches.push field.reg offset with
      | ok patches =>
          simp only [pushed, Action.after_ok]
          exact ⟨rfl, fun _ _ => rfl⟩
      | error fault =>
          simp only [pushed, Action.after_error]
          exact Confined.steady.refl draft

theorem onScratch_confined (action : Action Buffer Unit) :
    Action.Keeps Confined (onScratch action) := by
  intro draft
  rw [onScratch, Action.after_on]
  exact ⟨rfl, fun _ _ => rfl⟩

theorem fill_confined {job : Job} (sound : job.Sound) :
    Action.Keeps Confined (fill job) := by
  have steady := Confined.steady
  have every : ∀ scratch, ∀ entry ∈ job.assignment scratch, Layout.OfTask entry.1 :=
    fun scratch entry member => (Job.stores_of_mem sound member).ofTask sound
  simp only [Job.assignment, Job.pointers, List.map_append, List.mem_append, or_imp,
    forall_and] at every
  obtain ⟨⟨⟨⟨⟨⟨stream, geometry⟩, picture⟩, addresses⟩, lines, areas⟩, errorInfo⟩, references⟩ :=
    every
  have pointers : ∀ list : List (Field × BitVec 32 × Nat),
      (∀ entry ∈ list.map fun (field, value, _) => (field, value), Layout.OfTask entry.1) →
      ∀ pointer ∈ list, Layout.OfTask pointer.1 := by
    intro list ofTask pointer member
    exact ofTask _ (List.mem_map_of_mem member)
  have anyHandle := Handle.none
  refine .bind steady (assign_confined (stream anyHandle)) fun _ => ?_
  refine .bind steady (assign_confined (geometry anyHandle)) fun _ => ?_
  refine .bind steady (assign_confined (picture anyHandle)) fun _ => ?_
  refine .bind steady (assign_confined (addresses anyHandle)) fun _ => ?_
  refine .bind steady (point_confined (pointers _ (lines anyHandle))) fun _ => ?_
  refine .bind steady (.get steady) fun draft => ?_
  refine .bind steady (point_confined (pointers _ (areas draft.scratch.handle))) fun _ => ?_
  refine .bind steady (assign_confined (errorInfo anyHandle)) fun _ => ?_
  exact assign_confined (references anyHandle)

/-- A build keeps to its task's bits, also when it is refused halfway. -/
theorem build_confined {job : Job} (sound : job.Sound) : Action.Keeps Confined (build job) := by
  have steady := Confined.steady
  have read : Action.Keeps Confined (do
      let draft ← get
      set { draft with cache := job.nextCache draft.cache }
      onScratch (Buffer.writeAll (job.blobs (job.nextCache draft.cache)))
      fill job
      return job.serialises draft.cache) := by
    intro draft
    have cached : Confined draft { draft with cache := job.nextCache draft.cache } :=
      ⟨rfl, fun _ _ => rfl⟩
    have rest : Action.Keeps Confined (do
        onScratch (Buffer.writeAll (job.blobs (job.nextCache draft.cache)))
        fill job
        return job.serialises draft.cache) :=
      .bind steady (onScratch_confined _) fun _ =>
        .bind steady (fill_confined sound) fun _ => .pure steady _
    rw [Action.bind_of_ok (Action.get_run draft), Action.bind_of_ok (Action.set_run _ draft)]
    exact steady.trans cached (rest _)
  rw [build_eq]
  exact .bind steady clear_confined fun _ => read

end Draft

end VideoAccel
