import VideoAccel.Proofs.Memory.Words
import VideoAccel.Proofs.Picture.ParameterCache
import VideoAccel.Proofs.Program.Build

/-!
The blobs of a task in scratch memory.

A build that answers leaves the blobs of its task in its region, the parameter entry 256 times
(`Draft.build_holds`), and a build that is refused has brought the parameter cache up to date all the
same (`Draft.cache_build`).

The parameter sets may be written many times on one cache. If every change of theirs is announced,
the region holds after each call what a serialisation from scratch leaves there, however many
pictures reused a header before (`Draft.writeParameters_announced`).
-/

namespace VideoAccel

/-! ### Copies of an entry -/

namespace Buffer

/-- The region of parameter sets that starts here holds copies of one entry. -/
def HoldsCopies (buffer : Buffer) (start : Nat) (entry : Bytes) : Prop :=
  ∀ copy < parameterEntryCount, buffer.HoldsAt (start + copy * parameterEntryBytes) entry

/-- Every byte of the region belongs to one of the copies. -/
theorem HoldsCopies.byteAt {buffer : Buffer} {start : Nat} {entry : Bytes}
    (holds : buffer.HoldsCopies start entry) (size : entry.size = parameterEntryBytes)
    {position : Nat} (low : start ≤ position)
    (high : position < start + parameterEntryCount * parameterEntryBytes) :
    buffer.byteAt position = entry.at0 ((position - start) % parameterEntryBytes) := by
  have inside : (position - start) % parameterEntryBytes < parameterEntryBytes :=
    Nat.mod_lt _ (by decide)
  have copy : (position - start) / parameterEntryBytes < parameterEntryCount :=
    Nat.div_lt_of_lt_mul (by rw [Nat.mul_comm]; omega)
  have place : start + (position - start) / parameterEntryBytes * parameterEntryBytes +
      (position - start) % parameterEntryBytes = position := by
    rw [Nat.add_assoc, Nat.mul_comm, Nat.div_add_mod]
    omega
  rw [← holds _ copy _ (size ▸ inside), place]

theorem inOrder_parameterCopies (start : Nat) {entry : Bytes}
    (size : entry.size = parameterEntryBytes) : InOrder (Blob.parameterCopies start entry) := by
  refine List.pairwise_map.mpr (List.Pairwise.imp ?_ List.pairwise_lt_range)
  intro first second before
  have next : (first + 1) * parameterEntryBytes ≤ second * parameterEntryBytes :=
    Nat.mul_le_mul_right _ before
  rw [Nat.succ_mul] at next
  simp only
  omega

/-- Copies among pieces that all hold. -/
theorem holdsCopies_of_forall {buffer : Buffer} {start : Nat} {entry : Bytes}
    (holds : ∀ piece ∈ Blob.parameterCopies start entry, buffer.HoldsAt piece.1 piece.2) :
    buffer.HoldsCopies start entry :=
  fun _ known => holds _ (List.mem_map_of_mem (List.mem_range.mpr known))

end Buffer

/-- A reader of any copy reads the words of the cache. -/
theorem ParameterCache.reader_eq {cache : ParameterCache}
    (size : cache.words.size = parameterEntryBytes / 8) {buffer : Buffer} {start copy : Nat}
    (holds : buffer.HoldsCopies start cache.entry) (known : copy < parameterEntryCount) :
    buffer.reader (start + copy * parameterEntryBytes) (parameterEntryBytes / 8) =
      .ofWords cache.words := by
  have stored := holds copy known
  rw [← size]
  apply Buffer.reader_of_holdsAt
  rwa [size]

/-- In every copy there is the entry. -/
theorem ParameterCache.copy_reads {cache : ParameterCache} {header picture : Picture}
    (bits : Words.toBits cache.words.toList = Picture.entryBits header picture) {buffer : Buffer}
    {start copy : Nat} (holds : buffer.HoldsCopies start cache.entry)
    (known : copy < parameterEntryCount) :
    ∃ next, ParameterEntry.read (buffer.reader (start + copy * parameterEntryBytes)
        (parameterEntryBytes / 8)) = .ok ((ParameterEntry.of picture).withHeader header) next ∧
      next.ahead = List.replicate Picture.paddingLength false := by
  rw [reader_eq (size_of_bits bits) holds known]
  exact entry_reads bits

/-- Copies of an entry with the bitmaps of a picture are those of a serialisation from scratch exactly
if the header reads like that of the picture. -/
theorem ParameterCache.holdsCopies_fresh_iff {cache : ParameterCache} {header picture : Picture}
    (bits : Words.toBits cache.words.toList = Picture.entryBits header picture) {buffer : Buffer}
    {start : Nat} (holds : buffer.HoldsCopies start cache.entry) :
    buffer.HoldsCopies start picture.freshEntry ↔
      Writer.string header.headerFields = Writer.string picture.headerFields := by
  have fresh := (update_full holds_empty.size picture).2
  rw [← @Picture.entryBits_inj picture, ← bits, ← fresh]
  constructor
  · intro other
    -- A reader of the first copy finds the words of both caches.
    have first : 0 < parameterEntryCount := by decide
    have same := (reader_eq (size_of_bits bits) holds first).symm.trans
      (reader_eq (size_of_bits fresh) other first)
    have words : cache.words = (({} : ParameterCache).update picture true).words :=
      congrArg Reader.words same
    rw [words]
  · intro same
    rwa [Picture.freshEntry, ← entry_congr same]

/-! ### Builds -/

/-- The areas of a region lie one behind the other. -/
structure ScratchRegion.Ordered (region : ScratchRegion) : Prop where
  lists : region.parameters + parameterEntryCount * parameterEntryBytes ≤ region.lists
  scaling : region.lists + listBytes ≤ region.scaling

theorem ScratchLayout.ordered_region {layout : ScratchLayout} (sizes : layout.sizes = scratchSizes)
    (fits : layout.Fits) {index : Nat} (known : index < layout.copies) :
    (layout.region index).Ordered where
  lists := by
    rw [fits.lists_region known, sizes]
    exact Nat.add_le_add_left (le_alignPage _) _
  scaling := by
    rw [fits.scaling_region known, sizes]
    exact Nat.add_le_add_left (le_alignPage _) _

/-- The buffer holds the blobs of a picture, the parameter sets as the cache has them. -/
structure Buffer.HoldsBlobs (buffer : Buffer) (region : ScratchRegion) (coded : CodedPicture)
    (cache : ParameterCache) : Prop where
  parameters : buffer.HoldsCopies region.parameters cache.entry
  lists : buffer.HoldsAt region.lists (Blob.referenceLists coded)
  scaling : buffer.HoldsAt region.scaling coded.picture.scalingLists.toBytes

theorem Job.inOrder_blobs {job : Job} (ordered : job.region.Ordered) (cache : ParameterCache) :
    Buffer.InOrder (job.blobs cache) := by
  refine List.pairwise_append.mpr ⟨Buffer.inOrder_parameterCopies _ cache.size_entry, ?_, ?_⟩
  · refine List.pairwise_pair.mpr ?_
    rw [Blob.size_referenceLists]
    exact ordered.scaling
  · intro piece copy area rest
    obtain ⟨i, known, rfl⟩ := List.mem_map.mp copy
    have last : (i + 1) * parameterEntryBytes ≤ parameterEntryCount * parameterEntryBytes :=
      Nat.mul_le_mul_right _ (List.mem_range.mp known)
    have lists := ordered.lists
    have scaling := ordered.scaling
    rw [Nat.succ_mul] at last
    simp only [cache.size_entry]
    simp only [List.mem_cons, List.not_mem_nil, or_false] at rest
    rcases rest with rfl | rfl <;> simp only <;> omega

namespace Draft

/-- A build that answers leaves its blobs in scratch memory. -/
theorem build_holds {job : Job} {draft built : Draft} {full : Bool} (ordered : job.region.Ordered)
    (ran : build job draft = .ok full built) :
    built.scratch.HoldsBlobs job.region job.coded (job.nextCache draft.cache) := by
  obtain ⟨scratch, patches, written, -, -, rfl⟩ := build_eq_ok ran
  have holds := Buffer.holdsAt_of_writeAll (job.inOrder_blobs ordered _) written
  rw [Job.blobs] at holds
  obtain ⟨copies, rest⟩ := List.forall_mem_append.mp holds
  simp only [List.forall_mem_cons, List.not_mem_nil, false_implies, implies_true, and_true] at rest
  exact ⟨Buffer.holdsCopies_of_forall copies, rest.1, rest.2⟩

/-- Whether it answers or is refused, a build has brought the parameter cache up to date. -/
theorem cache_build (job : Job) (draft : Draft) :
    (Action.after (build job draft)).cache = job.nextCache draft.cache := by
  rw [build_run]
  cases written : Buffer.writeAll (job.blobs (job.nextCache draft.cache)) draft.scratch with
  | error fault scratch => rfl
  | ok done scratch =>
      cases pushed : PatchTable.pushAll (job.pointers scratch.handle) .empty with
      | ok patches =>
          have filled := @fill_of_ok job
            ⟨clearedFile draft.file, .empty, job.nextCache draft.cache, scratch⟩ patches pushed
          simp only [filled]
          rfl
      | error fault =>
          obtain ⟨file, patches, stopped⟩ := @fill_of_error job
            ⟨clearedFile draft.file, .empty, job.nextCache draft.cache, scratch⟩ fault pushed
          simp only [stopped]
          rfl

end Draft

/-! ### Writing the parameter sets -/

/-- The parameter sets of a task go into the buffer. -/
def Job.FitsIn (job : Job) (scratch : Buffer) : Prop :=
  job.region.parameters + parameterEntryCount * parameterEntryBytes ≤ scratch.size

namespace Draft

theorem writeParameters_run (job : Job) (draft : Draft) :
    writeParameters job draft =
      match Buffer.writeAll (Blob.parameterCopies job.region.parameters
        (job.nextCache draft.cache).entry) draft.scratch with
      | .ok _ scratch =>
          .ok (job.serialises draft.cache) { draft with cache := job.nextCache draft.cache, scratch }
      | .error fault scratch =>
          .error fault { draft with cache := job.nextCache draft.cache, scratch } := by
  have same : draft.cache.update job.coded.picture
      (draft.cache.mustSerialise job.coded.picture job.serialiseAll) =
        job.nextCache draft.cache := rfl
  simp only [writeParameters, Bind.bind, EStateM.bind, Action.get_run, Action.set_run, onScratch,
    Action.on, same]
  cases Buffer.writeAll (Blob.parameterCopies job.region.parameters
    (job.nextCache draft.cache).entry) draft.scratch with
  | ok done scratch => rfl
  | error fault scratch => rfl

/-- Whether the copies could be stored or not, the cache has seen the picture. -/
theorem cache_writeParameters (job : Job) (draft : Draft) :
    (Action.after (writeParameters job draft)).cache = job.nextCache draft.cache := by
  rw [writeParameters_run]
  cases Buffer.writeAll (Blob.parameterCopies job.region.parameters
    (job.nextCache draft.cache).entry) draft.scratch with
  | ok done scratch => rfl
  | error fault scratch => rfl

theorem size_writeParameters (job : Job) (draft : Draft) :
    (Action.after (writeParameters job draft)).scratch.size = draft.scratch.size := by
  have stored : Action.Keeps (Buffer.ChangedIn fun _ => True) (Buffer.writeAll
      (Blob.parameterCopies job.region.parameters (job.nextCache draft.cache).entry)) :=
    Buffer.writeAll_changedIn fun _ _ _ _ _ => trivial
  rw [writeParameters_run]
  cases written : Buffer.writeAll (Blob.parameterCopies job.region.parameters
    (job.nextCache draft.cache).entry) draft.scratch with
  | ok done scratch => exact (stored.ok written).size
  | error fault scratch => exact (stored.error written).size

/-- In a region inside the buffer the copies of the entry are stored. -/
theorem writeParameters_of_fits (job : Job) (draft : Draft) (fits : job.FitsIn draft.scratch) :
    ∃ final, writeParameters job draft = .ok (job.serialises draft.cache) final ∧
      final.scratch.HoldsCopies job.region.parameters (job.nextCache draft.cache).entry := by
  have size := (job.nextCache draft.cache).size_entry
  have inside : ∀ piece ∈ Blob.parameterCopies job.region.parameters
      (job.nextCache draft.cache).entry, piece.1 + piece.2.size ≤ draft.scratch.size := by
    intro piece member
    obtain ⟨copy, known, rfl⟩ := List.mem_map.mp member
    have last : (copy + 1) * parameterEntryBytes ≤ parameterEntryCount * parameterEntryBytes :=
      Nat.mul_le_mul_right _ (List.mem_range.mp known)
    unfold Job.FitsIn at fits
    simp only [size]
    rw [Nat.succ_mul] at last
    omega
  obtain ⟨scratch, written⟩ := Buffer.writeAll_ok draft.scratch inside
  refine ⟨_, by rw [writeParameters_run, written], ?_⟩
  exact Buffer.holdsCopies_of_forall
    (Buffer.holdsAt_of_writeAll (Buffer.inOrder_parameterCopies _ size) written)

/-! ### Calls in a row -/

/-- Writes the parameter sets of several tasks in turn, whether the copies could be stored or
not. -/
def writeEach (jobs : List Job) (draft : Draft) : Draft :=
  jobs.foldl (fun draft job => Action.after (writeParameters job draft)) draft

theorem writeEach_concat (jobs : List Job) (job : Job) (draft : Draft) :
    writeEach (jobs ++ [job]) draft = Action.after (writeParameters job (writeEach jobs draft)) := by
  rw [writeEach, List.foldl_concat]
  rfl

theorem size_writeEach (jobs : List Job) (draft : Draft) :
    (writeEach jobs draft).scratch.size = draft.scratch.size := by
  induction jobs using List.reverseRecOn with
  | nil => rfl
  | append_singleton jobs job ih => rw [writeEach_concat, size_writeParameters, ih]

/-- Pictures that are served in turn, each of which announces every change of the parameter sets
since the one before it. -/
def Announced (jobs : List Job) : Prop :=
  (jobs.map (·.coded.picture)).IsChain Picture.Announces

theorem announced_concat_iff {jobs : List Job} {job : Job} :
    Announced (jobs ++ [job]) ↔ Announced jobs ∧
      ∀ earlier ∈ (jobs.map (·.coded.picture)).getLast?, earlier.Announces job.coded.picture := by
  simp [Announced, List.isChain_append]

/-- After announced calls the cache stands for the last picture served. -/
theorem holds_writeEach {jobs : List Job} {draft : Draft} (unused : draft.cache = {})
    (announced : Announced jobs) :
    (writeEach jobs draft).cache.Holds (jobs.map (·.coded.picture)).getLast? := by
  induction jobs using List.reverseRecOn with
  | nil =>
      rw [writeEach, List.foldl_nil, unused]
      exact ParameterCache.holds_empty
  | append_singleton jobs job ih =>
      obtain ⟨earlier, last⟩ := announced_concat_iff.mp announced
      rw [writeEach_concat, cache_writeParameters, List.map_append, List.map_singleton,
        List.getLast?_concat]
      exact ((ih earlier).update_announced last job.serialiseAll).1

/-- A serialisation from scratch that is demanded of an unused cache. -/
theorem nextCache_unused (job : Job) :
    Words.toBits ({ job with serialiseAll := true }.nextCache {}).words.toList =
      Picture.entryBits job.coded.picture job.coded.picture :=
  (ParameterCache.holds_empty.update job.coded.picture true).2

/-- When calls on one parameter cache announce every change of the parameter sets, the region of each
of them holds, byte for byte, what a demanded serialisation from scratch with an unused cache leaves
there. -/
theorem writeParameters_announced (draft : Draft) (unused : draft.cache = {}) (jobs : List Job)
    (job : Job) (announced : Announced (jobs ++ [job])) (fits : job.FitsIn draft.scratch) :
    ∃ final, writeParameters job (writeEach jobs draft) =
        .ok (job.serialises (writeEach jobs draft).cache) final ∧
      ∀ other : Draft, other.cache = {} → other.scratch.size = draft.scratch.size →
        ∃ forced, writeParameters { job with serialiseAll := true } other = .ok true forced ∧
          ∀ position, job.region.parameters ≤ position →
            position < job.region.parameters + parameterEntryCount * parameterEntryBytes →
            final.scratch.byteAt position = forced.scratch.byteAt position := by
  obtain ⟨earlier, last⟩ := announced_concat_iff.mp announced
  have fitsLater : job.FitsIn (writeEach jobs draft).scratch := by
    rwa [Job.FitsIn, size_writeEach]
  obtain ⟨final, ran, copies⟩ := writeParameters_of_fits job (writeEach jobs draft) fitsLater
  refine ⟨final, ran, fun other empty size => ?_⟩
  have fitsOther : job.FitsIn other.scratch := by rwa [Job.FitsIn, size]
  obtain ⟨forced, rerun, own⟩ :=
    writeParameters_of_fits { job with serialiseAll := true } other fitsOther
  have bits := ((holds_writeEach unused earlier).update_announced last job.serialiseAll).2
  have same : (job.nextCache (writeEach jobs draft).cache).entry =
      ({ job with serialiseAll := true }.nextCache other.cache).entry := by
    rw [empty]
    exact ParameterCache.entry_congr (bits.trans (nextCache_unused job).symm)
  refine ⟨forced, rerun, fun position low high => ?_⟩
  rw [copies.byteAt (ParameterCache.size_entry _) low high, same,
    own.byteAt (ParameterCache.size_entry _) low high]

/-- A picture with a reference follows one without, under the same parameter sets: the header is not
serialised again, and every byte is as if it were. -/
theorem second_header_reused :
    let job : Picture → Job := fun picture =>
      { coded := { picture }, references := picture.resolveReferences (fun _ => none) 0
        frame? := fun _ => none, stream := .none, streamLength := 0, outputSlot := 0
        region := ⟨0, 12288, 12416⟩, motion := .empty, lines := .empty [], compressed := false
        serialiseAll := false }
    let draft : Draft := ⟨#[], .empty, {}, .blank .none 12288⟩
    let first : Picture := {}
    let second : Picture :=
      { references := Vector.replicate _ { present := true, longTerm := true } }
    ∃ final forced, writeParameters (job second) (writeEach [job first] draft) = .ok false final ∧
      writeParameters { job second with serialiseAll := true } draft = .ok true forced ∧
      ∀ position < 12288, final.scratch.byteAt position = forced.scratch.byteAt position := by
  intro job draft first second
  have announced : Announced ([job first] ++ [job second]) :=
    .cons_cons (.inr (.inr ⟨rfl, rfl⟩)) (.singleton _)
  have reuses : (job second).serialises (writeEach [job first] draft).cache = false := by
    rw [writeEach, List.foldl_cons, List.foldl_nil, cache_writeParameters, Job.serialises,
      ParameterCache.mustSerialise, Job.nextCache, ParameterCache.key_update]
    rfl
  have whole : parameterEntryCount * parameterEntryBytes = 12288 := by decide
  have fits : (job second).FitsIn draft.scratch := Nat.le_of_eq ((Nat.zero_add _).trans whole)
  obtain ⟨final, ran, agrees⟩ :=
    writeParameters_announced draft rfl [job first] (job second) announced fits
  obtain ⟨forced, rerun, same⟩ := agrees draft rfl rfl
  rw [reuses] at ran
  exact ⟨final, forced, ran, rerun, fun position inside =>
    same position (Nat.zero_le _) (by rw [whole, Nat.zero_add]; exact inside)⟩

end Draft

end VideoAccel
