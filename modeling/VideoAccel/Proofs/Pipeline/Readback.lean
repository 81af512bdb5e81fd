import VideoAccel.Proofs.Picture.ReferenceLists
import VideoAccel.Proofs.Pipeline.Caches
import VideoAccel.Proofs.Pipeline.Progress

/-!
What the hardware reads of a task.

The blobs of a generated task are read back with the bit reader from the scratch buffer. Where the
parameter sets were serialised anew, each of the 256 entries says what there is to learn about the
picture, and nothing else can have led to the same bytes (`Reachable.parameters_read_back`). The
reference lists say what stands in each of their places, and the scaling matrices lie there
coefficient by coefficient (`Reachable.lists_read_back`).
-/

namespace VideoAccel

variable {δ α : Type} {session later : Session δ α} {task : Task} {index : Nat}

/-- A `generate` of the task in this slot serialises the parameter sets anew: in fast mode it always
does, otherwise if the parser announces a change or the slot's cache goes by other numbers. -/
def Session.Renews (session : Session δ α) (task : Task) (index : Nat) : Prop :=
  session.config.fastMode = true ∨ task.coded.picture.parametersUpdated = true ∨
    ∀ cache, session.cacheOf? index = some cache →
      cache.key ≠ some task.coded.picture.parameterKey

theorem Session.Renews.mustSerialise (renews : session.Renews task index) {cache : ParameterCache}
    (found : session.cacheOf? index = some cache) :
    cache.mustSerialise task.coded.picture session.config.fastMode = true := by
  rw [ParameterCache.mustSerialise]
  rcases renews with fast | updated | other
  · rw [fast, Bool.true_or, Bool.true_or]
  · rw [updated, Bool.or_true, Bool.true_or]
  · rw [bne_iff_ne.mpr (other cache found), Bool.or_true]

section Readback

variable [Device δ] [Allocator α] {surroundings : Board δ α → Board δ α → Prop}

/-- Every copy of the entry is read back. -/
theorem Reachable.entry_read_back (reached : Reachable surroundings session)
    (generated : session.Generated task index later) (renews : session.Renews task index)
    {copy : Nat} (known : copy < parameterEntryCount) :
    ∃ next, ParameterEntry.read (later.scratch.reader
        ((later.layout.region index).parameters + copy * parameterEntryBytes)
        (parameterEntryBytes / 8)) = .ok (.of task.coded.picture) next ∧
      next.ahead = List.replicate Picture.paddingLength false := by
  obtain ⟨layout, -, cache, found, -, blobs⟩ := generated.blobs reached.formed
  obtain ⟨header, holds⟩ := reached.caching index cache found
  have full := renews.mustSerialise found
  have bits := (ParameterCache.update_full holds.size task.coded.picture).2
  have parameters := blobs.parameters
  rw [Session.serve, full] at parameters
  rw [layout]
  exact ParameterCache.copy_reads bits parameters known

/-- After a task was generated and its parameter sets were serialised anew, each of the 256 entries of
its region is read back as what there is to learn about the picture: every field modulo two to its
width, the rows that are long-term references and those that are present; behind them there are only
zeros. Pictures whose fields lie in their ranges, as those of the standard do, agree in all that an
entry holds if it was serialised to the same bytes. -/
theorem Reachable.parameters_read_back (reached : Reachable surroundings session)
    (generated : session.Generated task index later) (renews : session.Renews task index) :
    let start := (later.layout.region index).parameters
    (∀ copy < 256, ∃ next, ParameterEntry.read (later.scratch.reader (start + copy * 48) 6) =
        .ok (.of task.coded.picture) next ∧ next.ahead = List.replicate 227 false) ∧
    (task.coded.picture.Conforms → task.coded.picture.Fits) ∧
    ∀ {others : Board δ α → Board δ α → Prop} {other final : Session δ α} {second : Task}
      {place : Nat}, Reachable others other → other.Generated second place final →
      other.Renews second place → task.coded.picture.Fits → second.coded.picture.Fits →
      (∀ k < 48, later.scratch.byteAt (start + k) =
        final.scratch.byteAt ((final.layout.region place).parameters + k)) →
      task.coded.picture.Agree second.coded.picture := by
  intro start
  refine ⟨fun copy known => reached.entry_read_back generated renews known,
    Picture.Conforms.fits, ?_⟩
  intro others other final second place reachedOther generatedSecond renewsSecond fits fitting same
  have copies : 0 < parameterEntryCount := by decide
  obtain ⟨next, first, -⟩ := reached.entry_read_back generated renews copies
  obtain ⟨last, again, -⟩ := reachedOther.entry_read_back generatedSecond renewsSecond copies
  rw [Nat.zero_mul, Nat.add_zero] at first again
  rw [Buffer.reader_congr same, again] at first
  exact ParameterEntry.tells fits fitting (EStateM.Result.ok.inj first).1.symm

/-- The first picture, which is 64 pixels wide and high, is read back from the last entry of its
region. -/
theorem first_picture_read_back : ∃ session later : Session SimulatedDevice Arena,
    Reachable (fun _ _ => False) session ∧ session.Generated (.ofSize 0 64 64) 0 later ∧
      ∃ entry next, ParameterEntry.read
          (later.scratch.reader ((later.layout.region 0).parameters + 255 * 48) 6) =
            .ok entry next ∧
        entry.sequence.widthInMacroblocks = 4 ∧ next.ahead = List.replicate 227 false := by
  obtain ⟨opened, built, -, -, reached, generated, -, -, -, -, -, -, -, -, slots⟩ :=
    Session.first_picture fun _ _ => False
  have taken : opened.Generated (.ofSize 0 64 64) 0 built := ⟨rfl, generated⟩
  have renews : opened.Renews (.ofSize 0 64 64) 0 := by
    refine .inr (.inr fun cache found => ?_)
    rw [Session.cacheOf?, slots] at found
    cases found
    intro same
    cases same
  obtain ⟨entries, -⟩ := reached.parameters_read_back taken renews
  obtain ⟨next, entry, zeros⟩ := entries 255 (by decide)
  exact ⟨opened, built, reached, taken, _, next, entry, by decide, zeros⟩

/-- After a task was generated its reference lists are read back: the frame numbers of the rows that
are present, modulo two to the 16, and for each of the 32 places of either list the row, the field and
whether the entry is valid; what is missing or absent is zero, behind the lists there are only zeros,
and entries beyond the 32nd make no difference. The 480 bytes of the scaling matrices are their
coefficients, or all 16 if the picture brings none. -/
theorem Reachable.lists_read_back (reached : Reachable surroundings session)
    (generated : session.Generated task index later) :
    let region := later.layout.region index
    (∃ next, ListBlock.read (later.scratch.reader region.lists 16) = .ok (.of task.coded) next ∧
      next.ahead = List.replicate 320 false) ∧
    (∀ lists : ReferenceLists, lists.list0.take 32 = task.coded.lists.list0.take 32 →
      lists.list1.take 32 = task.coded.lists.list1.take 32 →
      later.scratch.HoldsAt region.lists (Blob.referenceLists { task.coded with lists })) ∧
    (∀ matrices, task.coded.picture.scaling = some matrices → ∀ i : Fin 6,
      (∀ k : Fin 16, later.scratch.byteAt (region.scaling + (16 * i + k)) = matrices.small[i][k]) ∧
      ∀ k : Fin 64,
        later.scratch.byteAt (region.scaling + (96 + 64 * i + k)) = matrices.large[i][k]) ∧
    (task.coded.picture.scaling = none → ∀ k < 480,
      later.scratch.byteAt (region.scaling + k) = 16) := by
  intro region
  obtain ⟨layout, -, cache, -, -, blobs⟩ := generated.blobs reached.formed
  rw [← layout] at blobs
  have lists := blobs.lists
  have scaling := blobs.scaling
  rw [Blob.referenceLists_eq, ← Blob.size_listWords task.coded] at lists
  refine ⟨?_, ?_, ?_, ?_⟩
  · have reader := Buffer.reader_of_holdsAt lists
    rw [Blob.size_listWords] at reader
    rw [reader]
    exact Blob.referenceLists_reads task.coded
  · intro other list0 list1
    have same : Blob.referenceLists { task.coded with lists := other } =
        Blob.referenceLists task.coded := Blob.referenceLists_congr rfl list0 list1
    rw [same]
    exact blobs.lists
  · intro matrices brings i
    have own : task.coded.picture.scalingLists = matrices := by
      rw [Picture.scalingLists, brings, Option.getD_some]
    rw [own] at scaling
    have size : matrices.toBytes.size = 480 := ScalingLists.size_toBytes _
    constructor
    · intro k
      rw [scaling _ (by omega), matrices.at0_small i.isLt k.isLt]
      rfl
    · intro k
      rw [scaling _ (by omega), matrices.at0_large i.isLt k.isLt]
      rfl
  · intro brings k known
    have flat : task.coded.picture.scalingLists = .flat := by
      rw [Picture.scalingLists, brings, Option.getD_none]
    rw [flat] at scaling
    rw [scaling k (by rw [ScalingLists.size_toBytes]; exact known), ScalingLists.at0_flat known]

/-- A list of 33 entries for row 35 is read back as 32 entries for row 3; without matrices of its own
the picture has flat ones. -/
theorem long_list_read_back : ∃ session later : Session SimulatedDevice Arena,
    let entry : ListEntry := { present := true, index := 35, bottom := true }
    let task : Task := { Task.ofSize 0 64 64 with
      coded := { (Task.ofSize 0 64 64).coded with lists := ⟨List.replicate 33 entry, []⟩ } }
    Reachable (fun _ _ => False) session ∧ session.Generated task 0 later ∧
      (∃ block next, ListBlock.read (later.scratch.reader (later.layout.region 0).lists 16) =
          .ok block next ∧ block.list0 = List.replicate 32 ⟨3, true, true⟩) ∧
      later.scratch.byteAt ((later.layout.region 0).scaling + 479) = 16 := by
  obtain ⟨opened, initialised, able, slots, -, -, compressed, -⟩ :=
    @Decoder.initialise_atRest {} rfl true 1 64 64
  have run : Run (fun _ _ => False) (.idle (Board.atRest 1 64 64)) _ _ :=
    .call .nil (.initialise {} true)
  rw [Call.next_initialise, initialised, Action.after_ok] at run
  have free : opened.slots.FirstFree 0 ⟨false, .idle, .fresh {}⟩ := by
    rw [slots]
    exact SlotPool.ofDepth_firstFree (by decide) _
  let entry : ListEntry := { present := true, index := 35, bottom := true }
  let task : Task := { Task.ofSize 0 64 64 with
    coded := { (Task.ofSize 0 64 64).coded with lists := ⟨List.replicate 33 entry, []⟩ } }
  obtain ⟨supply, scratch, content, journal, -, generated, -⟩ :=
    @Session.generate_of_able _ able task rfl (fun _ => nofun) _ _ free (by
      rw [Session.shapeOf_ofSize compressed]
      decide)
  have reached : Reachable (fun _ _ => False) opened := ⟨_, _, run⟩
  have taken : opened.Generated task 0 _ := ⟨rfl, generated⟩
  obtain ⟨⟨next, read, -⟩, -, -, flat⟩ := reached.lists_read_back taken
  exact ⟨opened, _, reached, taken, ⟨_, next, read, by decide⟩, flat rfl 479 (by decide)⟩

end Readback

end VideoAccel
