import VideoAccel.Proofs.Memory.Books

/-!
Who owns the buffers that are out.

`Arena.Owes arena tags` says that the live buffers of an arena are exactly the tagged ones, that no
two of them share a handle, and that all their handles were handed out before. Handing out and taking
back change the tags by one (`alloc_owes`, `release_owes`), so an arena keeps books: `Books.provides`
says what the line buffer cache and the motion vector pool own after each attempt to get ready.

Handles are never used again: `Later` relates an arena to the ones it can become, and a handle that
is not live in the earlier one, though it was handed out, is not live in the later one.
-/

namespace VideoAccel

namespace Arena

/-- The handle names a live buffer. -/
def Live (arena : Arena) (handle : Handle) : Prop :=
  ∃ size, (handle, size) ∈ arena.live

/-- The live buffers are the tagged ones. -/
structure Owes (arena : Arena) (tags : List (Handle × Nat)) : Prop where
  live : arena.live.Perm tags
  distinct : (tags.map Prod.fst).Nodup
  issued : ∀ tag ∈ tags, tag.1.value < arena.nextHandle

variable {arena after : Arena} {tags : List (Handle × Nat)}

theorem owes_nil (vacant : arena.live = []) : arena.Owes [] :=
  ⟨.of_eq vacant, List.nodup_nil, fun _ impossible => absurd impossible List.not_mem_nil⟩

theorem Owes.live_iff (owes : arena.Owes tags) {handle : Handle} :
    arena.Live handle ↔ ∃ tag ∈ tags, tag.1 = handle := by
  constructor
  · rintro ⟨size, member⟩
    exact ⟨(handle, size), owes.live.mem_iff.mp member, rfl⟩
  · rintro ⟨⟨handle, size⟩, member, rfl⟩
    exact ⟨size, owes.live.mem_iff.mpr member⟩

theorem Owes.perm {other : List (Handle × Nat)} (owes : arena.Owes tags) (perm : tags.Perm other) :
    arena.Owes other where
  live := owes.live.trans perm
  distinct := (perm.map _).nodup_iff.mp owes.distinct
  issued tag member := owes.issued tag (perm.mem_iff.mpr member)

/-- What an arena refuses has no part in this. -/
theorem Owes.of_same {other : Arena} (owes : arena.Owes tags) (live : other.live = arena.live)
    (next : other.nextHandle = arena.nextHandle) : other.Owes tags where
  live := live ▸ owes.live
  distinct := owes.distinct
  issued := next ▸ owes.issued

theorem alloc_cases (size : Nat) (arena : Arena) :
    (arena.refuses = true ∧ alloc size arena = .error (.allocationRefused size) arena) ∨
    (arena.refuses = false ∧ alloc size arena =
      .ok (.blank ⟨arena.nextHandle⟩ size)
        { arena with
          nextHandle := arena.nextHandle + 1
          live := arena.live ++ [(⟨arena.nextHandle⟩, size)]
          sizes := arena.sizes ++ [size] }) := by
  unfold alloc
  cases refuses : arena.refuses with
  | true => exact .inl ⟨rfl, rfl⟩
  | false => exact .inr ⟨rfl, rfl⟩

/-- A buffer that was handed out is owned by whoever asked for it. -/
theorem alloc_owes {size : Nat} {buffer : Buffer} (owes : arena.Owes tags)
    (ran : alloc size arena = .ok buffer after) : after.Owes (buffer.tag :: tags) := by
  rcases alloc_cases size arena with ⟨-, refused⟩ | ⟨-, granted⟩
  · rw [refused] at ran
    cases ran
  · rw [granted] at ran
    cases ran
    refine ⟨?_, ?_, ?_⟩
    · exact (List.perm_append_singleton _ _).trans (owes.live.cons _)
    · refine List.nodup_cons.mpr ⟨?_, owes.distinct⟩
      intro known
      obtain ⟨other, member, same⟩ := List.mem_map.mp known
      have below := owes.issued other member
      rw [same] at below
      exact absurd below (Int.lt_irrefl _)
    · intro other member
      rcases List.mem_cons.mp member with rfl | old
      · exact Int.lt_succ _
      · exact Int.lt_trans (owes.issued other old) (Int.lt_succ _)

theorem alloc_refused {size : Nat} {fault : Fault} (ran : alloc size arena = .error fault after) :
    after = arena :=
  (alloc_eq_error_iff.mp ran).2.2

/-- A buffer that was given back is owned no more. -/
theorem release_owes {buffer : Buffer} (owes : arena.Owes (buffer.tag :: tags)) :
    (release buffer arena).Owes tags := by
  obtain ⟨fresh, distinct⟩ := List.nodup_cons.mp owes.distinct
  refine ⟨?_, distinct, fun other member => owes.issued other (List.mem_cons_of_mem _ member)⟩
  have kept : tags.filter (fun entry => decide (entry.1 ≠ buffer.handle)) = tags := by
    apply List.filter_eq_self.mpr
    intro entry member
    rw [decide_eq_true_iff]
    intro same
    exact fresh (List.mem_map.mpr ⟨entry, member, same⟩)
  have filtered := owes.live.filter fun entry => decide (entry.1 ≠ buffer.handle)
  rw [List.filter_cons_of_neg (by simp [Buffer.tag]), kept] at filtered
  exact filtered

instance : Books Arena where
  Owes := Owes
  perm owes same := owes.perm same
  grant owes granted := alloc_owes owes granted
  refuse owes refused := alloc_refused refused ▸ owes
  release owes := release_owes owes
  sync _ owes := owes

/-! ### Handles are never used again -/

/-- The second arena is one that the first can become. -/
structure Later (before after : Arena) : Prop where
  next : before.nextHandle ≤ after.nextHandle
  dead : ∀ handle : Handle, handle.value < before.nextHandle → after.Live handle →
    before.Live handle

theorem Later.steady : Action.Steady Later where
  refl _ := ⟨Int.le_refl _, fun _ _ live => live⟩
  trans first second :=
    { next := Int.le_trans first.next second.next
      dead := fun handle known live =>
        first.dead handle known (second.dead handle (Int.lt_of_lt_of_le known first.next) live) }

theorem alloc_later (size : Nat) : Action.Keeps Later (alloc size) := by
  intro arena
  rcases alloc_cases size arena with ⟨-, refused⟩ | ⟨-, granted⟩
  · rw [refused]
    exact Later.steady.refl arena
  · rw [granted]
    refine ⟨Int.le_of_lt (Int.lt_succ _), ?_⟩
    rintro handle known ⟨size, member⟩
    rcases List.mem_append.mp member with old | new
    · exact ⟨size, old⟩
    · cases List.mem_singleton.mp new
      exact absurd known (Int.lt_irrefl _)

theorem release_later (buffer : Buffer) (arena : Arena) : Later arena (release buffer arena) := by
  refine ⟨Int.le_refl _, ?_⟩
  rintro handle - ⟨size, member⟩
  exact ⟨size, (List.mem_filter.mp member).1⟩

/-- Buffers that went back are not live. -/
theorem Owes.dead {given rest : List (Handle × Nat)} (owes : arena.Owes (given ++ rest))
    (left : after.Owes rest) {tag : Handle × Nat} (member : tag ∈ given) : ¬ after.Live tag.1 := by
  intro live
  obtain ⟨other, kept, same⟩ := left.live_iff.mp live
  have distinct := owes.distinct
  rw [List.map_append, List.nodup_append] at distinct
  exact distinct.2.2 _ (List.mem_map_of_mem member) _ (List.mem_map_of_mem kept) same.symm

/-- A buffer that is not live stays so. -/
theorem Later.still_dead (later : arena.Later after) {handle : Handle}
    (known : handle.value < arena.nextHandle) (dead : ¬ arena.Live handle) : ¬ after.Live handle :=
  fun live => dead (later.dead handle known live)

end Arena

/-! ### Line buffers and motion vectors -/

namespace LineBufferCache

variable {cache after : LineBufferCache} {memory final : Arena} {rest : List (Handle × Nat)}

theorem release_owes (owes : memory.Owes (cache.tags ++ rest)) :
    (cache.release memory).2.Owes rest :=
  Books.release_lines (α := Arena) owes

theorem release_later (cache : LineBufferCache) (memory : Arena) :
    memory.Later (cache.release memory).2 := by
  unfold release
  cases cache.memory with
  | none => exact Arena.Later.steady.refl memory
  | some buffer => exact Arena.release_later buffer memory

theorem Ensures.later {shape : PictureShape} {outcome : Except Fault Unit}
    (ensures : cache.Ensures shape memory outcome after final) : memory.Later final := by
  cases ensures with
  | kept serves => exact Arena.Later.steady.refl memory
  | refused outdated refuses =>
      exact Arena.Later.steady.trans (release_later cache memory)
        ((Arena.alloc_later _).error refuses)
  | replaced outdated grants =>
      exact Arena.Later.steady.trans (release_later cache memory) ((Arena.alloc_later _).ok grants)

/-- Line buffers that do not serve a picture go back, whether or not there are others for it. -/
theorem Ensures.dead {shape : PictureShape} {outcome : Except Fault Unit}
    (ensures : cache.Ensures shape memory outcome after final)
    (owes : memory.Owes (cache.tags ++ rest)) (outdated : cache.serves shape = false)
    {tag : Handle × Nat} (member : tag ∈ cache.tags) : ¬ final.Live tag.1 := by
  have gone := owes.dead (release_owes owes) member
  have known := Int.lt_of_lt_of_le (owes.issued tag (List.mem_append_left _ member))
    (release_later cache memory).next
  cases ensures with
  | kept serves =>
      rw [serves] at outdated
      cases outdated
  | refused _ refuses =>
      rw [Arena.alloc_refused refuses]
      exact gone
  | replaced _ grants => exact ((Arena.alloc_later _).ok grants).still_dead known gone

theorem refuses_release (cache : LineBufferCache) (memory : Arena) :
    (cache.release memory).2.refuses = memory.refuses := by
  unfold release
  cases cache.memory <;> rfl

end LineBufferCache

namespace MotionPool

variable {pool after : MotionPool} {memory final : Arena} {rest : List (Handle × Nat)}

theorem release_owes (owes : memory.Owes (pool.tags ++ rest)) :
    (pool.release memory).2.Owes rest :=
  Books.release_motion (α := Arena) owes

theorem release_later (pool : MotionPool) (memory : Arena) :
    memory.Later (pool.release memory).2 := by
  unfold release
  simp only
  generalize pool.buffers = buffers
  induction buffers generalizing memory with
  | nil => exact Arena.Later.steady.refl memory
  | cons buffer others ih =>
      rw [List.foldl_cons]
      exact Arena.Later.steady.trans (Arena.release_later buffer memory) (ih _)

theorem allocAll_later (size count : Nat) :
    Action.Keeps Arena.Later (allocAll size count : Action Arena (List Buffer)) := by
  induction count with
  | zero => exact fun memory => Arena.Later.steady.refl memory
  | succ count ih =>
      intro memory
      cases asked : (Allocator.alloc size : Action Arena Buffer) memory with
      | error fault after =>
          rw [allocAll_of_refused asked]
          exact (Arena.alloc_later size).error asked
      | ok buffer middle =>
          have first := (Arena.alloc_later size).ok asked
          cases further : (allocAll size count : Action Arena (List Buffer)) middle with
          | error fault after =>
              rw [allocAll_of_stopped asked further]
              exact Arena.Later.steady.trans first
                (Arena.Later.steady.trans (ih.error further) (Arena.release_later buffer after))
          | ok buffers after =>
              rw [allocAll_of_ok asked further]
              exact Arena.Later.steady.trans first (ih.ok further)

theorem Ensures.later {slots size : Nat} {outcome : Except Fault Unit}
    (ensures : pool.Ensures slots size memory outcome after final) : memory.Later final := by
  cases ensures with
  | kept serves => exact Arena.Later.steady.refl memory
  | refused outgrown refuses =>
      exact Arena.Later.steady.trans (release_later pool memory)
        ((allocAll_later size slots).error refuses)
  | rebuilt outgrown grants =>
      exact Arena.Later.steady.trans (release_later pool memory)
        ((allocAll_later size slots).ok grants)

/-- Motion vector buffers that do not serve a picture go back, whether or not there are others
for it. -/
theorem Ensures.dead {slots size : Nat} {outcome : Except Fault Unit}
    (ensures : pool.Ensures slots size memory outcome after final)
    (owes : memory.Owes (pool.tags ++ rest)) (outgrown : pool.serves slots size = false)
    {tag : Handle × Nat} (member : tag ∈ pool.tags) : ¬ final.Live tag.1 := by
  have gone := owes.dead (release_owes owes) member
  have known := Int.lt_of_lt_of_le (owes.issued tag (List.mem_append_left _ member))
    (release_later pool memory).next
  cases ensures with
  | kept serves =>
      rw [serves] at outgrown
      cases outgrown
  | refused _ refuses => exact ((allocAll_later size slots).error refuses).still_dead known gone
  | rebuilt _ grants => exact ((allocAll_later size slots).ok grants).still_dead known gone

end MotionPool

namespace Supply

/-- The tags of the shared buffers. -/
def tags (supply : Supply Arena) : List (Handle × Nat) :=
  supply.lines.tags ++ supply.motion.tags

variable {supply after : Supply Arena} {rest : List (Handle × Nat)}

/-- The line buffers for a picture can be had: they serve already, or the arena grants others. -/
def GrantsLines (supply : Supply Arena) (shape : PictureShape) : Prop :=
  supply.lines.serves shape = true ∨ supply.memory.refuses = false

/-- What is owned once the line buffers were seen to. -/
theorem lines_owes {shape : PictureShape} {outcome : Except Fault Unit} {lines : LineBufferCache}
    {memory : Arena} (ensures : supply.lines.Ensures shape supply.memory outcome lines memory)
    (owes : supply.memory.Owes (supply.tags ++ rest)) :
    memory.Owes (supply.motion.tags ++ (lines.tags ++ rest)) :=
  Books.lines_first (α := Arena) ensures owes

theorem Provides.later {shape : PictureShape} {slots size : Nat} {outcome : Except Fault Unit}
    (provides : supply.Provides shape slots size outcome after) :
    supply.memory.Later after.memory := by
  cases provides with
  | noLines refused => exact refused.later
  | noMotion ready refused => exact Arena.Later.steady.trans ready.later refused.later
  | provided ready granted => exact Arena.Later.steady.trans ready.later granted.later

/-- Line buffers that serve a picture stay. -/
theorem Provides.lines_kept {shape : PictureShape} {slots size : Nat} {outcome : Except Fault Unit}
    (provides : supply.Provides shape slots size outcome after)
    (serves : supply.lines.serves shape = true) : after.lines = supply.lines := by
  have kept : ∀ {outcome lines memory},
      supply.lines.Ensures shape supply.memory outcome lines memory → lines = supply.lines := by
    intro outcome lines memory ensures
    cases ensures with
    | kept _ => rfl
    | refused outdated _ => cases serves.symm.trans outdated
    | replaced outdated _ => cases serves.symm.trans outdated
  cases provides with
  | noLines refused => exact kept refused
  | noMotion ready refused => exact kept ready
  | provided ready granted => exact kept ready

/-- Line buffers that do not serve a picture go back, however readying the buffers ends. -/
theorem Provides.lines_dead {shape : PictureShape} {slots size : Nat} {outcome : Except Fault Unit}
    (provides : supply.Provides shape slots size outcome after)
    (owes : supply.memory.Owes (supply.tags ++ rest))
    (outdated : supply.lines.serves shape = false) {tag : Handle × Nat}
    (member : tag ∈ supply.lines.tags) : ¬ after.memory.Live tag.1 := by
  have known := owes.issued tag (List.mem_append_left _ (List.mem_append_left _ member))
  unfold tags at owes
  rw [List.append_assoc] at owes
  cases provides with
  | noLines refused => exact refused.dead owes outdated member
  | noMotion ready refused =>
      exact refused.later.still_dead (Int.lt_of_lt_of_le known ready.later.next)
        (ready.dead owes outdated member)
  | provided ready granted =>
      exact granted.later.still_dead (Int.lt_of_lt_of_le known ready.later.next)
        (ready.dead owes outdated member)

/-- The motion vector buffers stay if they serve a picture, and also if there are no line buffers
for it. -/
theorem Provides.motion_kept {shape : PictureShape} {slots size : Nat} {outcome : Except Fault Unit}
    (provides : supply.Provides shape slots size outcome after)
    (spared : ¬ (supply.GrantsLines shape ∧ supply.motion.serves slots size = false)) :
    after.motion = supply.motion := by
  have serves : ∀ {lines memory}, supply.lines.Ensures shape supply.memory (.ok ()) lines memory →
      supply.motion.serves slots size = true := by
    intro lines memory ready
    rw [← Bool.not_eq_false]
    intro outgrown
    refine spared ⟨?_, outgrown⟩
    cases ready with
    | kept serves => exact .inl serves
    | replaced outdated grants =>
        right
        rcases Arena.alloc_cases (LineBuffer.totalSize (supply.lines.placed shape))
          (supply.lines.release supply.memory).2 with ⟨-, refused⟩ | ⟨grantable, -⟩
        · cases refused.symm.trans grants
        · rwa [LineBufferCache.refuses_release] at grantable
  have kept : ∀ {outcome lines middle motion memory},
      supply.lines.Ensures shape supply.memory (.ok ()) lines middle →
      supply.motion.Ensures slots size middle outcome motion memory → motion = supply.motion := by
    intro outcome lines middle motion memory ready ensures
    cases ensures with
    | kept _ => rfl
    | refused outgrown _ => cases (serves ready).symm.trans outgrown
    | rebuilt outgrown _ => cases (serves ready).symm.trans outgrown
  cases provides with
  | noLines refused => rfl
  | noMotion ready refused => exact kept ready refused
  | provided ready granted => exact kept ready granted

/-- Motion vector buffers that do not serve a picture go back once there are line buffers for it. -/
theorem Provides.motion_dead {shape : PictureShape} {slots size : Nat} {outcome : Except Fault Unit}
    (provides : supply.Provides shape slots size outcome after)
    (owes : supply.memory.Owes (supply.tags ++ rest)) (granted : supply.GrantsLines shape)
    (outgrown : supply.motion.serves slots size = false) {tag : Handle × Nat}
    (member : tag ∈ supply.motion.tags) : ¬ after.memory.Live tag.1 := by
  cases provides with
  | noLines refused =>
      cases refused with
      | refused outdated refuses =>
          rcases granted with serves | grants
          · cases serves.symm.trans outdated
          · rcases Arena.alloc_cases (LineBuffer.totalSize (supply.lines.placed shape))
              (supply.lines.release supply.memory).2 with ⟨closed, -⟩ | ⟨-, granted⟩
            · rw [LineBufferCache.refuses_release, grants] at closed
              cases closed
            · cases granted.symm.trans refuses
  | noMotion ready refused => exact refused.dead (lines_owes ready owes) outgrown member
  | provided ready granted => exact granted.dead (lines_owes ready owes) outgrown member

end Supply

end VideoAccel
