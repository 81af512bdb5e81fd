import VideoAccel.Proofs.Memory.Numbering
import VideoAccel.Proofs.Memory.Tally

/-!
A motion vector pool over its lifetime.

`MotionPool.Used` is the history of one pool over one arena: attempts to ready it, answered or
refused, everything given back, and an arena that is told at any time to refuse from some count on.
After any such history the pool has nothing at all, or it has the buffers of the last attempt that
was answered, all of the size it names (`Used.all_or_nothing`). What others have out of the same arena
is left alone.
-/

namespace VideoAccel

namespace MotionPool

/-! ### One attempt to ready the pool -/

section Attempt

variable {α : Type} [Allocator α] {slots size : Nat} {pool : MotionPool}

theorem Ensures.of_ok {memory : α} {event : Option Event} {after : MotionPool × α}
    (ran : ensure slots size (pool, memory) = .ok event after) :
    pool.Ensures slots size memory (.ok ()) after.1 after.2 := by
  obtain ⟨outcome, final, ensures, same⟩ := ensure_spec slots size pool memory
  cases outcome with
  | ok done =>
      obtain ⟨event, same⟩ := same
      cases same.symm.trans ran
      exact ensures
  | error fault => cases same.symm.trans ran

theorem Ensures.of_error {memory : α} {fault : Fault} {after : MotionPool × α}
    (ran : ensure slots size (pool, memory) = .error fault after) :
    pool.Ensures slots size memory (.error fault) after.1 after.2 := by
  obtain ⟨outcome, final, ensures, same⟩ := ensure_spec slots size pool memory
  cases outcome with
  | ok done =>
      obtain ⟨event, same⟩ := same
      cases same.symm.trans ran
  | error fault =>
      cases same.symm.trans ran
      exact ensures

/-- A pool that serves stays, and no allocator is asked for anything. -/
theorem ensure_of_serves (serves : pool.serves slots size = true) (memory : α) :
    ensure slots size (pool, memory) = .ok none (pool, memory) := by
  simp only [ensure, serves, if_true]

/-- What an answered attempt records is whether the pool had to be rebuilt. -/
theorem isSome_of_ensure {memory : α} {event : Option Event} {after : MotionPool × α}
    (ran : ensure slots size (pool, memory) = .ok event after) :
    event.isSome = !pool.serves slots size := by
  cases serves : pool.serves slots size with
  | true =>
      cases (ensure_of_serves serves memory).symm.trans ran
      rfl
  | false =>
      simp only [ensure, serves, Bool.false_eq_true, if_false] at ran
      split at ran
      · cases ran
      · cases ran
        rfl

end Attempt

/-- The buffers an arena hands out one after the other have the size asked for and new handles. -/
theorem new_of_allocAll {size count : Nat} {memory after : Arena} {buffers : List Buffer}
    (granted : allocAll size count memory = .ok buffers after) :
    ∀ buffer ∈ buffers, buffer.size = size ∧ memory.nextHandle ≤ buffer.handle.value := by
  induction count generalizing memory buffers with
  | zero =>
      cases granted
      intro buffer impossible
      exact absurd impossible List.not_mem_nil
  | succ count ih =>
      obtain ⟨first, middle, rest, asked, further, rfl⟩ := allocAll_eq_ok granted
      have next := ((Arena.alloc_later size).ok asked).next
      intro buffer member
      rcases List.mem_cons.mp member with rfl | behind
      · rcases Arena.alloc_cases size memory with ⟨-, refused⟩ | ⟨-, took⟩
        · cases refused.symm.trans asked
        · cases took.symm.trans asked
          exact ⟨rfl, Int.le_refl _⟩
      · obtain ⟨sized, new⟩ := ih further buffer behind
        exact ⟨sized, Int.le_trans next new⟩

/-! ### One pool over its lifetime -/

/-- What became of a pool and its arena, with the number of slots of the last attempt that was
answered. -/
inductive Used (first : Arena) : MotionPool → Arena → Option Nat → Prop where
  | new : Used first .empty first none
  | answered {pool after : MotionPool} {memory final : Arena} {last : Option Nat}
      (used : Used first pool memory last) {slots size : Nat} {event : Option Event}
      (ran : ensure slots size (pool, memory) = .ok event (after, final)) :
      Used first after final (some slots)
  | refused {pool after : MotionPool} {memory final : Arena} {last : Option Nat}
      (used : Used first pool memory last) {slots size : Nat} {fault : Fault}
      (ran : ensure slots size (pool, memory) = .error fault (after, final)) :
      Used first after final last
  | released {pool : MotionPool} {memory : Arena} {last : Option Nat}
      (used : Used first pool memory last) :
      Used first (pool.release memory).1 (pool.release memory).2 last
  /-- The arena is told to refuse from some count on, or not to refuse any more. -/
  | limited {pool : MotionPool} {memory : Arena} {last : Option Nat}
      (used : Used first pool memory last) (failAfter : Option Nat) :
      Used first pool { memory with failAfter } last

/-- The pool has `count` buffers of one size, each of its own, and they are out. -/
structure Stocked (count : Nat) (pool : MotionPool) (memory : Arena) : Prop where
  provisioned : pool.provisioned = true
  counted : pool.slotCount = count
  distinct : (pool.buffers.map (·.handle)).Nodup
  sized : ∀ buffer ∈ pool.buffers, buffer.size = pool.bufferSize
  out : ∀ buffer ∈ pool.buffers, (buffer.handle, pool.bufferSize) ∈ memory.live

/-- What holds of a pool, its arena and what others have out of that arena. -/
structure Intact (others : List (Handle × Nat)) (pool : MotionPool) (memory : Arena)
    (last : Option Nat) : Prop where
  owes : memory.Owes (pool.tags ++ others)
  numbered : 0 ≤ memory.nextHandle
  named : ∀ buffer ∈ pool.buffers, buffer.handle.isValid = true
  sized : ∀ buffer ∈ pool.buffers, buffer.size = pool.bufferSize
  whole : pool = .empty ∨ pool.provisioned = true ∧ last = some pool.slotCount

namespace Intact

variable {others : List (Handle × Nat)} {pool after : MotionPool} {memory final : Arena}
  {last : Option Nat}

theorem of_empty (owes : memory.Owes others) (numbered : 0 ≤ memory.nextHandle) :
    Intact others .empty memory last where
  owes := owes
  numbered := numbered
  named _ impossible := absurd impossible List.not_mem_nil
  sized _ impossible := absurd impossible List.not_mem_nil
  whole := .inl rfl

/-- An attempt that is refused leaves an empty pool, and out is what others have. -/
theorem of_refused {slots size : Nat} {fault : Fault} (intact : Intact others pool memory last)
    (ensures : pool.Ensures slots size memory (.error fault) after final) :
    after = .empty ∧ final.Owes others ∧ 0 ≤ final.nextHandle := by
  have left := Books.ensure_motion (α := Arena) ensures intact.owes
  have next := Int.le_trans intact.numbered ensures.later.next
  cases ensures with
  | refused outgrown refuses => exact ⟨rfl, left, next⟩

theorem of_answered {slots size : Nat} (intact : Intact others pool memory last)
    (ensures : pool.Ensures slots size memory (.ok ()) after final) :
    Intact others after final (some slots) := by
  have owes := Books.ensure_motion (α := Arena) ensures intact.owes
  have numbered := Int.le_trans intact.numbered ensures.later.next
  obtain ⟨provisioned, -, count⟩ := serves_iff.mp ensures.tally.1
  have whole : after = .empty ∨ after.provisioned = true ∧ some slots = some after.slotCount :=
    .inr ⟨provisioned, congrArg some count⟩
  cases ensures with
  | kept serves => exact ⟨owes, numbered, intact.named, intact.sized, whole⟩
  | rebuilt outgrown grants =>
      have new := new_of_allocAll grants
      have known := Int.le_trans intact.numbered (release_later pool memory).next
      refine ⟨owes, numbered, fun buffer member => ?_, fun buffer member => (new buffer member).1,
        whole⟩
      exact decide_eq_true (Int.le_trans known (new buffer member).2)

theorem of_released (intact : Intact others pool memory last) :
    Intact others (pool.release memory).1 (pool.release memory).2 last :=
  of_empty (release_owes intact.owes)
    (Int.le_trans intact.numbered (release_later pool memory).next)

theorem of_limited (intact : Intact others pool memory last) (failAfter : Option Nat) :
    Intact others pool { memory with failAfter } last :=
  { intact with owes := intact.owes.of_same rfl rfl }

theorem stocked (intact : Intact others pool memory last)
    (provisioned : pool.provisioned = true) : Stocked pool.slotCount pool memory where
  provisioned := provisioned
  counted := rfl
  distinct := by
    have distinct := intact.owes.distinct
    rw [List.map_append, List.nodup_append] at distinct
    have handles : pool.tags.map Prod.fst = pool.buffers.map (·.handle) := List.map_map
    exact handles ▸ distinct.1
  sized := intact.sized
  out buffer member := by
    rw [← intact.sized buffer member]
    exact intact.owes.live.mem_iff.mpr (List.mem_append_left _ (List.mem_map_of_mem member))

/-- A slot has a buffer exactly when the pool has that many. -/
theorem isValid_handle_iff (intact : Intact others pool memory last) (slot : Nat) :
    (pool.handle slot).isValid = true ↔ slot < pool.slotCount := by
  unfold handle slotCount
  cases found : pool.buffers[slot]? with
  | none => exact ⟨fun impossible => Bool.noConfusion impossible,
      fun inside => absurd (List.getElem?_eq_none_iff.mp found) (Nat.not_le.mpr inside)⟩
  | some buffer => exact ⟨fun _ => (List.getElem?_eq_some_iff.mp found).1,
      fun _ => intact.named buffer (List.mem_of_getElem? found)⟩

end Intact

variable {first : Arena} {others : List (Handle × Nat)} {pool : MotionPool} {memory : Arena}
  {last : Option Nat}

theorem Used.intact (owes : first.Owes others) (numbered : 0 ≤ first.nextHandle)
    (used : Used first pool memory last) : Intact others pool memory last := by
  induction used with
  | new => exact .of_empty owes numbered
  | answered used ran ih => exact ih.of_answered (.of_ok ran)
  | refused used ran ih =>
      obtain ⟨rfl, left, next⟩ := ih.of_refused (.of_error ran)
      exact .of_empty left next
  | released used ih => exact ih.of_released
  | limited used failAfter ih => exact ih.of_limited failAfter

theorem Used.numbered {start : Int} (numbered : first.NumberedFrom start)
    (used : Used first pool memory last) : memory.NumberedFrom start := by
  let _ := Arena.numbering start
  induction used with
  | new => exact numbered
  | @answered pool _ memory _ _ used _ _ _ ran ih =>
      have owed : Books.Owes memory (pool.tags ++ []) := ih
      exact Books.ensure_motion (.of_ok ran) owed
  | @refused pool _ memory _ _ used _ _ _ ran ih =>
      have owed : Books.Owes memory (pool.tags ++ []) := ih
      exact Books.ensure_motion (.of_error ran) owed
  | @released pool memory _ used ih =>
      have owed : Books.Owes memory (pool.tags ++ []) := ih
      exact Books.release_motion owed
  | limited used failAfter ih => exact ih

/-- The handles of a pool are those of signed words of 32 bits, as long as its arena has not given out
more numbers than there are. -/
theorem Used.handle_lt {start : Int} (owes : first.Owes others) (valid : 0 ≤ first.nextHandle)
    (numbered : first.NumberedFrom start) (used : Used first pool memory last)
    (few : start + memory.allocCount ≤ Numeral.bound31) :
    ∀ buffer ∈ pool.buffers, buffer.handle.value < Numeral.bound31 := by
  intro buffer member
  exact (used.numbered numbered).handle_lt (used.intact owes valid).owes few buffer.tag
    (List.mem_append_left _ (List.mem_map_of_mem member))

/-- Whatever happened to it, a pool is empty or has the buffers of the last answered attempt, each its
own, of the same size and out; nothing else is out but what others have. A further attempt that is
answered leaves a pool that serves, and records a rebuild exactly when the one before did not serve;
otherwise no allocator, whatever it does, is asked for anything. An attempt that is refused leaves
nothing in the pool and nothing out but what others have. That a handle is valid and of its own is said
of numbers without a bound; `Used.handle_lt` tells how long 32 bits are enough for them. -/
theorem Used.all_or_nothing (owes : first.Owes others) (numbered : 0 ≤ first.nextHandle)
    (used : Used first pool memory last) :
    memory.live.Perm (pool.tags ++ others) ∧
    (pool = .empty ∨ ∃ count, last = some count ∧ Stocked count pool memory) ∧
    (∀ slot, (pool.handle slot).isValid = true ↔ slot < pool.slotCount) ∧
    ∀ slots size,
      (∀ event after final, ensure slots size (pool, memory) = .ok event (after, final) →
        after.slotCount = slots ∧ size ≤ after.bufferSize ∧
        (event.isSome = true ↔
          pool.provisioned = false ∨ pool.bufferSize < size ∨ slots ≠ pool.slotCount) ∧
        (event = none → ∀ (α : Type) [Allocator α] (other : α),
          ensure slots size (pool, other) = .ok none (pool, other))) ∧
      (∀ fault after final, ensure slots size (pool, memory) = .error fault (after, final) →
        after = .empty ∧ final.live.Perm others) := by
  have intact := used.intact owes numbered
  refine ⟨intact.owes.live, ?_, intact.isValid_handle_iff, fun slots size => ⟨?_, ?_⟩⟩
  · rcases intact.whole with emptied | ⟨provisioned, granted⟩
    · exact .inl emptied
    · exact .inr ⟨pool.slotCount, granted, intact.stocked provisioned⟩
  · intro event after final ran
    have recorded := isSome_of_ensure ran
    obtain ⟨-, large, count⟩ := serves_iff.mp (Ensures.of_ok ran).tally.1
    refine ⟨count.symm, large, ?_, ?_⟩
    · rw [recorded, Bool.not_eq_true', serves_eq_false_iff]
    · rintro rfl α _ other
      rw [Option.isSome_none, eq_comm, Bool.not_eq_false'] at recorded
      exact ensure_of_serves recorded other
  · intro fault after final ran
    obtain ⟨emptied, left, -⟩ := intact.of_refused (.of_error ran)
    exact ⟨emptied, left.live⟩

/-- Two buffers, then two larger ones with a grant left for one of them: that one goes back too. -/
theorem Used.half_granted :
    ∃ pool memory, Used {} pool memory (some 2) ∧ pool.slotCount = 2 ∧
      ∃ fault after final, ensure 2 128 (pool, memory) = .error fault (after, final) ∧
        final.allocCount = 3 ∧ after = .empty ∧ final.live.Perm [] := by
  have history : Used {} _ _ (some 2) :=
    .limited (@answered _ _ _ _ _ _ .new 2 64 _ rfl) (some 3)
  have refused := (Used.all_or_nothing (Arena.owes_nil rfl) (by decide) history).2.2.2 2 128
  exact ⟨_, _, history, rfl, _, _, _, rfl, rfl, refused.2 _ _ _ rfl⟩

end MotionPool

end VideoAccel
