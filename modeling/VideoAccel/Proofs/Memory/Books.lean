import VideoAccel.Proofs.Memory.Supply

/-!
Keeping books on the buffers that are out.

A buffer's `tag` is its handle and size. An allocator keeps books if it is known for which tags a
buffer is out, and if handing out, taking back and passing on change this as they should (`Books`).
From these rules follows what the line buffer cache and the motion vector pool own after each
attempt to get ready, answered or refused (`Books.provides`), whatever else an allocator records.
-/

namespace VideoAccel

/-- What an allocator knows of a buffer. -/
def Buffer.tag (buffer : Buffer) : Handle × Nat :=
  (buffer.handle, buffer.size)

/-- The tags of the buffers a cache owns: one or none. -/
def LineBufferCache.tags (cache : LineBufferCache) : List (Handle × Nat) :=
  cache.memory.toList.map (·.tag)

/-- The tags of the buffers a pool owns. -/
def MotionPool.tags (pool : MotionPool) : List (Handle × Nat) :=
  pool.buffers.map (·.tag)

class Books (α : Type) [Allocator α] where
  /-- The buffers that are out are the tagged ones. -/
  Owes : α → List (Handle × Nat) → Prop
  /-- Owning does not depend on the order in which buffers are named. -/
  perm : ∀ {memory tags other}, Owes memory tags → tags.Perm other → Owes memory other
  /-- A buffer that was handed out is owned by whoever asked for it. -/
  grant : ∀ {memory after tags size buffer}, Owes memory tags →
    Allocator.alloc size memory = .ok buffer after → Owes after (buffer.tag :: tags)
  /-- A refusal changes nothing. -/
  refuse : ∀ {memory after tags size fault}, Owes memory tags →
    Allocator.alloc size memory = .error fault after → Owes after tags
  /-- A buffer that was given back is owned no more. -/
  release : ∀ {memory tags buffer}, Owes memory (buffer.tag :: tags) →
    Owes (Allocator.release buffer memory) tags
  /-- Passing a buffer on to the device hands out nothing and takes nothing back. -/
  sync : ∀ {memory tags} (buffer : Buffer), Owes memory tags →
    Owes (Action.after (Allocator.sync buffer memory)) tags

namespace Books

/-- A property that an allocator keeps whatever it is asked for, as books that look at no buffer. What
follows from books of any kind thus holds of the property. -/
@[reducible] def ofInvariant {α : Type} [Allocator α] (property : α → Prop)
    (alloc : ∀ {memory} (size : Nat), property memory →
      property (Action.after (Allocator.alloc size memory)))
    (release : ∀ {memory} (buffer : Buffer), property memory →
      property (Allocator.release buffer memory))
    (sync : ∀ {memory} (buffer : Buffer), property memory →
      property (Action.after (Allocator.sync buffer memory))) : Books α where
  Owes memory _ := property memory
  perm holds _ := holds
  grant {_ _ _ size _} holds granted := by
    have after := alloc size holds
    rwa [granted] at after
  refuse {_ _ _ size _} holds refused := by
    have after := alloc size holds
    rwa [refused] at after
  release {_ _ buffer} holds := release buffer holds
  sync buffer holds := sync buffer holds

variable {α : Type} [Allocator α] [Books α] {memory final : α} {rest : List (Handle × Nat)}

/-! ### Line buffers -/

section Lines

variable {cache after : LineBufferCache}

theorem release_lines (owes : Owes memory (cache.tags ++ rest)) :
    Owes (cache.release memory).2 rest := by
  unfold LineBufferCache.release
  unfold LineBufferCache.tags at owes
  cases held : cache.memory with
  | none =>
      rw [held] at owes
      exact owes
  | some buffer =>
      rw [held] at owes
      exact release owes

theorem ensure_lines {shape : PictureShape} {outcome : Except Fault Unit}
    (ensures : cache.Ensures shape memory outcome after final)
    (owes : Owes memory (cache.tags ++ rest)) : Owes final (after.tags ++ rest) := by
  cases ensures with
  | kept serves => exact owes
  | refused outdated refuses => exact refuse (release_lines owes) refuses
  | replaced outdated grants => exact grant (release_lines owes) grants

end Lines

/-! ### Motion vectors -/

section Motion

variable {pool after : MotionPool}

theorem release_motion (owes : Owes memory (pool.tags ++ rest)) :
    Owes (pool.release memory).2 rest := by
  unfold MotionPool.release
  unfold MotionPool.tags at owes
  simp only
  generalize pool.buffers = buffers at owes
  induction buffers generalizing memory with
  | nil => exact owes
  | cons buffer others ih =>
      rw [List.foldl_cons]
      exact ih (release owes)

/-- Several buffers are handed out together, or those handed out go back at once. -/
theorem allocAll (size count : Nat) (owes : Owes memory rest) :
    (∀ {buffers}, MotionPool.allocAll size count memory = .ok buffers final →
      Owes final (buffers.map (·.tag) ++ rest)) ∧
    (∀ {fault}, MotionPool.allocAll size count memory = .error fault final → Owes final rest) := by
  induction count generalizing memory final rest with
  | zero =>
      constructor
      · intro buffers ran
        cases ran
        exact owes
      · intro fault ran
        cases ran
  | succ count ih =>
      cases asked : (Allocator.alloc size : Action α Buffer) memory with
      | error fault after =>
          rw [MotionPool.allocAll_of_refused asked]
          constructor
          · intro buffers ran
            cases ran
          · intro fault ran
            cases ran
            exact refuse owes asked
      | ok buffer middle =>
          have held := grant owes asked
          cases further : (MotionPool.allocAll size count : Action α (List Buffer)) middle with
          | error fault after =>
              rw [MotionPool.allocAll_of_stopped asked further]
              constructor
              · intro buffers ran
                cases ran
              · intro fault ran
                cases ran
                exact release ((ih held).2 further)
          | ok buffers after =>
              rw [MotionPool.allocAll_of_ok asked further]
              constructor
              · intro all ran
                cases ran
                exact perm ((ih held).1 further) List.perm_middle
              · intro fault ran
                cases ran

theorem ensure_motion {slots size : Nat} {outcome : Except Fault Unit}
    (ensures : pool.Ensures slots size memory outcome after final)
    (owes : Owes memory (pool.tags ++ rest)) : Owes final (after.tags ++ rest) := by
  cases ensures with
  | kept serves => exact owes
  | refused outgrown refuses => exact (allocAll size slots (release_motion owes)).2 refuses
  | rebuilt outgrown grants => exact (allocAll size slots (release_motion owes)).1 grants

end Motion

/-! ### Both -/

/-- Owning does not depend on the order in which the owners are named. -/
theorem swap_owners (a b c : List (Handle × Nat)) : (a ++ b ++ c).Perm (b ++ (a ++ c)) := by
  rw [← List.append_assoc]
  exact List.perm_append_comm.append_right c

variable {supply after : Supply α}

/-- What is owned once the line buffers were seen to. -/
theorem lines_first {shape : PictureShape} {outcome : Except Fault Unit} {lines : LineBufferCache}
    (ensures : supply.lines.Ensures shape supply.memory outcome lines memory)
    (owes : Owes supply.memory (supply.lines.tags ++ supply.motion.tags ++ rest)) :
    Owes memory (supply.motion.tags ++ (lines.tags ++ rest)) := by
  rw [List.append_assoc] at owes
  have first := ensure_lines ensures owes
  rw [← List.append_assoc] at first
  exact perm first (swap_owners _ _ _)

/-- Whatever becomes of the shared buffers, what is out is owned. -/
theorem provides {shape : PictureShape} {slots size : Nat} {outcome : Except Fault Unit}
    (provides : supply.Provides shape slots size outcome after)
    (owes : Owes supply.memory (supply.lines.tags ++ supply.motion.tags ++ rest)) :
    Owes after.memory (after.lines.tags ++ after.motion.tags ++ rest) := by
  have back : ∀ {lines : LineBufferCache} {motion : MotionPool} {memory : α},
      Owes memory (motion.tags ++ (lines.tags ++ rest)) →
      Owes memory (lines.tags ++ motion.tags ++ rest) :=
    fun owes => perm owes (swap_owners _ _ _).symm
  cases provides with
  | noLines refused =>
      have held := lines_first refused owes
      exact back held
  | noMotion ready refused =>
      have held := ensure_motion refused (lines_first ready owes)
      exact back held
  | provided ready granted =>
      have held := ensure_motion granted (lines_first ready owes)
      exact back held

end Books

end VideoAccel
