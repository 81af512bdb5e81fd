import VideoAccel.Proofs.Memory.GrantLog
import VideoAccel.Proofs.Memory.Holdings

/-!
How many buffers an arena hands out.

Readying the shared buffers for a picture takes a new device buffer for the line buffers if those at
hand do not serve, and a whole new motion vector pool if that does not. Afterwards both serve
(`Supply.Provides.tally`), so that no further picture of the same kind takes any.
-/

namespace VideoAccel

namespace Arena

/-- The count is the length of the log. -/
theorem allocCount_of_granted {arena after : Arena} {sizes : List Nat}
    (log : GrantLog.granted after = GrantLog.granted arena ++ sizes) :
    after.allocCount = arena.allocCount + sizes.length := by
  have length := congrArg List.length log
  rwa [List.length_append] at length

theorem allocCount_alloc {size : Nat} {arena after : Arena} {buffer : Buffer}
    (granted : alloc size arena = .ok buffer after) :
    after.allocCount = arena.allocCount + 1 :=
  allocCount_of_granted (GrantLog.alloc granted)

end Arena

namespace LineBufferCache

theorem allocCount_release (cache : LineBufferCache) (arena : Arena) :
    (cache.release arena).2.allocCount = arena.allocCount :=
  congrArg List.length (GrantLog.release_lines cache arena)

/-- Line buffers that were readied serve the picture. -/
theorem Ensures.tally {shape : PictureShape} {cache after : LineBufferCache} {memory final : Arena}
    (ensures : cache.Ensures shape memory (.ok ()) after final) :
    after.serves shape = true ∧
    final.allocCount = memory.allocCount + if cache.serves shape then 0 else 1 := by
  refine ⟨(ensures.serves_iff shape).mpr rfl, ?_⟩
  rw [Arena.allocCount_of_granted (GrantLog.ensure_lines ensures)]
  cases cache.serves shape <;> rfl

end LineBufferCache

namespace MotionPool

theorem allocCount_release (pool : MotionPool) (arena : Arena) :
    (pool.release arena).2.allocCount = arena.allocCount :=
  congrArg List.length (GrantLog.release_motion pool arena)

/-- Motion vector buffers that were readied serve the picture. -/
theorem Ensures.tally {slots size : Nat} {pool after : MotionPool} {memory final : Arena}
    (ensures : pool.Ensures slots size memory (.ok ()) after final) :
    after.serves slots size = true ∧
    final.allocCount = memory.allocCount + if pool.serves slots size then 0 else slots := by
  refine ⟨(ensures.serves_iff size).mpr (.inr (Nat.le_refl size)), ?_⟩
  rw [Arena.allocCount_of_granted (GrantLog.ensure_motion ensures)]
  cases pool.serves slots size with
  | true => rfl
  | false => exact congrArg (memory.allocCount + ·) List.length_replicate

end MotionPool

/-- Shared buffers that were readied serve the picture, and only those that did not serve before were
taken anew. -/
theorem Supply.Provides.tally {shape : PictureShape} {slots size : Nat} {supply after : Supply Arena}
    (provides : supply.Provides shape slots size (.ok ()) after) :
    (after.lines.serves shape = true ∧ after.motion.serves slots size = true) ∧
    after.memory.allocCount = supply.memory.allocCount +
      (if supply.lines.serves shape then 0 else 1) +
      (if supply.motion.serves slots size then 0 else slots) := by
  cases provides with
  | provided ready granted =>
      obtain ⟨lines, first⟩ := ready.tally
      obtain ⟨motion, second⟩ := granted.tally
      exact ⟨⟨lines, motion⟩, by rw [second, first]⟩

end VideoAccel
