import VideoAccel.Proofs.Memory.Supply

/-!
A log of the buffers that are handed out.

An allocator has a log if it is known which buffers it has handed out so far, and if only an answered
allocation adds to it (`GrantLog`). An arena keeps such a log itself, and one can be kept beside any
allocator (`Logged`). Readying the shared buffers for a picture adds one entry for the line buffers if
those at hand do not serve, and one for each slot of the picture store if the motion vector pool does
not (`GrantLog.provides`). What serves afterwards follows from what served before and from the picture
(`LineBufferCache.Ensures.serves_iff`, `MotionPool.Ensures.serves_iff`).
-/

namespace VideoAccel

class GrantLog (α : Type) [Allocator α] where
  /-- The sizes of the buffers handed out so far, oldest first. -/
  granted : α → List Nat
  alloc : ∀ {size memory after buffer}, Allocator.alloc size memory = .ok buffer after →
    granted after = granted memory ++ [size]
  release : ∀ buffer memory, granted (Allocator.release buffer memory) = granted memory
  sync : ∀ buffer memory, granted (Action.after (Allocator.sync buffer memory)) = granted memory

instance : GrantLog Arena where
  granted := Arena.sizes
  alloc {size memory after buffer} answered := by
    have ran : Arena.alloc size memory = .ok buffer after := answered
    unfold Arena.alloc at ran
    split at ran
    · cases ran
    · cases ran
      rfl
  release _ _ := rfl
  sync _ _ := rfl

/-- Any allocator, with a log of what it hands out. -/
structure Logged (α : Type) where
  memory : α
  log : List Nat := []

namespace Logged

variable {α : Type} [Allocator α]

instance : Allocator (Logged α) where
  alloc size := fun logged =>
    match Allocator.alloc size logged.memory with
    | .ok buffer memory => .ok buffer ⟨memory, logged.log ++ [size]⟩
    | .error fault memory => .error fault ⟨memory, logged.log⟩
  release buffer logged := { logged with memory := Allocator.release buffer logged.memory }
  sync buffer :=
    Action.on (·.memory) (fun memory logged => { logged with memory }) (Allocator.sync buffer)

instance : GrantLog (Logged α) where
  granted := Logged.log
  alloc {size logged after buffer} answered := by
    have ran : (match Allocator.alloc size logged.memory with
      | .ok buffer memory => .ok buffer ⟨memory, logged.log ++ [size]⟩
      | .error fault memory => .error fault ⟨memory, logged.log⟩) =
        (.ok buffer after : EStateM.Result Fault (Logged α) Buffer) := answered
    split at ran
    · cases ran
      rfl
    · cases ran
  release _ _ := rfl
  sync buffer logged := by
    show Logged.log (Action.after (Action.on _ _ _ logged)) = logged.log
    rw [Action.after_on]

end Logged

/-! ### Line buffers -/

section Lines

variable {α : Type} [Allocator α]

theorem LineBufferCache.serves_iff {cache : LineBufferCache} {shape : PictureShape} :
    cache.serves shape = true ↔ cache.memory.isSome = true ∧ cache.placedFor = some shape.key := by
  simp [serves, LineBuffer.outdated]

@[simp] theorem LineBufferCache.serves_invalidate (cache : LineBufferCache)
    (shape : PictureShape) : cache.invalidate.serves shape = false := by
  simp [serves, invalidate, LineBuffer.outdated]

/-- Line buffers that were readied are in memory, and placed for the key of the picture. -/
theorem LineBufferCache.Ensures.placed {shape : PictureShape} {cache after : LineBufferCache}
    {memory final : α} (ensures : cache.Ensures shape memory (.ok ()) after final) :
    after.memory.isSome = true ∧ after.placedFor = some shape.key := by
  cases ensures with
  | kept serves => exact LineBufferCache.serves_iff.mp serves
  | replaced outdated grants => exact ⟨rfl, rfl⟩

/-- Line buffers that were readied serve the pictures with the same key and no others. -/
theorem LineBufferCache.Ensures.serves_iff {shape : PictureShape} {cache after : LineBufferCache}
    {memory final : α} (ensures : cache.Ensures shape memory (.ok ()) after final)
    (other : PictureShape) : after.serves other = true ↔ other.key = shape.key := by
  rw [LineBufferCache.serves_iff, ensures.placed.2, and_iff_right ensures.placed.1, Option.some_inj]
  exact eq_comm

/-- Line buffers that serve stay. -/
theorem LineBufferCache.Ensures.eq_of_serves {shape : PictureShape}
    {cache after : LineBufferCache} {memory final : α}
    (ensures : cache.Ensures shape memory (.ok ()) after final) (serves : cache.serves shape = true) :
    after = cache := by
  cases ensures with
  | kept _ => rfl
  | replaced outdated grants => cases outdated.symm.trans serves

end Lines

/-! ### Motion vectors -/

namespace MotionPool

variable {α : Type} [Allocator α]

theorem length_allocAll {size count : Nat} {memory after : α} {buffers : List Buffer}
    (answered : allocAll size count memory = .ok buffers after) : buffers.length = count := by
  induction count generalizing memory buffers with
  | zero =>
      cases answered
      rfl
  | succ count ih =>
      obtain ⟨buffer, middle, rest, -, further, rfl⟩ := allocAll_eq_ok answered
      exact congrArg (· + 1) (ih further)

/-- A pool that was readied serves what it served before, and whatever is not larger than what it was
readied for. -/
theorem Ensures.serves_iff {slots size : Nat} {pool after : MotionPool} {memory final : α}
    (ensures : pool.Ensures slots size memory (.ok ()) after final) (other : Nat) :
    after.serves slots other = true ↔ pool.serves slots other = true ∨ other ≤ size := by
  cases ensures with
  | kept serves =>
      refine ⟨.inl, fun either => either.elim id fun small => ?_⟩
      obtain ⟨provisioned, large, count⟩ := MotionPool.serves_iff.mp serves
      exact MotionPool.serves_iff.mpr ⟨provisioned, Nat.le_trans small large, count⟩
  | rebuilt outgrown grants =>
      have length := length_allocAll grants
      rw [MotionPool.serves_eq_false_iff] at outgrown
      rw [MotionPool.serves_iff, MotionPool.serves_iff]
      simp only [slotCount, length, true_and, and_true]
      constructor
      · exact .inr
      · rintro (⟨provisioned, large, count⟩ | small)
        · rcases outgrown with unprovisioned | larger | miscounted
          · cases unprovisioned.symm.trans provisioned
          · omega
          · exact absurd count miscounted
        · exact small

/-- A pool that serves stays. -/
theorem Ensures.eq_of_serves {slots size : Nat} {pool after : MotionPool} {memory final : α}
    (ensures : pool.Ensures slots size memory (.ok ()) after final)
    (serves : pool.serves slots size = true) : after = pool := by
  cases ensures with
  | kept _ => rfl
  | rebuilt outgrown grants => cases outgrown.symm.trans serves

/-- A pool that does not serve is rebuilt for the picture. -/
theorem Ensures.rebuilt_of_outgrown {slots size : Nat} {pool after : MotionPool}
    {memory final : α} (ensures : pool.Ensures slots size memory (.ok ()) after final)
    (outgrown : pool.serves slots size = false) :
    after.slotCount = slots ∧ after.bufferSize = size := by
  cases ensures with
  | kept serves => cases outgrown.symm.trans serves
  | rebuilt _ grants => exact ⟨length_allocAll grants, rfl⟩

end MotionPool

/-! ### What is added to the log -/

/-- What a picture needs of the shared buffers: line buffers for its shape, and this many bytes for
the motion vectors in every slot of the picture store. -/
structure Demand where
  shape : PictureShape
  motion : Nat
deriving DecidableEq, Repr

namespace Demand

/-- The size of the buffer behind the line buffers. -/
def lines (demand : Demand) : Nat :=
  LineBuffer.totalSize
    (LineBuffer.place demand.shape (LineBufferClass.all.zip Layout.lineBufferRegisters))

/-- The sizes of the buffers that are allocated for a demand, if the line buffers at hand are stale or
the motion vector buffers too short. -/
def grants (demand : Demand) (slots : Nat) (stale short : Bool) : List Nat :=
  (if stale then [demand.lines] else []) ++ if short then List.replicate slots demand.motion else []

/-- The sizes of the buffers that a row of demands costs if the first of them serves all. -/
def cost (slots : Nat) : List Demand → List Nat
  | [] => []
  | first :: _ => first.lines :: List.replicate slots first.motion

/-- One more demand costs nothing, unless it is the first. -/
theorem cost_concat (slots : Nat) (demands : List Demand) (demand : Demand) :
    cost slots (demands ++ [demand]) =
      cost slots demands ++ demand.grants slots demands.isEmpty demands.isEmpty := by
  cases demands with
  | nil => rfl
  | cons first rest => exact (List.append_nil _).symm

end Demand

namespace GrantLog

variable {α : Type} [Allocator α] [GrantLog α]

theorem release_lines (cache : LineBufferCache) (memory : α) :
    granted (cache.release memory).2 = granted memory := by
  unfold LineBufferCache.release
  cases cache.memory with
  | none => rfl
  | some buffer => exact release buffer memory

theorem release_motion (pool : MotionPool) (memory : α) :
    granted (pool.release memory).2 = granted memory := by
  unfold MotionPool.release
  generalize pool.buffers = buffers
  induction buffers generalizing memory with
  | nil => rfl
  | cons buffer rest ih => exact (ih (Allocator.release buffer memory)).trans (release buffer memory)

theorem allocAll {size count : Nat} {memory after : α} {buffers : List Buffer}
    (answered : MotionPool.allocAll size count memory = .ok buffers after) :
    granted after = granted memory ++ List.replicate count size := by
  induction count generalizing memory buffers with
  | zero =>
      cases answered
      exact (List.append_nil _).symm
  | succ count ih =>
      obtain ⟨buffer, middle, rest, first, further, -⟩ := MotionPool.allocAll_eq_ok answered
      rw [ih further, alloc first, List.append_assoc, List.replicate_succ]
      rfl

/-- Line buffers are allocated if those at hand do not serve. -/
theorem ensure_lines {shape : PictureShape} {cache after : LineBufferCache} {memory final : α}
    (ensures : cache.Ensures shape memory (.ok ()) after final) :
    granted final = granted memory ++
      if cache.serves shape then [] else [LineBuffer.totalSize (cache.placed shape)] := by
  cases ensures with
  | kept serves => rw [if_pos serves, List.append_nil]
  | replaced outdated grants =>
      rw [alloc grants, release_lines, outdated]
      rfl

/-- A motion vector buffer is allocated for every slot if the pool at hand does not serve. -/
theorem ensure_motion {slots size : Nat} {pool after : MotionPool} {memory final : α}
    (ensures : pool.Ensures slots size memory (.ok ()) after final) :
    granted final = granted memory ++
      if pool.serves slots size then [] else List.replicate slots size := by
  cases ensures with
  | kept serves => rw [if_pos serves, List.append_nil]
  | rebuilt outgrown grants =>
      rw [allocAll grants, release_motion, outgrown]
      rfl

/-- Shared buffers are allocated as far as those at hand do not serve. -/
theorem provides {demand : Demand} {slots : Nat} {supply after : Supply α}
    (registers : supply.lines.registers = LineBufferClass.all.zip Layout.lineBufferRegisters)
    (provides : supply.Provides demand.shape slots demand.motion (.ok ()) after) :
    granted after.memory = granted supply.memory ++
      demand.grants slots (!supply.lines.serves demand.shape)
        (!supply.motion.serves slots demand.motion) := by
  cases provides with
  | provided ready answered =>
      rw [ensure_motion answered, ensure_lines ready, LineBufferCache.placed, registers,
        List.append_assoc, Demand.grants]
      cases supply.lines.serves demand.shape <;>
        cases supply.motion.serves slots demand.motion <;> rfl

end GrantLog

end VideoAccel
