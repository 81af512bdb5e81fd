import VideoAccel.Memory.LineBufferCache
import VideoAccel.Memory.MotionPool
import VideoAccel.Proofs.Action

/-!
The buffers that all pipeline slots share, and how they are readied for a picture.

Line buffers are kept while they serve the picture; otherwise the buffer behind them goes back before
a new one is asked for. The motion vector pool is kept while it serves; otherwise all its buffers go
back first. `Ensures` lists these ends for each of the two, and `Supply.Provides` for both in a row.
-/

namespace VideoAccel

variable {α : Type}

namespace LineBuffer

theorem map_placeFrom (shape : PictureShape) (start : Nat) (wanted : List (LineBufferClass × Nat)) :
    (placeFrom shape start wanted).map (fun buffer => (buffer.cls, buffer.reg)) = wanted := by
  induction wanted generalizing start with
  | nil => rfl
  | cons pair rest ih =>
      obtain ⟨cls, reg⟩ := pair
      simp only [placeFrom, List.map_cons, ih]

end LineBuffer

namespace LineBufferCache

/-- The classes of the line buffers and their address registers. -/
def registers (cache : LineBufferCache) : List (LineBufferClass × Nat) :=
  cache.buffers.map fun buffer => (buffer.cls, buffer.reg)

/-- Whether the line buffers can be kept for a picture. -/
def serves (cache : LineBufferCache) (shape : PictureShape) : Bool :=
  cache.memory.isSome && !LineBuffer.outdated cache.placedFor shape.key

/-- The line buffers placed for a picture. -/
def placed (cache : LineBufferCache) (shape : PictureShape) : List LineBuffer :=
  LineBuffer.place shape cache.registers

theorem registers_placed (cache : LineBufferCache) (shape : PictureShape)
    (placedFor : Option ShapeKey) (memory : Option Buffer) :
    registers ⟨cache.placed shape, placedFor, memory⟩ = cache.registers :=
  LineBuffer.map_placeFrom shape 0 cache.registers

variable [Allocator α]

/-- How readying the line buffers for a picture can end. -/
inductive Ensures (shape : PictureShape) (cache : LineBufferCache) (memory : α) :
    Except Fault Unit → LineBufferCache → α → Prop where
  | kept (serves : cache.serves shape = true) : Ensures shape cache memory (.ok ()) cache memory
  | refused (outdated : cache.serves shape = false) {fault : Fault} {after : α}
      (refuses : Allocator.alloc (LineBuffer.totalSize (cache.placed shape))
        (cache.release memory).2 = .error fault after) :
      Ensures shape cache memory (.error fault) ⟨cache.placed shape, none, none⟩ after
  | replaced (outdated : cache.serves shape = false) {buffer : Buffer} {after : α}
      (grants : Allocator.alloc (LineBuffer.totalSize (cache.placed shape))
        (cache.release memory).2 = .ok buffer after) :
      Ensures shape cache memory (.ok ()) ⟨cache.placed shape, some shape.key, some buffer⟩ after

theorem ensure_spec (shape : PictureShape) (cache : LineBufferCache) (memory : α) :
    ∃ outcome after, Ensures shape cache memory outcome after.1 after.2 ∧
      match outcome with
      | .ok _ => ∃ event, ensure shape (cache, memory) = .ok event after
      | .error fault => ensure shape (cache, memory) = .error fault after := by
  have released : (cache.release memory).1 = ⟨cache.buffers, none, none⟩ := by
    unfold release
    cases held : cache.memory with
    | none =>
        obtain ⟨buffers, placedFor, stored⟩ := cache
        cases held
        rfl
    | some buffer => rfl
  cases serves : cache.serves shape with
  | true =>
      refine ⟨.ok (), (cache, memory), .kept serves, none, ?_⟩
      unfold LineBufferCache.serves at serves
      simp only [ensure, serves, if_true]
  | false =>
      have outdated := serves
      unfold LineBufferCache.serves at serves
      cases asked : Allocator.alloc (LineBuffer.totalSize (cache.placed shape))
          (cache.release memory).2 with
      | error fault after =>
          refine ⟨.error fault, (⟨cache.placed shape, none, none⟩, after), .refused outdated asked, ?_⟩
          unfold placed registers at asked ⊢
          simp only [ensure, serves, Bool.false_eq_true, if_false, released, asked]
      | ok buffer after =>
          refine ⟨.ok (), (⟨cache.placed shape, some shape.key, some buffer⟩, after),
            .replaced outdated asked, some (.lineBuffersPlaced shape.key shape.compressed
              (LineBuffer.totalSize (cache.placed shape))), ?_⟩
          unfold placed registers at asked ⊢
          simp only [ensure, serves, Bool.false_eq_true, if_false, released, asked]

end LineBufferCache

namespace MotionPool

theorem serves_iff {pool : MotionPool} {slots size : Nat} : pool.serves slots size = true ↔
    pool.provisioned = true ∧ size ≤ pool.bufferSize ∧ slots = pool.slotCount := by
  unfold serves
  rw [Bool.and_eq_true, Bool.and_eq_true, decide_eq_true_iff, beq_iff_eq, and_assoc]

theorem serves_eq_false_iff {pool : MotionPool} {slots size : Nat} :
    pool.serves slots size = false ↔
      pool.provisioned = false ∨ pool.bufferSize < size ∨ slots ≠ pool.slotCount := by
  rw [← Bool.not_eq_true, serves_iff, Classical.not_and_iff_not_or_not,
    Classical.not_and_iff_not_or_not, Bool.not_eq_true, Nat.not_le]

variable [Allocator α]

theorem allocAll_of_refused {size count : Nat} {memory after : α} {fault : Fault}
    (asked : Allocator.alloc size memory = .error fault after) :
    allocAll size (count + 1) memory = .error fault after := by
  simp only [allocAll, asked]

theorem allocAll_of_stopped {size count : Nat} {memory middle after : α} {buffer : Buffer}
    {fault : Fault} (asked : Allocator.alloc size memory = .ok buffer middle)
    (further : allocAll size count middle = .error fault after) :
    allocAll size (count + 1) memory = .error fault (Allocator.release buffer after) := by
  simp only [allocAll, asked, further]

theorem allocAll_of_ok {size count : Nat} {memory middle after : α} {buffer : Buffer}
    {buffers : List Buffer} (asked : Allocator.alloc size memory = .ok buffer middle)
    (further : allocAll size count middle = .ok buffers after) :
    allocAll size (count + 1) memory = .ok (buffer :: buffers) after := by
  simp only [allocAll, asked, further]

theorem allocAll_eq_ok {size count : Nat} {memory after : α} {buffers : List Buffer}
    (granted : allocAll size (count + 1) memory = .ok buffers after) :
    ∃ buffer middle rest, Allocator.alloc size memory = .ok buffer middle ∧
      allocAll size count middle = .ok rest after ∧ buffers = buffer :: rest := by
  cases asked : (Allocator.alloc size memory : EStateM.Result Fault α Buffer) with
  | error fault middle =>
      rw [allocAll_of_refused asked] at granted
      cases granted
  | ok buffer middle =>
      cases further : allocAll size count middle with
      | error fault final =>
          rw [allocAll_of_stopped asked further] at granted
          cases granted
      | ok rest final =>
          rw [allocAll_of_ok asked further] at granted
          cases granted
          exact ⟨buffer, middle, rest, rfl, further, rfl⟩

/-- How readying the motion vector pool can end. -/
inductive Ensures (slots size : Nat) (pool : MotionPool) (memory : α) :
    Except Fault Unit → MotionPool → α → Prop where
  | kept (serves : pool.serves slots size = true) : Ensures slots size pool memory (.ok ()) pool memory
  | refused (outgrown : pool.serves slots size = false) {fault : Fault} {after : α}
      (refuses : allocAll size slots (pool.release memory).2 = .error fault after) :
      Ensures slots size pool memory (.error fault) .empty after
  | rebuilt (outgrown : pool.serves slots size = false) {buffers : List Buffer} {after : α}
      (grants : allocAll size slots (pool.release memory).2 = .ok buffers after) :
      Ensures slots size pool memory (.ok ()) ⟨buffers, size, true⟩ after

theorem ensure_spec (slots size : Nat) (pool : MotionPool) (memory : α) :
    ∃ outcome after, Ensures slots size pool memory outcome after.1 after.2 ∧
      match outcome with
      | .ok _ => ∃ event, ensure slots size (pool, memory) = .ok event after
      | .error fault => ensure slots size (pool, memory) = .error fault after := by
  cases serves : pool.serves slots size with
  | true =>
      refine ⟨.ok (), (pool, memory), .kept serves, none, ?_⟩
      simp only [ensure, serves, if_true]
  | false =>
      cases asked : allocAll size slots (pool.release memory).2 with
      | error fault after =>
          refine ⟨.error fault, (.empty, after), .refused serves asked, ?_⟩
          simp only [ensure, serves, Bool.false_eq_true, if_false, asked]
          rfl
      | ok buffers after =>
          refine ⟨.ok (), (⟨buffers, size, true⟩, after), .rebuilt serves asked,
            some (.motionPoolRebuilt slots size), ?_⟩
          simp only [ensure, serves, Bool.false_eq_true, if_false, asked]

end MotionPool

/-- The buffers that all slots share, and the allocator behind them. -/
structure Supply (α : Type) where
  lines : LineBufferCache
  motion : MotionPool
  memory : α

namespace Supply

variable [Allocator α]

def ensureLines (shape : PictureShape) : Action (Supply α) (Option Event) :=
  Action.on (fun supply : Supply α => (supply.lines, supply.memory))
    (fun (lines, memory) (supply : Supply α) => { supply with lines, memory })
    (LineBufferCache.ensure shape)

def ensureMotion (slots size : Nat) : Action (Supply α) (Option Event) :=
  Action.on (fun supply : Supply α => (supply.motion, supply.memory))
    (fun (motion, memory) (supply : Supply α) => { supply with motion, memory })
    (MotionPool.ensure slots size)

/-- Sees to it that the line buffers fit a picture, then that the motion vectors do. -/
def provide (shape : PictureShape) (slots size : Nat) : Action (Supply α) Unit := do
  let _ ← ensureLines shape
  let _ ← ensureMotion slots size

/-- How readying the shared buffers can end. -/
inductive Provides (shape : PictureShape) (slots size : Nat) (supply : Supply α) :
    Except Fault Unit → Supply α → Prop where
  | noLines {fault : Fault} {lines : LineBufferCache} {memory : α}
      (refused : supply.lines.Ensures shape supply.memory (.error fault) lines memory) :
      Provides shape slots size supply (.error fault) ⟨lines, supply.motion, memory⟩
  | noMotion {lines : LineBufferCache} {middle : α}
      (ready : supply.lines.Ensures shape supply.memory (.ok ()) lines middle)
      {fault : Fault} {motion : MotionPool} {memory : α}
      (refused : supply.motion.Ensures slots size middle (.error fault) motion memory) :
      Provides shape slots size supply (.error fault) ⟨lines, motion, memory⟩
  | provided {lines : LineBufferCache} {middle : α}
      (ready : supply.lines.Ensures shape supply.memory (.ok ()) lines middle)
      {motion : MotionPool} {memory : α}
      (granted : supply.motion.Ensures slots size middle (.ok ()) motion memory) :
      Provides shape slots size supply (.ok ()) ⟨lines, motion, memory⟩

theorem provide_spec (shape : PictureShape) (slots size : Nat) (supply : Supply α) :
    Provides shape slots size supply (Action.outcome (provide shape slots size supply))
      (Action.after (provide shape slots size supply)) := by
  obtain ⟨first, ⟨lines, middle⟩, ready, ran⟩ :=
    LineBufferCache.ensure_spec shape supply.lines supply.memory
  cases first with
  | error fault =>
      have stopped : ensureLines shape supply = .error fault ⟨lines, supply.motion, middle⟩ := by
        simp only [ensureLines, Action.on, ran]
      rw [provide, Action.bind_of_error stopped]
      exact .noLines ready
  | ok done =>
      obtain ⟨event, ran⟩ := ran
      have went : ensureLines shape supply = .ok event ⟨lines, supply.motion, middle⟩ := by
        simp only [ensureLines, Action.on, ran]
      rw [provide, Action.bind_of_ok went]
      obtain ⟨second, ⟨motion, memory⟩, granted, ran⟩ :=
        MotionPool.ensure_spec slots size supply.motion middle
      cases second with
      | error fault =>
          have stopped : ensureMotion slots size ⟨lines, supply.motion, middle⟩ =
              .error fault ⟨lines, motion, memory⟩ := by
            simp only [ensureMotion, Action.on, ran]
          rw [Action.bind_of_error stopped]
          exact .noMotion ready granted
      | ok done =>
          obtain ⟨event, ran⟩ := ran
          have went : ensureMotion slots size ⟨lines, supply.motion, middle⟩ =
              .ok event ⟨lines, motion, memory⟩ := by
            simp only [ensureMotion, Action.on, ran]
          rw [Action.bind_of_ok went]
          exact .provided ready granted

/-- Readying the shared buffers does not move a line buffer to another register. -/
theorem Provides.registers {shape : PictureShape} {slots size : Nat} {supply after : Supply α}
    {outcome : Except Fault Unit} (provides : Provides shape slots size supply outcome after) :
    after.lines.registers = supply.lines.registers := by
  have every : ∀ {outcome : Except Fault Unit} {lines : LineBufferCache} {memory : α},
      supply.lines.Ensures shape supply.memory outcome lines memory →
      lines.registers = supply.lines.registers := by
    intro outcome lines memory ensures
    cases ensures with
    | kept serves => rfl
    | refused outdated refuses => exact LineBufferCache.registers_placed ..
    | replaced outdated grants => exact LineBufferCache.registers_placed ..
  cases provides with
  | noLines refused => exact every refused
  | noMotion ready refused => exact every ready
  | provided ready granted => exact every ready

end Supply

end VideoAccel
