import VideoAccel.Proofs.Memory.Tally

/-!
When an arena refuses a picture its buffers.

An arena that was told to refuse grants some number of further buffers first, and giving buffers back
does not make it grant more. So whether the shared buffers can be readied for a picture is settled
beforehand, by how many of them have to be taken anew (`Supply.wants`): `Supply.Provides.asked` says
that they are readied if the arena grants that many, and that otherwise a refused allocation is what
stops it.
-/

namespace VideoAccel

namespace Arena

/-- Whether the arena refuses an allocation that comes behind `further` others. -/
def refusesAfter (arena : Arena) (further : Nat) : Bool :=
  match arena.failAfter with
  | none => false
  | some limit => limit ≤ arena.allocCount + further

theorem refusesAfter_zero (arena : Arena) : arena.refusesAfter 0 = arena.refuses := rfl

theorem refusesAfter_of_willing {arena : Arena} (willing : arena.failAfter = none) (further : Nat) :
    arena.refusesAfter further = false := by
  rw [refusesAfter, willing]

/-- From one arena to the other `count` buffers were handed out. Any number may have gone back. -/
structure HandsOut (count : Nat) (before after : Arena) : Prop where
  failAfter : after.failAfter = before.failAfter
  allocCount : after.allocCount = before.allocCount + count

variable {a b c : Arena} {count more : Nat} {outcome : Except Fault Unit}

theorem HandsOut.trans (first : HandsOut count a b) (second : HandsOut more b c) :
    HandsOut (count + more) a c where
  failAfter := second.failAfter.trans first.failAfter
  allocCount := by rw [second.allocCount, first.allocCount, Nat.add_assoc]

theorem HandsOut.refusesAfter (hands : HandsOut count a b) (further : Nat) :
    b.refusesAfter further = a.refusesAfter (count + further) := by
  rw [Arena.refusesAfter, Arena.refusesAfter, hands.failAfter, hands.allocCount, Nat.add_assoc]

theorem handsOut_alloc {size : Nat} {buffer : Buffer} (granted : alloc size a = .ok buffer b) :
    HandsOut 1 a b := by
  refine ⟨?_, allocCount_alloc granted⟩
  rcases alloc_cases size a with ⟨-, refused⟩ | ⟨-, took⟩
  · cases refused.symm.trans granted
  · cases took.symm.trans granted
    rfl

/-- How asking for `count` buffers can end: with all of them, or with the refusal of one. -/
inductive Asked (count : Nat) (before : Arena) : Except Fault Unit → Arena → Prop where
  | granted {after : Arena} (all : ∀ further < count, before.refusesAfter further = false)
      (hands : HandsOut count before after) : Asked count before (.ok ()) after
  | refused {size further : Nat} {after : Arena} (among : further < count)
      (refuses : before.refusesAfter further = true) :
      Asked count before (.error (.allocationRefused size)) after

namespace Asked

theorem none (arena : Arena) : Asked 0 arena (.ok ()) arena :=
  .granted (fun _ impossible => absurd impossible (Nat.not_lt_zero _)) ⟨rfl, rfl⟩

/-- Buffers that went back before do not matter. -/
theorem of_released (released : HandsOut 0 a b) (asked : Asked count b outcome c) :
    Asked count a outcome c := by
  have same : ∀ further, b.refusesAfter further = a.refusesAfter further := by
    intro further
    rw [released.refusesAfter, Nat.zero_add]
  cases asked with
  | granted all hands =>
      refine .granted (fun further among => (same further).symm.trans (all further among)) ?_
      rw [← Nat.zero_add count]
      exact released.trans hands
  | refused among refuses => exact .refused among ((same _).symm.trans refuses)

/-- After some buffers were granted others are asked for. -/
theorem andThen (first : Asked count a (.ok ()) b) (second : Asked more b outcome c) :
    Asked (count + more) a outcome c := by
  cases first with
  | granted all hands =>
      cases second with
      | granted rest further =>
          refine .granted (fun position among => ?_) (hands.trans further)
          by_cases early : position < count
          · exact all position early
          · have later := rest (position - count) (by omega)
            rwa [hands.refusesAfter, Nat.add_sub_cancel' (Nat.not_lt.mp early)] at later
      | @refused size further after among refuses =>
          rw [hands.refusesAfter] at refuses
          exact .refused (Nat.add_lt_add_left among count) refuses

/-- After a refusal the others are not asked for. -/
theorem stop {fault : Fault} (first : Asked count a (.error fault) b) (more : Nat) :
    Asked (count + more) a (.error fault) b := by
  cases first with
  | refused among refuses => exact .refused (Nat.lt_add_right more among) refuses

/-- All buffers are granted exactly when none of the allocations is refused. -/
theorem eq_ok_iff (asked : Asked count a outcome b) :
    outcome = .ok () ↔ ∀ further < count, a.refusesAfter further = false := by
  cases asked with
  | granted all hands => exact ⟨fun _ => all, fun _ => rfl⟩
  | refused among refuses =>
      constructor
      · intro impossible
        cases impossible
      · intro all
        cases refuses.symm.trans (all _ among)

end Asked

theorem asked_alloc (size : Nat) (arena : Arena) :
    Asked 1 arena ((Action.outcome (alloc size arena)).map fun _ => ())
      (Action.after (alloc size arena)) := by
  rcases alloc_cases size arena with ⟨refuses, ran⟩ | ⟨grants, ran⟩
  · rw [ran]
    exact .refused Nat.zero_lt_one (arena.refusesAfter_zero.trans refuses)
  · rw [ran]
    refine .granted (fun further among => ?_) (handsOut_alloc ran)
    obtain rfl : further = 0 := by omega
    exact arena.refusesAfter_zero.trans grants

end Arena

open Arena (Asked HandsOut)

namespace LineBufferCache

/-- How many buffers readying the line buffers for a picture takes. -/
def wants (cache : LineBufferCache) (shape : PictureShape) : Nat :=
  if cache.serves shape then 0 else 1

theorem handsOut_release (cache : LineBufferCache) (arena : Arena) :
    HandsOut 0 arena (cache.release arena).2 := by
  refine ⟨?_, cache.allocCount_release arena⟩
  unfold release
  cases cache.memory <;> rfl

theorem Ensures.asked {shape : PictureShape} {cache after : LineBufferCache} {memory final : Arena}
    {outcome : Except Fault Unit} (ensures : cache.Ensures shape memory outcome after final) :
    Asked (cache.wants shape) memory outcome final := by
  have asked := Arena.asked_alloc (LineBuffer.totalSize (cache.placed shape))
    (cache.release memory).2
  unfold wants
  cases ensures with
  | kept serves =>
      rw [if_pos serves]
      exact .none memory
  | refused outdated refuses =>
      rw [if_neg (by rw [outdated]; exact Bool.false_ne_true)]
      have ran : Arena.alloc _ _ = .error _ _ := refuses
      rw [ran] at asked
      exact asked.of_released (cache.handsOut_release memory)
  | replaced outdated grants =>
      rw [if_neg (by rw [outdated]; exact Bool.false_ne_true)]
      have ran : Arena.alloc _ _ = .ok _ _ := grants
      rw [ran] at asked
      exact asked.of_released (cache.handsOut_release memory)

end LineBufferCache

namespace MotionPool

/-- How many buffers readying the motion vector pool takes. -/
def wants (pool : MotionPool) (slots size : Nat) : Nat :=
  if pool.serves slots size then 0 else slots

theorem handsOut_release (pool : MotionPool) (arena : Arena) :
    HandsOut 0 arena (pool.release arena).2 := by
  refine ⟨?_, pool.allocCount_release arena⟩
  show (pool.buffers.foldl (fun arena buffer => Allocator.release buffer arena) arena).failAfter = _
  generalize pool.buffers = buffers
  induction buffers generalizing arena with
  | nil => rfl
  | cons buffer rest ih => exact ih (Allocator.release buffer arena)

theorem asked_allocAll (size count : Nat) (arena : Arena) :
    Asked count arena ((Action.outcome (allocAll size count arena)).map fun _ => ())
      (Action.after (allocAll size count arena)) := by
  induction count generalizing arena with
  | zero => exact .none arena
  | succ count ih =>
      have one := Arena.asked_alloc size arena
      cases ran : Arena.alloc size arena with
      | error fault middle =>
          rw [ran] at one
          rw [allocAll_of_refused ran, Nat.add_comm count 1]
          exact one.stop count
      | ok buffer middle =>
          rw [ran] at one
          have others := ih middle
          cases further : allocAll size count middle with
          | error fault after =>
              rw [further] at others
              rw [allocAll_of_stopped ran further, Nat.add_comm count 1]
              cases one.andThen others with
              | refused among refuses => exact .refused among refuses
          | ok buffers after =>
              rw [further] at others
              rw [allocAll_of_ok ran further, Nat.add_comm count 1]
              exact one.andThen others

theorem Ensures.asked {slots size : Nat} {pool after : MotionPool} {memory final : Arena}
    {outcome : Except Fault Unit} (ensures : pool.Ensures slots size memory outcome after final) :
    Asked (pool.wants slots size) memory outcome final := by
  have asked := asked_allocAll size slots (pool.release memory).2
  unfold wants
  cases ensures with
  | kept serves =>
      rw [if_pos serves]
      exact .none memory
  | refused outgrown refuses =>
      rw [if_neg (by rw [outgrown]; exact Bool.false_ne_true)]
      rw [refuses] at asked
      exact asked.of_released (pool.handsOut_release memory)
  | rebuilt outgrown grants =>
      rw [if_neg (by rw [outgrown]; exact Bool.false_ne_true)]
      rw [grants] at asked
      exact asked.of_released (pool.handsOut_release memory)

end MotionPool

namespace Supply

/-- How many buffers readying the shared buffers for a picture takes. -/
def wants (supply : Supply Arena) (shape : PictureShape) (slots size : Nat) : Nat :=
  supply.lines.wants shape + supply.motion.wants slots size

/-- The shared buffers are readied if the arena grants as many as have to be taken anew; otherwise a
refused allocation is what stops it. -/
theorem Provides.asked {shape : PictureShape} {slots size : Nat} {supply after : Supply Arena}
    {outcome : Except Fault Unit} (provides : supply.Provides shape slots size outcome after) :
    Asked (supply.wants shape slots size) supply.memory outcome after.memory := by
  cases provides with
  | noLines refused => exact refused.asked.stop _
  | noMotion ready refused => exact ready.asked.andThen refused.asked
  | provided ready granted => exact ready.asked.andThen granted.asked

end Supply

end VideoAccel
