import VideoAccel.Proofs.Memory.Holdings

/-!
The handles that an arena hands out.

An arena numbers its buffers in the order in which they are asked for; which of them are still out,
how large they were and when it will refuse does not matter to the numbers. Two supplies with the
same buffers whose arenas have come to the same number (`Supply.Twins`) therefore still have the
same buffers after both were readied for a picture, if neither was refused.

The numbers have no bound here, while the handle of a device buffer is a signed word of 32 bits. That
makes no difference until an arena has handed out about two to the 31 buffers
(`Arena.NumberedFrom.handle_lt`).
-/

namespace VideoAccel

namespace Arena

/-- Arenas that have come to the same number hand out the same buffer. -/
theorem alloc_twins {first second first' second' : Arena} (same : first.nextHandle = second.nextHandle)
    {size : Nat} {buffer other : Buffer} (grants : alloc size first = .ok buffer first')
    (also : alloc size second = .ok other second') :
    buffer = other ∧ first'.nextHandle = second'.nextHandle := by
  rcases alloc_cases size first with ⟨-, refused⟩ | ⟨-, granted⟩
  · cases grants.symm.trans refused
  · rcases alloc_cases size second with ⟨-, refused⟩ | ⟨-, alsoGranted⟩
    · cases also.symm.trans refused
    · cases grants.symm.trans granted
      cases also.symm.trans alsoGranted
      exact ⟨by rw [same], congrArg (· + 1) same⟩

/-! ### Handles of 32 bits -/

/-- The handles were given out one after the other, from the given number on. -/
def NumberedFrom (start : Int) (arena : Arena) : Prop :=
  arena.nextHandle = start + arena.allocCount

variable {start : Int} {arena : Arena}

theorem NumberedFrom.alloc (numbered : arena.NumberedFrom start) (size : Nat) :
    (Action.after (alloc size arena)).NumberedFrom start := by
  rcases alloc_cases size arena with ⟨-, refused⟩ | ⟨-, granted⟩
  · rw [refused, Action.after_error]
    exact numbered
  · rw [granted, Action.after_ok]
    unfold NumberedFrom allocCount at numbered ⊢
    rw [List.length_append, List.length_singleton]
    show arena.nextHandle + 1 = _
    omega

/-- The books of how many buffers an arena has numbered. -/
@[reducible] def numbering (start : Int) : Books Arena :=
  .ofInvariant (NumberedFrom start) (fun size numbered => numbered.alloc size)
    (fun _ numbered => numbered) (fun _ numbered => numbered)

/-- As long as the numbers given out have 31 bits, every handle that is out is that of a signed word of
32 bits. -/
theorem NumberedFrom.handle_lt (numbered : arena.NumberedFrom start)
    {tags : List (Handle × Nat)} (owes : arena.Owes tags)
    (few : start + arena.allocCount ≤ Numeral.bound31) :
    ∀ tag ∈ tags, tag.1.value < Numeral.bound31 := by
  intro tag member
  have issued := owes.issued tag member
  unfold NumberedFrom at numbered
  omega

end Arena

namespace LineBufferCache

theorem nextHandle_release (cache : LineBufferCache) (arena : Arena) :
    (cache.release arena).2.nextHandle = arena.nextHandle := by
  unfold release
  cases cache.memory <;> rfl

theorem Ensures.twins {shape : PictureShape} {cache after after' : LineBufferCache}
    {first second first' second' : Arena} (same : first.nextHandle = second.nextHandle)
    (ensures : cache.Ensures shape first (.ok ()) after first')
    (also : cache.Ensures shape second (.ok ()) after' second') :
    after = after' ∧ first'.nextHandle = second'.nextHandle := by
  have released := ((cache.nextHandle_release first).trans same).trans
    (cache.nextHandle_release second).symm
  cases ensures with
  | kept serves =>
      cases also with
      | kept _ => exact ⟨rfl, same⟩
      | replaced outdated _ => cases serves.symm.trans outdated
  | replaced outdated grants =>
      cases also with
      | kept serves => cases serves.symm.trans outdated
      | replaced _ alsoGrants =>
          obtain ⟨rfl, next⟩ := Arena.alloc_twins released grants alsoGrants
          exact ⟨rfl, next⟩

end LineBufferCache

namespace MotionPool

theorem nextHandle_release (pool : MotionPool) (arena : Arena) :
    (pool.release arena).2.nextHandle = arena.nextHandle := by
  unfold release
  simp only
  generalize pool.buffers = buffers
  induction buffers generalizing arena with
  | nil => rfl
  | cons buffer rest ih =>
      rw [List.foldl_cons, ih]
      rfl

theorem allocAll_twins {size count : Nat} {first second first' second' : Arena}
    (same : first.nextHandle = second.nextHandle) {buffers others : List Buffer}
    (grants : allocAll size count first = .ok buffers first')
    (also : allocAll size count second = .ok others second') :
    buffers = others ∧ first'.nextHandle = second'.nextHandle := by
  induction count generalizing first second first' second' buffers others with
  | zero =>
      cases grants
      cases also
      exact ⟨rfl, same⟩
  | succ count ih =>
      obtain ⟨buffer, middle, rest, asked, further, rfl⟩ := allocAll_eq_ok grants
      obtain ⟨other, middle', rest', asked', further', rfl⟩ := allocAll_eq_ok also
      obtain ⟨rfl, next⟩ := Arena.alloc_twins same asked asked'
      obtain ⟨rfl, last⟩ := ih next further further'
      exact ⟨rfl, last⟩

theorem Ensures.twins {slots size : Nat} {pool after after' : MotionPool}
    {first second first' second' : Arena} (same : first.nextHandle = second.nextHandle)
    (ensures : pool.Ensures slots size first (.ok ()) after first')
    (also : pool.Ensures slots size second (.ok ()) after' second') :
    after = after' ∧ first'.nextHandle = second'.nextHandle := by
  have released := ((pool.nextHandle_release first).trans same).trans
    (pool.nextHandle_release second).symm
  cases ensures with
  | kept serves =>
      cases also with
      | kept _ => exact ⟨rfl, same⟩
      | rebuilt outgrown _ => cases serves.symm.trans outgrown
  | rebuilt outgrown grants =>
      cases also with
      | kept serves => cases serves.symm.trans outgrown
      | rebuilt _ alsoGrants =>
          obtain ⟨rfl, next⟩ := allocAll_twins released grants alsoGrants
          exact ⟨rfl, next⟩

end MotionPool

namespace Supply

/-- Both supplies have the same buffers, and their arenas have come to the same number. -/
structure Twins (first second : Supply Arena) : Prop where
  lines : first.lines = second.lines
  motion : first.motion = second.motion
  next : first.memory.nextHandle = second.memory.nextHandle

/-- Readying two such supplies for the same picture makes no difference between them. -/
theorem Provides.twins {shape : PictureShape} {slots size : Nat}
    {first second first' second' : Supply Arena} (twins : first.Twins second)
    (provides : first.Provides shape slots size (.ok ()) first')
    (also : second.Provides shape slots size (.ok ()) second') : first'.Twins second' := by
  cases provides with
  | provided ready granted =>
      cases also with
      | provided alsoReady alsoGranted =>
          rw [← twins.lines] at alsoReady
          rw [← twins.motion] at alsoGranted
          obtain ⟨lines, middle⟩ := ready.twins twins.next alsoReady
          obtain ⟨motion, next⟩ := granted.twins middle alsoGranted
          exact ⟨lines, motion, next⟩

end Supply

end VideoAccel
