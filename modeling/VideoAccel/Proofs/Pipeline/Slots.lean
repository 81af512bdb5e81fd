import VideoAccel.Pipeline.SlotPool

/-!
Slots, one at a time.

Every change of a pool is a `put`: one slot is replaced, and the others stay. Acquiring picks the
first free slot (`FirstFree`); what a `put` does to the number of slots in use, or in a stage, follows
from `countP_put`.
-/

namespace VideoAccel.SlotPool

variable {τ : Type}

/-! ### Replacing a slot -/

/-- Puts a slot in the place of another. -/
def put (pool : SlotPool τ) (index : Nat) (slot : Slot τ) : SlotPool τ :=
  pool.modify index fun _ => slot

@[simp] theorem capacity_put (pool : SlotPool τ) (index : Nat) (slot : Slot τ) :
    (pool.put index slot).capacity = pool.capacity :=
  capacity_modify ..

theorem get?_put_self {pool : SlotPool τ} {index : Nat} {old : Slot τ}
    (found : pool.get? index = some old) (slot : Slot τ) :
    (pool.put index slot).get? index = some slot := by
  rw [put, get?_modify, if_pos rfl, found, Option.map_some]

theorem get?_put_of_ne (pool : SlotPool τ) {index other : Nat} (ne : index ≠ other)
    (slot : Slot τ) : (pool.put index slot).get? other = pool.get? other :=
  get?_modify_of_ne pool ne _

/-- A slot that is found after one was put in place is that one or was there before. -/
theorem get?_put_cases {pool : SlotPool τ} {index other : Nat} {slot final : Slot τ}
    (found : (pool.put index slot).get? other = some final) :
    (index = other ∧ final = slot) ∨ (index ≠ other ∧ pool.get? other = some final) := by
  by_cases same : index = other
  · subst same
    cases old : pool.get? index with
    | none =>
        rw [put, get?_modify, if_pos rfl, old] at found
        cases found
    | some earlier =>
        rw [get?_put_self old] at found
        cases found
        exact .inl ⟨rfl, rfl⟩
  · rw [get?_put_of_ne _ same] at found
    exact .inr ⟨same, found⟩

theorem ext_get? {a b : SlotPool τ} (same : ∀ index, a.get? index = b.get? index) : a = b := by
  cases a
  cases b
  congr 1
  exact List.ext_getElem? same

/-- Only the last slot put in a place counts. -/
@[simp] theorem put_put (pool : SlotPool τ) (index : Nat) (first second : Slot τ) :
    (pool.put index first).put index second = pool.put index second := by
  apply ext_get?
  intro other
  by_cases same : index = other
  · subst same
    cases found : pool.get? index with
    | none => simp only [put, get?_modify, found, if_true, Option.map_none]
    | some old => rw [get?_put_self (get?_put_self found first), get?_put_self found]
  · rw [get?_put_of_ne _ same, get?_put_of_ne _ same, get?_put_of_ne _ same]

/-- Putting back what is there changes nothing. -/
theorem put_self {pool : SlotPool τ} {index : Nat} {slot : Slot τ}
    (found : pool.get? index = some slot) : pool.put index slot = pool := by
  apply ext_get?
  intro other
  by_cases same : index = other
  · subst same
    rw [get?_put_self found, found]
  · rw [get?_put_of_ne _ same]

theorem modify_eq_put {pool : SlotPool τ} {index : Nat} {slot : Slot τ}
    (found : pool.get? index = some slot) (change : Slot τ → Slot τ) :
    pool.modify index change = pool.put index (change slot) := by
  apply ext_get?
  intro other
  by_cases same : index = other
  · subst same
    rw [get?_put_self found, get?_modify, if_pos rfl, found, Option.map_some]
  · rw [get?_put_of_ne _ same, get?_modify_of_ne _ same]

theorem setContent_eq_put {pool : SlotPool τ} {index : Nat} {slot : Slot τ}
    (found : pool.get? index = some slot) (content : τ) :
    pool.setContent index content = pool.put index { slot with content } :=
  modify_eq_put found _

theorem release_eq_put {pool : SlotPool τ} {index : Nat} {slot : Slot τ}
    (found : pool.get? index = some slot) :
    (pool.release index).2 = pool.put index ⟨false, .idle, slot.content⟩ :=
  modify_eq_put found _

/-! ### Counting slots -/

/-- Replacing a slot changes how many slots have a property by what the two slots differ in. -/
theorem countP_put {pool : SlotPool τ} {index : Nat} {old : Slot τ}
    (found : pool.get? index = some old) (slot : Slot τ) (p : Slot τ → Bool) :
    (pool.put index slot).slots.countP p + (p old).toNat =
      pool.slots.countP p + (p slot).toNat := by
  obtain ⟨slots⟩ := pool
  obtain ⟨inside, here⟩ := List.getElem?_eq_some_iff.mp (show slots[index]? = some old from found)
  have counted : (if p slots[index] = true then 1 else 0) ≤ slots.countP p :=
    List.boole_getElem_le_countP inside
  have replaced : (slots.modify index fun _ => slot) = slots.set index slot := by
    apply List.ext_getElem?
    intro other
    rw [List.getElem?_modify, List.getElem?_set]
    by_cases same : index = other
    · subst same
      simp [inside]
    · simp [same]
  show (slots.modify index fun _ => slot).countP p + _ = slots.countP p + _
  rw [replaced, List.countP_set inside]
  rw [here] at counted ⊢
  cases hasOld : p old <;> cases hasNew : p slot <;>
    simp only [hasOld, Bool.toNat_true, Bool.toNat_false, if_true, Bool.false_eq_true,
      if_false] at counted ⊢ <;> omega

/-- Replacing a slot changes the number in use by what the two slots differ in. -/
theorem inUse_put {pool : SlotPool τ} {index : Nat} {old : Slot τ}
    (found : pool.get? index = some old) (slot : Slot τ) :
    (pool.put index slot).inUse + old.taken.toNat = pool.inUse + slot.taken.toNat :=
  countP_put found slot (·.taken)

theorem inUse_le_capacity (pool : SlotPool τ) : pool.inUse ≤ pool.capacity :=
  List.countP_le_length

/-- The number of slots in a stage. -/
def inStage (pool : SlotPool τ) (stage : Stage) : Nat :=
  pool.slots.countP fun slot => decide (slot.stage = stage)

/-- Replacing a slot changes the number in a stage by what the two slots differ in. -/
theorem inStage_put {pool : SlotPool τ} {index : Nat} {old : Slot τ}
    (found : pool.get? index = some old) (slot : Slot τ) (stage : Stage) :
    (pool.put index slot).inStage stage + (decide (old.stage = stage)).toNat =
      pool.inStage stage + (decide (slot.stage = stage)).toNat :=
  countP_put found slot fun slot => decide (slot.stage = stage)

theorem inStage_pos {pool : SlotPool τ} {index : Nat} {slot : Slot τ}
    (found : pool.get? index = some slot) : 0 < pool.inStage slot.stage :=
  List.countP_pos_iff.mpr ⟨slot, List.mem_of_getElem? found, decide_eq_true rfl⟩

theorem inUse_of_busy {pool : SlotPool τ}
    (busy : ∀ index slot, pool.get? index = some slot → slot.taken = true) :
    pool.inUse = pool.capacity := by
  refine List.countP_eq_length.mpr fun slot member => ?_
  obtain ⟨index, inside, rfl⟩ := List.getElem_of_mem member
  exact busy index _ (List.getElem?_eq_getElem inside)

/-! ### Acquiring -/

/-- The free slot with the lowest index. -/
structure FirstFree (pool : SlotPool τ) (index : Nat) (slot : Slot τ) : Prop where
  found : pool.get? index = some slot
  free : slot.taken = false
  least : ∀ other < index, ∃ earlier, pool.get? other = some earlier ∧ earlier.taken = true

theorem FirstFree.unique {pool : SlotPool τ} {index other : Nat} {slot otherSlot : Slot τ}
    (first : pool.FirstFree index slot) (second : pool.FirstFree other otherSlot) :
    index = other ∧ slot = otherSlot := by
  have notLess : ∀ {i j : Nat} {a b : Slot τ}, pool.FirstFree i a → pool.FirstFree j b → ¬ i < j := by
    intro i j a b one two less
    obtain ⟨earlier, found, taken⟩ := two.least i less
    rw [one.found] at found
    cases found
    rw [one.free] at taken
    cases taken
  have below := notLess first second
  have above := notLess second first
  have same : index = other := by omega
  subst same
  have found := first.found
  rw [second.found] at found
  cases found
  exact ⟨rfl, rfl⟩

@[simp] theorem capacity_ofDepth (depth : Nat) (content : Nat → τ) :
    (ofDepth depth content).capacity = depth := by
  rw [ofDepth, capacity, List.length_map, List.length_range]

/-- In a new pool no slot is in any stage but idle. -/
theorem inStage_ofDepth {stage : Stage} (busy : stage ≠ .idle) (depth : Nat) (content : Nat → τ) :
    (ofDepth depth content).inStage stage = 0 := by
  refine List.countP_eq_zero.mpr fun slot member => ?_
  obtain ⟨index, -, rfl⟩ := List.mem_map.mp member
  exact fun same => busy (of_decide_eq_true same).symm

@[simp] theorem inUse_ofDepth (depth : Nat) (content : Nat → τ) :
    (ofDepth depth content).inUse = 0 := by
  refine List.countP_eq_zero.mpr fun slot member => ?_
  obtain ⟨index, -, rfl⟩ := List.mem_map.mp member
  exact Bool.false_ne_true

theorem get?_ofDepth {depth index : Nat} (known : index < depth) (content : Nat → τ) :
    (ofDepth depth content).get? index = some ⟨false, .idle, content index⟩ := by
  unfold get? ofDepth
  rw [List.getElem?_map, List.getElem?_range known]
  rfl

theorem ofDepth_firstFree {depth : Nat} (pos : 0 < depth) (content : Nat → τ) :
    (ofDepth depth content).FirstFree 0 ⟨false, .idle, content 0⟩ where
  found := get?_ofDepth pos content
  free := rfl
  least _ impossible := absurd impossible (Nat.not_lt_zero _)

theorem acquire_of_firstFree {pool : SlotPool τ} {index : Nat} {slot : Slot τ}
    (first : pool.FirstFree index slot) :
    pool.acquire = some (index, pool.put index ⟨true, .idle, slot.content⟩) := by
  have searched : pool.slots.findIdx? (fun slot => !slot.taken) = some index := by
    rw [List.findIdx?_eq_some_iff_getElem]
    obtain ⟨inside, here⟩ := List.getElem?_eq_some_iff.mp first.found
    refine ⟨inside, by simp [here, first.free], ?_⟩
    intro other before
    obtain ⟨earlier, found, taken⟩ := first.least other before
    obtain ⟨known, there⟩ := List.getElem?_eq_some_iff.mp found
    simp [there, taken]
  rw [acquire, searched, Option.map_some, modify_eq_put first.found]

/-- Acquiring takes the free slot with the lowest index, or there is none. -/
theorem acquire_cases (pool : SlotPool τ) :
    (∃ index slot, pool.FirstFree index slot ∧
      pool.acquire = some (index, pool.put index ⟨true, .idle, slot.content⟩)) ∨
    ((∀ index slot, pool.get? index = some slot → slot.taken = true) ∧ pool.acquire = none) := by
  cases searched : pool.slots.findIdx? (fun slot => !slot.taken) with
  | none =>
      right
      refine ⟨?_, by rw [acquire, searched, Option.map_none]⟩
      intro index slot found
      have all := List.findIdx?_eq_none_iff.mp searched slot (List.mem_of_getElem? found)
      simpa using all
  | some index =>
      left
      obtain ⟨inside, free, least⟩ := List.findIdx?_eq_some_iff_getElem.mp searched
      have first : pool.FirstFree index pool.slots[index] :=
        { found := List.getElem?_eq_getElem inside
          free := by simpa using free
          least := fun other before => ⟨pool.slots[other], List.getElem?_eq_getElem _, by
            simpa using least other before⟩ }
      exact ⟨index, _, first, acquire_of_firstFree first⟩

end VideoAccel.SlotPool
