import VideoAccel.Pipeline.Stage

/-!
A fixed number of slots, each of which serves one task at a time.

A slot is taken by `acquire`, which always picks the free slot with the lowest index, and given
back by `release`. What a slot holds outlives the task; clearing it is up to the next one.
-/

namespace VideoAccel

structure Slot (τ : Type) where
  taken : Bool
  stage : Stage
  content : τ
deriving DecidableEq, Repr

structure SlotPool (τ : Type) where
  slots : List (Slot τ)
deriving DecidableEq, Repr

namespace SlotPool

variable {τ : Type}

/-- `depth` free slots; `content` says what each of them holds. -/
def ofDepth (depth : Nat) (content : Nat → τ) : SlotPool τ :=
  ⟨(List.range depth).map fun index => ⟨false, .idle, content index⟩⟩

/-- The number of slots. -/
def capacity (pool : SlotPool τ) : Nat :=
  pool.slots.length

/-- The number of slots in use. -/
def inUse (pool : SlotPool τ) : Nat :=
  pool.slots.countP (·.taken)

def get? (pool : SlotPool τ) (index : Nat) : Option (Slot τ) :=
  pool.slots[index]?

/-- Changes one slot; an index without a slot is passed over. -/
def modify (pool : SlotPool τ) (index : Nat) (change : Slot τ → Slot τ) : SlotPool τ :=
  ⟨pool.slots.modify index change⟩

/-- Takes the free slot with the lowest index. -/
def acquire (pool : SlotPool τ) : Option (Nat × SlotPool τ) :=
  (pool.slots.findIdx? fun slot => !slot.taken).map fun index =>
    (index, pool.modify index fun slot => { slot with taken := true, stage := .idle })

/-- Gives a slot back and answers whether it was in use. -/
def release (pool : SlotPool τ) (index : Nat) : Bool × SlotPool τ :=
  ((pool.get? index).any (·.taken),
    pool.modify index fun slot => { slot with taken := false, stage := .idle })

def setStage (pool : SlotPool τ) (index : Nat) (stage : Stage) : SlotPool τ :=
  pool.modify index fun slot => { slot with stage }

def setContent (pool : SlotPool τ) (index : Nat) (content : τ) : SlotPool τ :=
  pool.modify index fun slot => { slot with content }

/-- Changes what every slot holds. -/
def mapContent (pool : SlotPool τ) (change : τ → τ) : SlotPool τ :=
  ⟨pool.slots.map fun slot => { slot with content := change slot.content }⟩

/-! ### One slot at a time -/

@[simp] theorem capacity_modify (pool : SlotPool τ) (index : Nat) (change : Slot τ → Slot τ) :
    (pool.modify index change).capacity = pool.capacity := by
  simp [modify, capacity]

theorem get?_modify (pool : SlotPool τ) (index other : Nat) (change : Slot τ → Slot τ) :
    (pool.modify index change).get? other =
      if index = other then (pool.get? other).map change else pool.get? other := by
  simp only [modify, get?, List.getElem?_modify]
  split <;> cases pool.slots[other]? <;> rfl

/-- Changing one slot leaves the others alone. -/
theorem get?_modify_of_ne (pool : SlotPool τ) {index other : Nat} (ne : index ≠ other)
    (change : Slot τ → Slot τ) : (pool.modify index change).get? other = pool.get? other := by
  rw [get?_modify, if_neg ne]

end SlotPool

end VideoAccel
