import VideoAccel.Proofs.Bits.Writer

/-!
The writer with its steps guarded.

Every word that is touched must exist and every shift must be by fewer bits than a word has;
otherwise there is no result. `put?_eq_some`, `seek?_eq_some` and `reset?_eq_some` say that a
writer which owns the words it may write never meets such a guard, and that the guarded steps come
to what the writer does.
-/

namespace VideoAccel

namespace Word

/-- A shift to the left by fewer bits than a word has. -/
def shl? (word : Word) (count : Nat) : Option Word :=
  if count < 64 then some (word <<< count) else none

/-- A shift to the right by fewer bits than a word has. -/
def shr? (word : Word) (count : Nat) : Option Word :=
  if count < 64 then some (word >>> count) else none

/-- The mask of the `count` lowest bits: one bit, shifted and less one, unless all are asked for. -/
def lowMask? (count : Nat) : Option Word :=
  if 64 ≤ count then some (BitVec.allOnes 64) else (shl? 1 count).map (· - 1)

/-- The mask of the `used` highest bits. With none to keep nothing is shifted. -/
def highMask? (used : Nat) : Option Word :=
  if used = 0 then some 0 else (lowMask? (64 - used)).map (~~~ ·)

@[simp] theorem shl?_eq_some {word : Word} {count : Nat} (small : count < 64) :
    word.shl? count = some (word <<< count) :=
  if_pos small

@[simp] theorem shr?_eq_some {word : Word} {count : Nat} (small : count < 64) :
    word.shr? count = some (word >>> count) :=
  if_pos small

theorem lowMask?_eq_some {count : Nat} (small : count ≤ 64) :
    lowMask? count = some (lowMask count) := by
  unfold lowMask?
  by_cases whole : 64 ≤ count
  · have all : count = 64 := by omega
    subst all
    rfl
  · have power : 2 ^ count < 2 ^ 64 := Nat.pow_lt_pow_right (by decide) (Nat.not_le.mp whole)
    have positive : 0 < 2 ^ count := Nat.two_pow_pos count
    have low : ((1 : Word) <<< count - 1).toNat = 2 ^ count - 1 := by
      simp only [BitVec.toNat_sub, BitVec.toNat_shiftLeft, Nat.shiftLeft_eq, BitVec.toNat_ofNat,
        BitVec.ofNat_eq_ofNat]
      omega
    rw [if_neg whole, shl?_eq_some (Nat.not_le.mp whole), Option.map_some]
    congr 1
    apply BitVec.eq_of_getLsbD_eq
    intro k inside
    rw [getLsbD_lowMask small, ← BitVec.testBit_toNat, low, Nat.testBit_two_pow_sub_one]

theorem highMask?_eq_some (used : Nat) : highMask? used = some (~~~ lowMask (64 - used)) := by
  unfold highMask?
  by_cases none : used = 0
  · rw [if_pos none, none]
    rfl
  · rw [if_neg none, lowMask?_eq_some (Nat.sub_le _ _), Option.map_some]

/-- A low part that is shifted to the top needs no mask. -/
theorem and_lowMask_shiftLeft (value : Word) {rest : Nat} (small : rest ≤ 64) :
    (value &&& lowMask rest) <<< (64 - rest) = value <<< (64 - rest) := by
  apply BitVec.eq_of_getLsbD_eq
  intro k inside
  simp only [BitVec.getLsbD_shiftLeft, BitVec.getLsbD_and, getLsbD_lowMask small]
  by_cases low : k < 64 - rest
  · simp [low]
  · have kept : k - (64 - rest) < rest := by omega
    simp [kept]

end Word

namespace Words

/-- Changes a word that must be there. -/
def modify? (words : Array Word) (index : Nat) (change : Word → Word) : Option (Array Word) :=
  if index < words.size then some (words.modify index change) else none

/-- Zeroes the words from `first` to `last`, which must be a part of them. -/
def zero? (words : Array Word) (first last : Nat) : Option (Array Word) :=
  if first ≤ last ∧ last ≤ words.size then
    some (words.mapIdx fun i word => if first ≤ i ∧ i < last then 0 else word)
  else none

@[simp] theorem modify?_eq_some {words : Array Word} {index : Nat} (inside : index < words.size)
    (change : Word → Word) : modify? words index change = some (words.modify index change) :=
  if_pos inside

theorem zero?_eq_some {words : Array Word} {first last : Nat} (ordered : first ≤ last)
    (inside : last ≤ words.size) :
    zero? words first last =
      some (words.mapIdx fun i word => if first ≤ i ∧ i < last then 0 else word) :=
  if_pos ⟨ordered, inside⟩

end Words

namespace Writer

/-- `put`, guarded. -/
def put? (writer : Writer) (value : Word) (width : Nat) : Option Writer :=
  let width := min width 64
  if width = 0 then some writer
  else
    let index := writer.position / 64
    if writer.capacity ≤ index then some { writer with truncated := true }
    else do
      let value := value &&& (← Word.lowMask? width)
      let room := 64 - writer.position % 64
      if width < room then
        let added ← value.shl? (room - width)
        let words ← Words.modify? writer.words index (· ||| added)
        return { writer with words, position := writer.position + width }
      else
        let rest := width - room
        let added ← value.shr? rest
        let words ← Words.modify? writer.words index (· ||| added)
        if rest = 0 then
          return { writer with words, position := writer.position + room }
        else if writer.capacity ≤ index + 1 then
          return { writer with words, position := writer.position + room, truncated := true }
        else
          let low := value &&& (← Word.lowMask? rest)
          let added ← low.shl? (64 - rest)
          let words ← Words.modify? words (index + 1) (· ||| added)
          return { writer with words, position := writer.position + width }

/-- `seek`, guarded. -/
def seek? (writer : Writer) (target : Nat) : Option Writer :=
  let index := target / 64
  let used := target % 64
  if writer.capacity ≤ index then some { writer with position := 64 * writer.capacity }
  else do
    let kept ← Word.highMask? used
    let words ← Words.modify? writer.words index (· &&& kept)
    let words ← Words.zero? words (index + 1) writer.capacity
    return { writer with words, position := target }

/-- `reset`, guarded. -/
def reset? (writer : Writer) : Option Writer := do
  let words ← Words.zero? writer.words 0 writer.capacity
  return { writer with words, position := 0, truncated := false }

variable {writer : Writer}

theorem put?_eq_some (owned : writer.capacity ≤ writer.words.size) (value : Word) (width : Nat) :
    writer.put? value width = some (writer.put value width) := by
  have used : writer.position % 64 < 64 := Nat.mod_lt _ (by decide)
  have small : min width 64 ≤ 64 := Nat.min_le_right _ _
  simp only [put?, put]
  generalize min width 64 = width at small ⊢
  by_cases none : width = 0
  · rw [if_pos none, if_pos none]
  rw [if_neg none, if_neg none]
  by_cases end_ : writer.capacity ≤ writer.position / 64
  · rw [if_pos end_, if_pos end_]
  rw [if_neg end_, if_neg end_, Word.lowMask?_eq_some small]
  simp only [Option.bind_eq_bind, Option.bind_some, Option.pure_def]
  by_cases inside : width < 64 - writer.position % 64
  · rw [if_pos inside, if_pos inside, Word.shl?_eq_some (by omega), Option.bind_some,
      Words.modify?_eq_some (by omega), Option.bind_some]
  rw [if_neg inside, if_neg inside, Word.shr?_eq_some (by omega), Option.bind_some,
    Words.modify?_eq_some (by omega), Option.bind_some]
  by_cases exact : width - (64 - writer.position % 64) = 0
  · rw [if_pos exact, if_pos exact]
  rw [if_neg exact, if_neg exact]
  by_cases last : writer.capacity ≤ writer.position / 64 + 1
  · rw [if_pos last, if_pos last]
  rw [if_neg last, if_neg last, Word.lowMask?_eq_some (by omega), Option.bind_some,
    Word.shl?_eq_some (by omega), Option.bind_some, Words.modify?_eq_some (by simp; omega),
    Option.bind_some, Word.and_lowMask_shiftLeft _ (by omega)]

theorem reset?_eq_some (owned : writer.capacity ≤ writer.words.size) :
    writer.reset? = some writer.reset := by
  simp [reset?, reset, Words.zero?_eq_some (Nat.zero_le _) owned]

theorem seek?_eq_some (owned : writer.capacity ≤ writer.words.size) (target : Nat) :
    writer.seek? target = some (writer.seek target) := by
  simp only [seek?, seek]
  by_cases end_ : writer.capacity ≤ target / 64
  · rw [if_pos end_, if_pos end_]
  rw [if_neg end_, if_neg end_, Word.highMask?_eq_some]
  simp only [Option.bind_eq_bind, Option.bind_some, Option.pure_def]
  rw [Words.modify?_eq_some (by omega), Option.bind_some,
    Words.zero?_eq_some (by omega) (by simpa using owned), Option.bind_some]
  congr 2
  apply Array.ext_getElem?
  intro i
  simp only [Array.getElem?_mapIdx, Array.getElem?_modify]
  rcases Nat.lt_trichotomy i (target / 64) with before | same | after
  · have notHere : ¬ target / 64 = i := by omega
    have notAfter : ¬ target / 64 + 1 ≤ i := by omega
    simp [before, notHere, notAfter]
  · have notAfter : ¬ target / 64 + 1 ≤ target / 64 := Nat.not_succ_le_self _
    simp [same, Function.comp_def, notAfter]
  · have notBefore : ¬ i < target / 64 := by omega
    have notHere : ¬ i = target / 64 := by omega
    have next : target / 64 + 1 ≤ i := after
    simp [notBefore, notHere, Ne.symm notHere, next]

end Writer

end VideoAccel
