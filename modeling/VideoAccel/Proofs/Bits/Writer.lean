import VideoAccel.Proofs.Bits.Strings

/-!
The writer as a string of bits.
-/

namespace VideoAccel.Writer

variable {writer : Writer} {value : Word} {width : Nat}

/-! ### What a put comes to -/

/-- How appending a value can end. -/
inductive Puts (writer : Writer) (value : Word) (width : Nat) : Writer → Prop where
  /-- There is nothing to append. -/
  | nothing (none : width = 0) : Puts writer value width writer
  /-- There is no word left. -/
  | full (some : 0 < width) (end_ : writer.capacity ≤ writer.position / 64) :
      Puts writer value width { writer with truncated := true }
  /-- The word at the position takes the value. -/
  | within (word : writer.position / 64 < writer.capacity)
      (fits : writer.position % 64 + width ≤ 64) :
      Puts writer value width
        { writer with
          words := writer.words.modify (writer.position / 64)
            (· ||| (value &&& Word.lowMask width) <<< (64 - writer.position % 64 - width))
          position := writer.position + width }
  /-- The last word takes the first bits of the value; the others are dropped. -/
  | cut (last : writer.position / 64 + 1 = writer.capacity)
      (crosses : 64 < writer.position % 64 + width) :
      Puts writer value width
        { writer with
          words := writer.words.modify (writer.position / 64)
            (· ||| (value &&& Word.lowMask width) >>> (writer.position % 64 + width - 64))
          position := 64 * writer.capacity
          truncated := true }
  /-- Two words share the value. -/
  | across (next : writer.position / 64 + 1 < writer.capacity)
      (crosses : 64 < writer.position % 64 + width) :
      Puts writer value width
        { writer with
          words := (writer.words.modify (writer.position / 64)
            (· ||| (value &&& Word.lowMask width) >>> (writer.position % 64 + width - 64))).modify
            (writer.position / 64 + 1)
            (· ||| (value &&& Word.lowMask width) <<< (128 - (writer.position % 64 + width)))
          position := writer.position + width }

/-- Appending a value ends in one of these ways. -/
theorem put_spec (writer : Writer) (value : Word) (narrow : width ≤ 64) :
    writer.Puts value width (writer.put value width) := by
  have used : writer.position % 64 < 64 := Nat.mod_lt _ (by decide)
  have whole := Nat.div_add_mod writer.position 64
  unfold put
  rw [Nat.min_eq_left narrow]
  by_cases none : width = 0
  · rw [if_pos none]
    exact .nothing none
  rw [if_neg none]
  by_cases end_ : writer.capacity ≤ writer.position / 64
  · rw [if_pos end_]
    exact .full (Nat.pos_of_ne_zero none) end_
  rw [if_neg end_]
  by_cases inside : width < 64 - writer.position % 64
  · rw [if_pos inside]
    exact .within (Nat.not_le.mp end_) (by omega)
  rw [if_neg inside]
  by_cases exact : width - (64 - writer.position % 64) = 0
  · -- An exact fill moves by nothing, to the left or to the right.
    have room : 64 - writer.position % 64 = width := by omega
    have filled : writer.Puts value width _ := .within (Nat.not_le.mp end_) (by omega)
    rw [if_pos exact, exact, room]
    simpa [room] using filled
  rw [if_neg exact]
  have rest : width - (64 - writer.position % 64) = writer.position % 64 + width - 64 := by omega
  rw [rest]
  by_cases last : writer.capacity ≤ writer.position / 64 + 1
  · have ended : writer.position + (64 - writer.position % 64) = 64 * writer.capacity := by omega
    rw [if_pos last, ended]
    exact .cut (by omega) (by omega)
  · have shift : 64 - (writer.position % 64 + width - 64) =
        128 - (writer.position % 64 + width) := by omega
    rw [if_neg last, shift]
    exact .across (Nat.not_le.mp last) (by omega)

namespace Puts

variable {written : Writer}

theorem capacity (ended : writer.Puts value width written) :
    written.capacity = writer.capacity := by
  cases ended <;> rfl

theorem size (ended : writer.Puts value width written) :
    written.words.size = writer.words.size := by
  cases ended <;> simp

theorem position (ended : writer.Puts value width written) (narrow : width ≤ 64)
    (inside : writer.position ≤ 64 * writer.capacity) :
    written.position = min (writer.position + width) (64 * writer.capacity) := by
  cases ended <;> (try simp only) <;> omega

theorem truncated (ended : writer.Puts value width written) (narrow : width ≤ 64)
    (inside : writer.position ≤ 64 * writer.capacity) :
    written.truncated =
      (writer.truncated || decide (64 * writer.capacity < writer.position + width)) := by
  cases ended with
  | nothing none => simp [none, Nat.not_lt.mpr inside]
  | full some end_ =>
      have lost : 64 * writer.capacity < writer.position + width := by omega
      simp [lost]
  | within word fits =>
      have kept : ¬ 64 * writer.capacity < writer.position + width := by omega
      simp [kept]
  | cut last crosses =>
      have lost : 64 * writer.capacity < writer.position + width := by omega
      simp [lost]
  | across next crosses =>
      have kept : ¬ 64 * writer.capacity < writer.position + width := by omega
      simp [kept]

/-- The words behind the capacity are not touched. -/
theorem beyond (ended : writer.Puts value width written) {i : Nat} (behind : writer.capacity ≤ i) :
    written.words[i]? = writer.words[i]? := by
  cases ended with
  | nothing none => rfl
  | full some end_ => rfl
  | within word fits =>
      rw [Array.getElem?_modify, if_neg (by omega)]
  | cut last crosses =>
      rw [Array.getElem?_modify, if_neg (by omega)]
  | across next crosses =>
      rw [Array.getElem?_modify, if_neg (by omega), Array.getElem?_modify, if_neg (by omega)]

/-- The bits of the value are added to those that stood at the position. -/
theorem bitAt (ended : writer.Puts value width written) (narrow : width ≤ 64)
    (owned : writer.capacity ≤ writer.words.size) (i : Nat) :
    Words.bitAt written.words i =
      (Words.bitAt writer.words i ||
        (decide (writer.position ≤ i ∧ i < writer.position + width ∧ i < 64 * writer.capacity) &&
          value.getLsbD (writer.position + width - 1 - i))) := by
  have used : writer.position % 64 < 64 := Nat.mod_lt _ (by decide)
  have low : i % 64 < 64 := Nat.mod_lt _ (by decide)
  cases ended with
  | nothing none =>
      have outside : ¬ (writer.position ≤ i ∧ i < writer.position + width ∧
        i < 64 * writer.capacity) := by omega
      simp [outside]
  | full some end_ =>
      have outside : ¬ (writer.position ≤ i ∧ i < writer.position + width ∧
        i < 64 * writer.capacity) := by omega
      simp [outside]
  | within word fits =>
      rw [Words.bitAt_modify_or (by omega), Word.getMsbD_masked_shiftLeft narrow, ← Bool.and_assoc,
        ← Bool.decide_and]
      congr 1
      exact Word.and_getLsbD_congr (by omega) (by omega)
  | cut last crosses =>
      rw [Words.bitAt_modify_or (by omega), Word.getMsbD_masked_ushiftRight narrow low,
        ← Bool.and_assoc, ← Bool.decide_and]
      congr 1
      exact Word.and_getLsbD_congr (by omega) (by omega)
  | across next crosses =>
      rw [Words.bitAt_modify_or (by simp; omega), Words.bitAt_modify_or (by omega),
        Word.getMsbD_masked_ushiftRight narrow low, Word.getMsbD_masked_shiftLeft narrow,
        Bool.or_assoc]
      congr 1
      -- A bit of the value is in the first word or in the second.
      by_cases first : i / 64 = writer.position / 64
      · have notNext : ¬ i / 64 = writer.position / 64 + 1 := by omega
        rw [decide_eq_false notNext, Bool.false_and, Bool.or_false, ← Bool.and_assoc,
          ← Bool.decide_and]
        exact Word.and_getLsbD_congr (by omega) (by omega)
      · rw [decide_eq_false first, Bool.false_and, Bool.false_or, ← Bool.and_assoc,
          ← Bool.decide_and]
        exact Word.and_getLsbD_congr (by omega) (by omega)

end Puts

/-! ### Moving back -/

@[simp] theorem capacity_seek (writer : Writer) (target : Nat) :
    (writer.seek target).capacity = writer.capacity := by
  simp only [seek]
  split <;> rfl

@[simp] theorem size_seek (writer : Writer) (target : Nat) :
    (writer.seek target).words.size = writer.words.size := by
  simp only [seek]
  split <;> simp

@[simp] theorem truncated_seek (writer : Writer) (target : Nat) :
    (writer.seek target).truncated = writer.truncated := by
  simp only [seek]
  split <;> rfl

theorem position_seek (writer : Writer) (target : Nat) :
    (writer.seek target).position = min target (64 * writer.capacity) := by
  simp only [seek]
  split <;> simp only <;> omega

theorem beyond_seek (writer : Writer) (target : Nat) {i : Nat} (behind : writer.capacity ≤ i) :
    (writer.seek target).words[i]? = writer.words[i]? := by
  simp only [seek]
  split
  · rfl
  · have notBefore : ¬ i < target / 64 := by omega
    have notHere : ¬ i = target / 64 := by omega
    simp [notBefore, notHere, Nat.not_lt.mpr behind]

/-- The bits before the new position stay; the others are zero. -/
theorem bitAt_seek (owned : writer.capacity ≤ writer.words.size) {target i : Nat}
    (inside : i < 64 * writer.capacity) :
    Words.bitAt (writer.seek target).words i =
      (decide (i < target) && Words.bitAt writer.words i) := by
  have low : i % 64 < 64 := Nat.mod_lt _ (by decide)
  simp only [seek]
  split
  · have kept : i < target := by omega
    simp [kept]
  · have there : i / 64 < writer.words.size := by omega
    simp only [Words.bitAt, Array.getD_eq_getD_getElem?, Array.getElem?_mapIdx,
      Array.getElem?_eq_getElem there, Option.map_some, Option.getD_some]
    rcases Nat.lt_trichotomy (i / 64) (target / 64) with before | same | after
    · have kept : i < target := by omega
      simp [before, kept]
    · have split : i % 64 < target % 64 ↔ i < target := by omega
      rw [if_neg (by omega), if_pos same, Word.getMsbD_and_not_lowMask _ (by omega) low]
      simp [split]
    · have gone : ¬ i < target := by omega
      rw [if_neg (by omega), if_neg (by omega), if_pos (by omega)]
      simp [gone]

/-! ### Starting over -/

@[simp] theorem capacity_reset (writer : Writer) : writer.reset.capacity = writer.capacity := rfl

@[simp] theorem position_reset (writer : Writer) : writer.reset.position = 0 := rfl

@[simp] theorem truncated_reset (writer : Writer) : writer.reset.truncated = false := rfl

@[simp] theorem size_reset (writer : Writer) : writer.reset.words.size = writer.words.size := by
  simp [reset]

theorem beyond_reset (writer : Writer) {i : Nat} (behind : writer.capacity ≤ i) :
    writer.reset.words[i]? = writer.words[i]? := by
  simp [reset, Nat.not_lt.mpr behind]

theorem bitAt_reset (writer : Writer) {i : Nat} (inside : i < 64 * writer.capacity) :
    Words.bitAt writer.reset.words i = false := by
  have word : i / 64 < writer.capacity := by omega
  simp only [Words.bitAt, reset, Array.getD_eq_getD_getElem?, Array.getElem?_mapIdx, word, if_true]
  cases writer.words[i / 64]? <;> simp

/-! ### The string -/

theorem toBits_eq (writer : Writer) :
    writer.toBits = Words.toBits (writer.words.toList.take writer.capacity) := rfl

theorem length_toBits (owned : writer.capacity ≤ writer.words.size) :
    writer.toBits.length = 64 * writer.capacity := by
  rw [toBits_eq, Words.length_toBits, List.length_take, Array.length_toList,
    Nat.min_eq_left owned]

theorem getElem?_toBits (owned : writer.capacity ≤ writer.words.size) (i : Nat) :
    writer.toBits[i]? =
      if i < 64 * writer.capacity then some (Words.bitAt writer.words i) else none := by
  rw [toBits_eq, Words.getElem?_toBits, List.getElem?_take]
  by_cases inside : i < 64 * writer.capacity
  · have there : i / 64 < writer.words.size := by omega
    rw [if_pos (by omega), if_pos inside]
    simp [Words.bitAt, there]
  · rw [if_neg (by omega), if_neg inside]
    rfl

/-- A writer in working order. -/
structure Sound (writer : Writer) : Prop where
  /-- The words it may write are there. -/
  owned : writer.capacity ≤ writer.words.size
  inside : writer.position ≤ 64 * writer.capacity
  /-- Nothing but zeros from the position on. -/
  blank : ∀ i, writer.position ≤ i → i < 64 * writer.capacity →
    Words.bitAt writer.words i = false

namespace Sound

theorem put (sound : writer.Sound) (value : Word) (narrow : width ≤ 64) :
    (writer.put value width).Sound := by
  have ended := writer.put_spec value narrow
  refine ⟨?_, ?_, fun i after inside => ?_⟩
  · rw [ended.capacity, ended.size]
    exact sound.owned
  · rw [ended.capacity, ended.position narrow sound.inside]
    exact Nat.min_le_right _ _
  · rw [ended.capacity] at inside
    rw [ended.position narrow sound.inside] at after
    have past : ¬ i < writer.position + width := by omega
    rw [ended.bitAt narrow sound.owned, sound.blank i (by omega) inside]
    simp [past]

theorem seek (owned : writer.capacity ≤ writer.words.size) (target : Nat) :
    (writer.seek target).Sound := by
  refine ⟨by simpa using owned, ?_, fun i after inside => ?_⟩
  · rw [position_seek, capacity_seek]
    exact Nat.min_le_right _ _
  · rw [capacity_seek] at inside
    rw [position_seek] at after
    have past : ¬ i < target := by omega
    rw [bitAt_seek owned inside]
    simp [past]

theorem reset (owned : writer.capacity ≤ writer.words.size) : writer.reset.Sound :=
  ⟨by simpa using owned, Nat.zero_le _, fun _ _ inside => writer.bitAt_reset inside⟩

/-- Appending keeps what stands before the position and puts the value behind it; what lies
outside the capacity is lost. -/
theorem toBits_put (sound : writer.Sound) (value : Word) (narrow : width ≤ 64) :
    (writer.put value width).toBits =
      (writer.toBits.take writer.position ++ value.field width).takeD (64 * writer.capacity)
        false := by
  have ended := writer.put_spec value narrow
  have length : (writer.toBits.take writer.position).length = writer.position := by
    rw [List.length_take, length_toBits sound.owned]
    exact Nat.min_eq_left sound.inside
  apply List.ext_getElem?
  intro i
  rw [getElem?_toBits (by rw [ended.capacity, ended.size]; exact sound.owned), ended.capacity,
    getElem?_takeD]
  by_cases inside : i < 64 * writer.capacity
  · rw [if_pos inside, if_pos inside, ended.bitAt narrow sound.owned, List.getElem?_append, length]
    by_cases before : i < writer.position
    · have outside : ¬ writer.position ≤ i := Nat.not_le.mpr before
      rw [if_pos before, List.getElem?_take_of_lt before, getElem?_toBits sound.owned, if_pos inside]
      simp [outside]
    · rw [if_neg before, sound.blank i (by omega) inside]
      by_cases field : i < writer.position + width
      · have behind : writer.position ≤ i := Nat.not_lt.mp before
        have place : width - 1 - (i - writer.position) = writer.position + width - 1 - i := by omega
        rw [Word.getElem?_field (by omega)]
        simp [field, inside, behind, place]
      · rw [List.getElem?_eq_none (by simp; omega)]
        simp [field]
  · rw [if_neg inside, if_neg inside]

end Sound

theorem toBits_seek (owned : writer.capacity ≤ writer.words.size) (target : Nat) :
    (writer.seek target).toBits =
      (writer.toBits.take target).takeD (64 * writer.capacity) false := by
  apply List.ext_getElem?
  intro i
  rw [getElem?_toBits (by simpa using owned), capacity_seek, getElem?_takeD]
  by_cases inside : i < 64 * writer.capacity
  · rw [if_pos inside, if_pos inside, bitAt_seek owned inside, List.getElem?_take,
      getElem?_toBits owned, if_pos inside]
    by_cases before : i < target <;> simp [before]
  · rw [if_neg inside, if_neg inside]

theorem toBits_reset (owned : writer.capacity ≤ writer.words.size) :
    writer.reset.toBits = List.replicate (64 * writer.capacity) false := by
  apply List.ext_getElem?
  intro i
  rw [getElem?_toBits (by simpa using owned), capacity_reset, List.getElem?_replicate]
  by_cases inside : i < 64 * writer.capacity
  · rw [if_pos inside, if_pos inside, bitAt_reset writer inside]
  · rw [if_neg inside, if_neg inside]

/-! ### Filling up with zeros -/

/-- Appending zeros changes no word. -/
theorem words_put_zero (narrow : width ≤ 64) : (writer.put 0 width).words = writer.words := by
  have keeps : ∀ (words : Array Word) (index : Nat), words.modify index (· ||| 0#64) = words := by
    intro words index
    apply Array.ext_getElem?
    intro i
    rw [Array.getElem?_modify]
    split <;> simp
  have ended := writer.put_spec 0 narrow
  generalize writer.put 0 width = written at ended
  cases ended with
  | nothing none => rfl
  | full some end_ => rfl
  | within word fits =>
      simp only [BitVec.ofNat_eq_ofNat, BitVec.zero_and, BitVec.zero_shiftLeft, keeps]
  | cut last crosses =>
      simp only [BitVec.ofNat_eq_ofNat, BitVec.zero_and, BitVec.zero_ushiftRight, keeps]
  | across next crosses =>
      simp only [BitVec.ofNat_eq_ofNat, BitVec.zero_and, BitVec.zero_shiftLeft,
        BitVec.zero_ushiftRight, keeps]

theorem words_pad_zero (writer : Writer) (count : Nat) :
    (writer.pad count 0).words = writer.words := by
  fun_induction writer.pad count 0 with
  | case1 writer => rfl
  | case2 writer count some chunk padded full => exact words_put_zero (Nat.min_le_right ..)
  | case3 writer count some chunk padded room ih =>
      exact ih.trans (words_put_zero (Nat.min_le_right ..))

theorem words_align_zero (writer : Writer) (unit : Nat) :
    (writer.align unit 0).words = writer.words := by
  unfold align
  split
  · rfl
  · exact words_pad_zero ..

end VideoAccel.Writer
