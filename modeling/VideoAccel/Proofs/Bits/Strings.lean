import VideoAccel.Bits.Writer
import Mathlib.Data.List.TakeDrop

/-!
Words as strings of bits.

An array of words is read as one string, the most significant bit of its first word first:
`Words.bitAt` is its bit at a position and `Words.toBits` the string itself. `Word.field` is the
string that a value of a given width stands for; `Word.lowMask` keeps the bits of it and no others.
-/

namespace VideoAccel

section Pieces

variable {α β : Type} {piece : α → List β} {length : Nat}

theorem length_flatMap (each : ∀ item, (piece item).length = length) (items : List α) :
    (items.flatMap piece).length = length * items.length := by
  simp [List.length_flatMap, each, List.map_const', Nat.mul_comm]

/-- Where the pieces of a list are all of one length, an item is found by quotient and remainder. -/
theorem getElem?_flatMap (some_ : 0 < length) (each : ∀ item, (piece item).length = length)
    (items : List α) (i : Nat) :
    (items.flatMap piece)[i]? = items[i / length]?.bind fun item => (piece item)[i % length]? := by
  induction items generalizing i with
  | nil => simp
  | cons item rest ih =>
      rw [List.flatMap_cons, List.getElem?_append, each]
      by_cases here : i < length
      · rw [if_pos here, Nat.div_eq_of_lt here, Nat.mod_eq_of_lt here]
        rfl
      · have behind : length ≤ i := Nat.le_of_not_lt here
        rw [if_neg here, ih, Nat.mod_eq_sub_mod behind, Nat.div_eq_sub_div some_ behind,
          List.getElem?_cons_succ]

end Pieces

namespace Word

/-- The low `width` bits of a value, most significant first. -/
def field (value : Word) (width : Nat) : List Bool :=
  (List.range width).map fun k => value.getLsbD (width - 1 - k)

@[simp] theorem length_field (value : Word) (width : Nat) : (value.field width).length = width := by
  simp [field]

theorem getElem?_field {value : Word} {width k : Nat} (inside : k < width) :
    (value.field width)[k]? = some (value.getLsbD (width - 1 - k)) := by
  simp [field, inside]

@[simp] theorem length_toBits (word : Word) : word.toBits.length = 64 := by
  simp [toBits]

theorem getElem?_toBits {word : Word} {k : Nat} (inside : k < 64) :
    word.toBits[k]? = some (word.getMsbD k) := by
  simp [toBits, inside]

theorem getLsbD_lowMask {count : Nat} (small : count ≤ 64) (k : Nat) :
    (lowMask count).getLsbD k = decide (k < count) := by
  simp only [lowMask, BitVec.getLsbD_ushiftRight, BitVec.getLsbD_allOnes, decide_eq_decide]
  omega

/-- The first `kept` bits of a word stay when the others are masked out. -/
theorem getMsbD_and_not_lowMask (word : Word) {kept k : Nat} (inside : kept ≤ 64) (low : k < 64) :
    (word &&& ~~~ lowMask (64 - kept)).getMsbD k = (decide (k < kept) && word.getMsbD k) := by
  rw [BitVec.getMsbD_and, BitVec.getMsbD_not, BitVec.getMsbD_eq_getLsbD (lowMask (64 - kept)),
    getLsbD_lowMask (by omega), Bool.and_comm]
  have place : 64 - 1 - k < 64 - kept ↔ ¬ k < kept := by omega
  by_cases before : k < kept <;> simp [low, place, before]

/-- The same bit of a value, asked for in two ways. -/
theorem and_getLsbD_congr {asked wanted : Prop} [Decidable asked] [Decidable wanted]
    {value : Word} {place k : Nat} (same : asked ↔ wanted) (there : wanted → place = k) :
    (decide asked && value.getLsbD place) = (decide wanted && value.getLsbD k) := by
  by_cases wants : wanted
  · simp [same.mpr wants, wants, there wants]
  · simp [wants, mt same.mp wants]

/-- A value of the given width, moved to the left, ends where the shift begins. -/
theorem getMsbD_masked_shiftLeft {value : Word} {width : Nat} (narrow : width ≤ 64)
    (shift k : Nat) :
    ((value &&& lowMask width) <<< shift).getMsbD k =
      (decide (64 - shift - width ≤ k ∧ k < 64 - shift) && value.getLsbD (63 - shift - k)) := by
  rw [BitVec.getMsbD_shiftLeft, BitVec.getMsbD_eq_getLsbD, BitVec.getLsbD_and,
    getLsbD_lowMask narrow]
  have place : 64 - 1 - (k + shift) = 63 - shift - k := by omega
  rw [place]
  by_cases inside : k < 64 - shift
  · have kept : 63 - shift - k < width ↔ 64 - shift - width ≤ k := by omega
    have stays : k + shift < 64 := by omega
    simp [inside, kept, stays, Bool.and_comm]
  · have leaves : ¬ k + shift < 64 := by omega
    simp [inside, leaves]

/-- A value of the given width, moved to the right until its last `rest` bits are lost; it starts
at bit `64 + rest - width` of the word. -/
theorem getMsbD_masked_ushiftRight {value : Word} {width rest k : Nat} (narrow : width ≤ 64)
    (low : k < 64) :
    ((value &&& lowMask width) >>> rest).getMsbD k =
      (decide (64 + rest - width ≤ k) && value.getLsbD (63 + rest - k)) := by
  simp only [BitVec.getMsbD_eq_getLsbD, BitVec.getLsbD_ushiftRight, BitVec.getLsbD_and,
    getLsbD_lowMask narrow, low, decide_true, Bool.true_and]
  have place : rest + (64 - 1 - k) = 63 + rest - k := by omega
  have kept : 63 + rest - k < width ↔ 64 + rest - width ≤ k := by omega
  rw [place, Bool.and_comm]
  simp only [kept]

/-- A window of `count` bits, the first `used` ones being shifted out before it. -/
theorem getLsbD_window (word : Word) {used count : Nat} (fits : used + count ≤ 64) (k : Nat) :
    ((word <<< used) >>> (64 - count)).getLsbD k =
      (decide (k < count) && word.getMsbD (used + (count - 1 - k))) := by
  rw [BitVec.getLsbD_ushiftRight, BitVec.getLsbD_shiftLeft, BitVec.getMsbD_eq_getLsbD]
  by_cases inside : k < count
  · have place : 64 - count + k - used = 64 - 1 - (used + (count - 1 - k)) := by omega
    have above : ¬ 64 - count + k < used := by omega
    have top : 64 - count + k < 64 := by omega
    have inWord : used + (count - 1 - k) < 64 := by omega
    simp [inside, place, above, top, inWord]
  · have outside : ¬ 64 - count + k < 64 := by omega
    simp [inside, outside]

end Word

namespace Words

/-- The bit at a position; past the end there are zeros. -/
def bitAt (words : Array Word) (i : Nat) : Bool :=
  (words.getD (i / 64) 0).getMsbD (i % 64)

/-- A bit that is in the same word as the position before it. -/
theorem bitAt_add {words : Array Word} {position k : Nat} (same : position % 64 + k < 64) :
    bitAt words (position + k) = (words.getD (position / 64) 0).getMsbD (position % 64 + k) := by
  have word : (position + k) / 64 = position / 64 := by omega
  have place : (position + k) % 64 = position % 64 + k := by omega
  rw [bitAt, word, place]

/-- A bit that is in the next word. -/
theorem bitAt_add_of_le {words : Array Word} {position k : Nat} (crosses : 64 ≤ position % 64 + k)
    (next : position % 64 + k < 128) :
    bitAt words (position + k) =
      (words.getD (position / 64 + 1) 0).getMsbD (position % 64 + k - 64) := by
  have word : (position + k) / 64 = position / 64 + 1 := by omega
  have place : (position + k) % 64 = position % 64 + k - 64 := by omega
  rw [bitAt, word, place]

/-- The words as one string of bits. -/
def toBits (words : List Word) : List Bool :=
  words.flatMap Word.toBits

@[simp] theorem length_toBits (words : List Word) : (toBits words).length = 64 * words.length :=
  length_flatMap Word.length_toBits words

theorem getElem?_toBits (words : List Word) (i : Nat) :
    (toBits words)[i]? = words[i / 64]?.map fun word => word.getMsbD (i % 64) := by
  have low : i % 64 < 64 := Nat.mod_lt _ (by decide)
  rw [toBits, getElem?_flatMap (by decide) Word.length_toBits]
  simp only [Word.getElem?_toBits low, Option.map_eq_bind]
  rfl

/-- Past the end of the string there are zeros. -/
theorem bitAt_eq_getD (words : Array Word) (i : Nat) :
    bitAt words i = (toBits words.toList)[i]?.getD false := by
  rw [getElem?_toBits, Array.getElem?_toList, bitAt, Array.getD_eq_getD_getElem?]
  cases words[i / 64]? <;> simp

/-- Words with the same string are the same. -/
theorem toBits_injective {a b : List Word} (same : toBits a = toBits b) : a = b := by
  have lengths := congrArg List.length same
  rw [length_toBits, length_toBits] at lengths
  apply List.ext_getElem (by omega)
  intro i inA inB
  apply BitVec.eq_of_getMsbD_eq
  intro k small
  have bit := congrArg (·[64 * i + k]?) same
  have word : (64 * i + k) / 64 = i := by omega
  have place : (64 * i + k) % 64 = k := by omega
  simp only [getElem?_toBits, word, place, List.getElem?_eq_getElem inA,
    List.getElem?_eq_getElem inB, Option.map_some] at bit
  exact Option.some.inj bit

/-- Bits that are added to one word are added at its 64 positions. -/
theorem bitAt_modify_or {words : Array Word} {index : Nat} (inside : index < words.size)
    (bits : Word) (i : Nat) :
    bitAt (words.modify index (· ||| bits)) i =
      (bitAt words i || (decide (i / 64 = index) && bits.getMsbD (i % 64))) := by
  simp only [bitAt, Array.getD_eq_getD_getElem?, Array.getElem?_modify]
  by_cases here : i / 64 = index
  · subst here
    simp [inside, BitVec.getMsbD_or]
  · simp [here, Ne.symm here]

end Words

/-- A string that is cut at a length, or filled up to it with zeros. -/
theorem getElem?_takeD (bits : List Bool) (length i : Nat) :
    (bits.takeD length false)[i]? = if i < length then some (bits[i]?.getD false) else none := by
  induction length generalizing bits i with
  | zero => simp
  | succ length ih =>
      cases bits with
      | nil =>
          rw [List.takeD_nil, List.getElem?_replicate]
          rfl
      | cons bit rest => cases i <;> simp [List.takeD, ih]

end VideoAccel
