import VideoAccel.Picture.Parameters
import VideoAccel.Proofs.Bits.RoundTrip

/-!
Records read off a string of bits.

`Reader.Reads action bits value` says that the action finds the value in these bits and takes no
more. Readers of records are put together field by field as the records are; a number comes back
modulo two to the width of its field, a signed one in two's complement. There is one law for each
kind of field and one for several items in a row, `Reads.many`.
-/

namespace VideoAccel

namespace Word

theorem field_ofBool (flag : Bool) : (ofBool flag).field 1 = [flag] := by
  cases flag <;> rfl

theorem setWidth_ofInt (value : Int) {width : Nat} (narrow : width ≤ 64) :
    (BitVec.ofInt 64 value).setWidth width = BitVec.ofInt width value := by
  have divides : ((2 ^ width : Nat) : Int) ∣ (2 ^ 64 : Nat) :=
    Int.natCast_dvd_natCast.mpr (Nat.pow_dvd_pow 2 narrow)
  apply BitVec.eq_of_toNat_eq
  rw [BitVec.toNat_setWidth, BitVec.toNat_ofInt, BitVec.toNat_ofInt,
    ← Int.emod_emod_of_dvd value divides,
    Int.toNat_emod (Int.emod_nonneg _ (by decide)) (Int.natCast_nonneg _), Int.toNat_natCast]

end Word

namespace Writer

theorem string_append (first second : List (Word × Nat)) :
    string (first ++ second) = string first ++ string second :=
  List.flatMap_append

end Writer

namespace Reader

variable {α β γ : Type}

/-- Before these bits, and whatever lies behind them, the action answers with the value and stops
behind them. -/
def Reads (action : Action Reader α) (bits : List Bool) (value : α) : Prop :=
  ∀ (reader : Reader) (rest : List Bool), reader.ahead = bits ++ rest →
    ∃ next, action reader = .ok value next ∧ next.ahead = rest

theorem Reads.pure (value : α) : Reads (pure value) [] value :=
  fun reader _ lies => ⟨reader, rfl, lies⟩

theorem Reads.bind {first : Action Reader α} {next : α → Action Reader β} {bits more : List Bool}
    {value : α} {result : β} (reads : Reads first bits value)
    (later : Reads (next value) more result) : Reads (first >>= next) (bits ++ more) result := by
  intro reader rest lies
  rw [List.append_assoc] at lies
  obtain ⟨middle, ran, ahead⟩ := reads reader _ lies
  obtain ⟨final, ended, behind⟩ := later middle rest ahead
  exact ⟨final, (Action.bind_of_ok ran next).trans ended, behind⟩

theorem ahead_advance {reader : Reader} {bits rest : List Bool}
    (lies : reader.ahead = bits ++ rest) :
    ahead { reader with position := reader.position + bits.length } = rest := by
  rw [ahead, ← List.drop_drop, ← ahead, lies, List.drop_left]

theorem length_le_left {reader : Reader} {bits rest : List Bool}
    (lies : reader.ahead = bits ++ rest) : bits.length ≤ reader.left := by
  rw [← length_ahead, lies, List.length_append]
  exact Nat.le_add_right ..

/-! ### Fields -/

/-- Reads a field as a number of its width. -/
def readBits (width : Nat) : Action Reader (BitVec width) := do
  let word ← read width
  return word.setWidth width

theorem reads_field (value : Word) {width : Nat} (narrow : width ≤ 64) :
    Reads (readBits width) (value.field width) (value.setWidth width) := by
  intro reader rest lies
  have room := length_le_left lies
  have behind := ahead_advance lies
  rw [Word.length_field] at room behind
  have number : (reader.peek width).toNat = value.toNat % 2 ^ width := by
    rw [toNat_peek narrow room, lies, List.take_left' (Word.length_field value width),
      Word.toNat_field]
  have same : (reader.peek width).setWidth width = value.setWidth width := by
    apply BitVec.eq_of_toNat_eq
    rw [BitVec.toNat_setWidth, BitVec.toNat_setWidth, number, Nat.mod_mod]
  refine ⟨_, ?_, behind⟩
  rw [readBits, Action.bind_of_ok (read_of_le narrow room), same]
  rfl

theorem reads_flag (flag : Bool) : Reads readBit ((Word.ofBool flag).field 1) flag := by
  intro reader rest lies
  have room := length_le_left lies
  have behind := ahead_advance lies
  rw [Word.length_field] at room behind
  obtain ⟨bit, head, ran⟩ := readBit_of_pos room
  rw [lies, Word.field_ofBool] at head
  cases head
  exact ⟨_, ran, behind⟩

/-! ### Records, field by field -/

section Fields

variable {fields : List (Word × Nat)} {result : β}

/-- A word cut to a width comes first. -/
theorem Reads.bits {width : Nat} {next : BitVec width → Action Reader β} {value : Word}
    (narrow : width ≤ 64)
    (later : Reads (next (value.setWidth width)) (Writer.string fields) result) :
    Reads (readBits width >>= next) (Writer.string ((value, width) :: fields)) result :=
  (reads_field value narrow).bind later

/-- A number comes first. -/
theorem Reads.number {width value : Nat} {next : BitVec width → Action Reader β}
    (narrow : width ≤ 64)
    (later : Reads (next (BitVec.ofNat width value)) (Writer.string fields) result) :
    Reads (readBits width >>= next) (Writer.string ((BitVec.ofNat 64 value, width) :: fields))
      result := by
  refine .bits narrow ?_
  rwa [BitVec.setWidth_ofNat_of_le narrow]

/-- A signed number comes first. -/
theorem Reads.signed {width : Nat} {value : Int} {next : BitVec width → Action Reader β}
    (narrow : width ≤ 64)
    (later : Reads (next (BitVec.ofInt width value)) (Writer.string fields) result) :
    Reads (readBits width >>= next) (Writer.string ((BitVec.ofInt 64 value, width) :: fields))
      result := by
  refine .bits narrow ?_
  rwa [Word.setWidth_ofInt value narrow]

/-- A flag comes first. -/
theorem Reads.flag {flag : Bool} {next : Bool → Action Reader β}
    (later : Reads (next flag) (Writer.string fields) result) :
    Reads (readBit >>= next) (Writer.string ((Word.ofBool flag, 1) :: fields)) result :=
  (reads_flag flag).bind later

/-- A record comes first. -/
theorem Reads.record {first : List (Word × Nat)} {action : Action Reader α}
    {next : α → Action Reader β} {value : α} (reads : Reads action (Writer.string first) value)
    (later : Reads (next value) (Writer.string fields) result) :
    Reads (action >>= next) (Writer.string (first ++ fields)) result := by
  rw [Writer.string_append]
  exact reads.bind later

end Fields

/-! ### Several in a row -/

/-- Reads `count` items. -/
def readMany (action : Action Reader α) : Nat → Action Reader (List α)
  | 0 => pure []
  | count + 1 => do
      let first ← action
      let rest ← readMany action count
      return first :: rest

/-- Items that are read one by one are read in a row. -/
theorem Reads.many {action : Action Reader α} {fields : γ → List (Word × Nat)} {value : γ → α}
    (each : ∀ item, Reads action (Writer.string (fields item)) (value item)) (items : List γ) :
    Reads (readMany action items.length) (Writer.string (items.flatMap fields))
      (items.map value) := by
  induction items with
  | nil => exact .pure []
  | cons item rest ih =>
      rw [List.flatMap_cons, ← List.append_nil (rest.flatMap fields)]
      refine .record (each item) (.record ih ?_)
      exact .pure _

end Reader

end VideoAccel
