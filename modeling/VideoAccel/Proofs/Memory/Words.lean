import VideoAccel.Bits.Reader
import VideoAccel.Proofs.Memory.Scratch

/-!
What was stored in a buffer is there, and is read back as words.

Pieces that were stored one behind the other all hold in the end (`Buffer.holdsAt_of_writeAll`). A
reader of 64-bit words, least significant byte first, finds in a piece that was laid out from words
these same words (`Buffer.reader_of_holdsAt`).
-/

namespace VideoAccel

namespace Bytes

/-- What words laid out over a byte string leave at a position that they reach. -/
theorem at0_spread {words : Array Word} {target : Bytes} {index k : Nat}
    (inside : 8 * index + k < target.size) (low : k < 8) (known : index < words.size) :
    (spread words target).at0 (8 * index + k) = words[index].extractLsb' (8 * k) 8 := by
  have word : (8 * index + k) / 8 = index := by omega
  have place : (8 * index + k) % 8 = k := by omega
  rw [at0_eq, spread, Array.getElem?_mapIdx, Array.getElem?_eq_getElem inside, Option.map_some,
    Option.getD_some, ofWords?, word, place, Array.getElem?_eq_getElem known]
  rfl

end Bytes

namespace Buffer

/-! ### Pieces in order -/

/-- The bytes from `start` on are those of `data`. -/
def HoldsAt (buffer : Buffer) (start : Nat) (data : Bytes) : Prop :=
  ∀ k < data.size, buffer.byteAt (start + k) = data.at0 k

theorem HoldsAt.of_changedIn {touched : Nat → Prop} {before after : Buffer} {start : Nat}
    {data : Bytes} (holds : before.HoldsAt start data) (changed : ChangedIn touched before after)
    (apart : ∀ k < data.size, ¬ touched (start + k)) : after.HoldsAt start data :=
  fun k inside => (changed.bytes _ (apart k inside)).trans (holds k inside)

theorem holdsAt_overwrite (buffer : Buffer) (start : Nat) (data : Bytes)
    (inside : start + data.size ≤ buffer.size) :
    (buffer.overwrite start data inside).HoldsAt start data := by
  intro k known
  rw [byteAt_overwrite, if_pos (by omega), Nat.add_sub_cancel_left]

/-- Every piece ends before the next one starts. -/
def InOrder (pieces : List (Nat × Bytes)) : Prop :=
  pieces.Pairwise fun first second => first.1 + first.2.size ≤ second.1

/-- Pieces that were stored in order are all there. -/
theorem holdsAt_of_writeAll {pieces : List (Nat × Bytes)} {buffer final : Buffer}
    (order : InOrder pieces) (written : writeAll pieces buffer = .ok () final) :
    ∀ piece ∈ pieces, final.HoldsAt piece.1 piece.2 := by
  induction pieces generalizing buffer with
  | nil => exact fun _ impossible => absurd impossible List.not_mem_nil
  | cons first rest ih =>
      obtain ⟨behind, later⟩ := List.pairwise_cons.mp order
      obtain ⟨_, middle, stored, rewritten⟩ := Action.bind_eq_ok_iff.mp written
      intro piece member
      rcases List.mem_cons.mp member with rfl | among
      · by_cases fits : piece.1 + piece.2.size ≤ buffer.size
        · rw [write_of_le buffer fits] at stored
          cases stored
          have rests : Action.Keeps (ChangedIn fun position => piece.1 + piece.2.size ≤ position)
              (writeAll rest) :=
            writeAll_changedIn fun other among position low _ => Nat.le_trans (behind other among) low
          refine (holdsAt_overwrite buffer piece.1 piece.2 fits).of_changedIn (rests.ok rewritten) ?_
          intro k inside
          omega
        · rw [write, dif_neg fits] at stored
          cases stored
      · exact ih later rewritten piece among

/-! ### Words -/

/-- The 64-bit word at a position, least significant byte first. -/
def wordAt (buffer : Buffer) (position : Nat) : Word :=
  buffer.head.le32 (position + 4) ++ buffer.head.le32 position

theorem getLsbD_wordAt (buffer : Buffer) (position : Nat) {k : Nat} (inside : k < 64) :
    (buffer.wordAt position).getLsbD k = (buffer.byteAt (position + k / 8)).getLsbD (k % 8) := by
  have bit : (buffer.wordAt position).getLsbD k = buffer.head.bitAt (8 * position + k) := by
    rw [wordAt, BitVec.getLsbD_append, Bytes.getLsbD_le32, Bytes.getLsbD_le32]
    by_cases low : k < 32
    · simp [low]
    · have high : k - 32 < 32 := by omega
      have place : 8 * (position + 4) + (k - 32) = 8 * position + k := by omega
      simp [low, high, place]
  have byte : (8 * position + k) / 8 = position + k / 8 := by omega
  have place : (8 * position + k) % 8 = k % 8 := by omega
  rw [bit, Bytes.bitAt, byte, place]
  rfl

/-- A reader of the `count` words that start at a position. -/
def reader (buffer : Buffer) (start count : Nat) : Reader :=
  .ofWords (Array.ofFn fun i : Fin count => buffer.wordAt (start + 8 * i))

/-- What a reader finds depends on the bytes it covers only. -/
theorem reader_congr {a b : Buffer} {start place count : Nat}
    (same : ∀ k < 8 * count, a.byteAt (start + k) = b.byteAt (place + k)) :
    a.reader start count = b.reader place count := by
  have words : ∀ i : Fin count, a.wordAt (start + 8 * i) = b.wordAt (place + 8 * i) := by
    intro i
    apply BitVec.eq_of_getLsbD_eq
    intro k inside
    have covered : 8 * i.val + k / 8 < 8 * count := by omega
    rw [getLsbD_wordAt _ _ inside, getLsbD_wordAt _ _ inside, Nat.add_assoc, Nat.add_assoc,
      same _ covered]
  simp only [reader, words]

/-- Words that were stored are read back. -/
theorem reader_of_holdsAt {buffer : Buffer} {start : Nat} {words : Array Word}
    (holds : buffer.HoldsAt start (Bytes.spread words (Bytes.zeros (8 * words.size)))) :
    buffer.reader start words.size = .ofWords words := by
  unfold reader
  congr 1
  apply Array.ext (Array.size_ofFn)
  intro i inRead inWords
  rw [Array.getElem_ofFn]
  apply BitVec.eq_of_getLsbD_eq
  intro k inside
  have small : 8 * i + k / 8 < 8 * words.size := by omega
  have low : k / 8 < 8 := by omega
  have bit : k % 8 < 8 := Nat.mod_lt _ (by decide)
  have place : 8 * (k / 8) + k % 8 = k := Nat.div_add_mod k 8
  have stored := holds (8 * i + k / 8) (by simpa using small)
  rw [Bytes.at0_spread (by simpa using small) low inWords] at stored
  rw [getLsbD_wordAt _ _ inside, Nat.add_assoc, stored, BitVec.getLsbD_extractLsb', place]
  simp [bit]

end Buffer

end VideoAccel
