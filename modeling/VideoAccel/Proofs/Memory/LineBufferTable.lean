import VideoAccel.Proofs.Memory.LineBuffers
import VideoAccel.Proofs.Sorting

/-!
The table of line buffers, read row by row.

The table is cut off before the first line buffer of size zero. Since it is sorted by falling size
before, the cut takes away the line buffers of size zero and no other (`LineBuffer.rows_eq`), and since
the sort is stable, line buffers of one size keep their order (`LineBuffer.ofSize_falling`). As long as
registers and sizes have 32 bits, the table tells them all: `LineBuffer.rows_faithful` says that it
loses and invents no row, for lists of any length, in which sizes and registers may occur repeatedly.
-/

namespace VideoAccel

/-- The register and the size that a row of the table tells. -/
def LineBufferEntry.told (entry : LineBufferEntry) : Nat × Nat :=
  (entry.reg.toNat, entry.size.toNat)

namespace LineBuffer

/-- The register and the size of a line buffer. -/
def described (buffer : LineBuffer) : Nat × Nat :=
  (buffer.reg, buffer.size)

/-- The line buffers that need memory. -/
def inUse (buffers : List LineBuffer) : List LineBuffer :=
  buffers.filter fun buffer => decide (0 < buffer.size)

/-- The line buffers by falling size. -/
def falling (buffers : List LineBuffer) : List LineBuffer :=
  buffers.mergeSort fun a b => b.size ≤ a.size

/-- What the table for the device tells, row by row. -/
def rows (buffers : List LineBuffer) : List (Nat × Nat) :=
  (deviceList buffers).map LineBufferEntry.told

variable {buffers : List LineBuffer}

/-- A row whose numbers have 32 bits tells them. -/
theorem told_entry {buffer : LineBuffer} (reg : buffer.reg < Numeral.bound32)
    (size : buffer.size < Numeral.bound32) : buffer.entry.told = buffer.described := by
  unfold LineBufferEntry.told entry described
  simp only [BitVec.toNat_ofNat]
  exact Prod.ext (Nat.mod_eq_of_lt reg) (Nat.mod_eq_of_lt size)

/-- The rows are those of the sorted line buffers in use. -/
theorem rows_eq (registers : ∀ buffer ∈ buffers, buffer.reg < Numeral.bound32)
    (sizes : ∀ buffer ∈ buffers, buffer.size < Numeral.bound32) :
    rows buffers = (inUse (falling buffers)).map described := by
  have cut : deviceList buffers = (inUse (falling buffers)).map entry := by
    unfold deviceList
    rw [takeWhile_eq_filter (falling_mergeSort buffers)]
    rfl
  rw [rows, cut, List.map_map]
  apply List.map_congr_left
  intro buffer member
  have among : buffer ∈ buffers := List.mem_mergeSort.mp (List.mem_filter.mp member).1
  exact told_entry (registers buffer among) (sizes buffer among)

/-- The line buffers of one size, in their order. -/
def ofSize (size : Nat) (buffers : List LineBuffer) : List LineBuffer :=
  buffers.filter fun buffer => buffer.size == size

/-- Sorting leaves line buffers of one size in their order. -/
theorem ofSize_falling (size : Nat) (buffers : List LineBuffer) :
    ofSize size (falling buffers) = ofSize size buffers := by
  refine filter_mergeSort ?_ ?_ ?_ buffers
  · intro a b c
    simp only [decide_eq_true_eq]
    omega
  · intro a b
    simp only [Bool.or_eq_true, decide_eq_true_eq]
    omega
  · intro a b first second
    rw [eq_of_beq first, eq_of_beq second]
    exact decide_eq_true (Nat.le_refl _)

theorem filter_described (size : Nat) (buffers : List LineBuffer) :
    ((inUse buffers).map described).filter (fun row => row.2 == size) =
      (inUse (ofSize size buffers)).map described := by
  rw [List.filter_map, inUse, inUse, ofSize, List.filter_filter, List.filter_filter]
  congr 2
  funext buffer
  exact Bool.and_comm ..

/-- The table has exactly the rows of the line buffers in use, by falling size and, among those of one
size, in their order. -/
theorem rows_faithful (registers : ∀ buffer ∈ buffers, buffer.reg < Numeral.bound32)
    (sizes : ∀ buffer ∈ buffers, buffer.size < Numeral.bound32) :
    (rows buffers).Pairwise (fun a b => b.2 ≤ a.2) ∧
    (∀ row ∈ rows buffers, row.2 ≠ 0) ∧
    (rows buffers).Perm ((inUse buffers).map described) ∧
    ∀ size, (rows buffers).filter (fun row => row.2 == size) =
      ((inUse buffers).map described).filter fun row => row.2 == size := by
  rw [rows_eq registers sizes]
  refine ⟨?_, ?_, ?_, fun size => ?_⟩
  · rw [List.pairwise_map]
    exact (falling_mergeSort buffers).filter _
  · intro row member
    obtain ⟨buffer, used, rfl⟩ := List.mem_map.mp member
    exact Nat.pos_iff_ne_zero.mp (of_decide_eq_true (List.mem_filter.mp used).2)
  · exact ((List.mergeSort_perm buffers _).filter _).map _
  · rw [filter_described, filter_described, ofSize_falling]

/-- Line buffers of which two are empty and two have one size. -/
def unsorted : List LineBuffer :=
  [⟨.entropyRow, 140, 0, 0⟩, ⟨.transformRow, 142, 0, 64⟩, ⟨.interRow, 144, 64, 128⟩,
    ⟨.intraRow, 146, 192, 0⟩, ⟨.deblockRow, 141, 192, 64⟩]

/-- The larger one comes first, the two of one size follow in their order, not by register. -/
theorem rows_unsorted :
    (∀ buffer ∈ unsorted, buffer.reg < Numeral.bound32 ∧ buffer.size < Numeral.bound32) ∧
    (rows unsorted).Perm [(142, 64), (144, 128), (141, 64)] ∧
    (rows unsorted).filter (fun row => row.2 == 64) = [(142, 64), (141, 64)] := by
  have small : ∀ buffer ∈ unsorted,
      buffer.reg < Numeral.bound32 ∧ buffer.size < Numeral.bound32 := by decide
  obtain ⟨-, -, perm, order⟩ := rows_faithful (fun buffer member => (small buffer member).1)
    fun buffer member => (small buffer member).2
  exact ⟨small, perm, order 64⟩

end LineBuffer

end VideoAccel
