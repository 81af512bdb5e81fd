import VideoAccel.Proofs.Memory.Supply

/-!
Where line buffers lie.

Line buffers are placed one behind the other, each on a multiple of 64 bytes, so that those in use
tile the device buffer from its start to its end (`LineBuffer.place_tiles`, `LineBuffer.Tiles.used`).
The table for the device names every line buffer in use once and no other (`LineBuffer.sizes_deviceList`).
Its rows are sorted by size, but tell only 32 bits of it (`LineBuffer.deviceList_falling_iff`).

Where they lie follows from the key of a picture's shape and from compression alone
(`LineBuffer.place_congr`). A cache of line buffers is `Current` as long as what it keeps for its key is
what placing anew would give. Compression is not part of the key: the cache survives a change of it
only because such a change makes the cache forget its key.

For the pictures of a trial run, which are at most 4096 by 2304 pixels large, every line buffer lies
below the offset that the device can address (`LineBuffer.offset_lt`).
-/

namespace VideoAccel

/-! ### Placing -/

theorem alignUp_mod (value : Nat) {unit : Nat} (pos : 0 < unit) : alignUp value unit % unit = 0 :=
  Nat.mod_eq_zero_of_dvd (dvd_alignUp pos value)

theorem alignUp_lt (value : Nat) {unit : Nat} (pos : 0 < unit) :
    alignUp value unit < value + unit := by
  have quotient := Nat.div_mul_le_self (value + unit - 1) unit
  rw [alignUp, if_neg (Nat.pos_iff_ne_zero.mp pos)]
  omega

namespace LineBufferClass

/-- The size of a line buffer follows from the key of the shape and from compression. -/
theorem bytes_congr {a b : PictureShape} (key : a.key = b.key)
    (compressed : a.compressed = b.compressed) (cls : LineBufferClass) :
    cls.bytes a = cls.bytes b := by
  unfold bytes bits
  rw [key, compressed]

/-- No line buffer of a picture of at most 4096 by 2304 pixels is larger than 64 KiB. -/
theorem bytes_le {shape : PictureShape} (width : shape.width ≤ 4096)
    (height : shape.height ≤ 2304) (depth : shape.bitDepth = 8)
    (chroma : shape.chroma = 1) (cls : LineBufferClass) : cls.bytes shape ≤ 65536 := by
  have wide : shape.key.width ≤ 256 * 16 := (@alignUp_le_iff 16 (by decide) _ 256).mpr width
  have high : shape.key.height ≤ 144 * 16 := (@alignUp_le_iff 16 (by decide) _ 144).mpr height
  have bits : cls.bits shape ≤ 4096 * 98 := by
    unfold bits
    cases cls with
    | entropyRow | transformRow | transformColumn =>
        simp only
        rw [if_neg (by omega)]
        exact Nat.zero_le _
    | interColumn | sampleOffsetRow => exact Nat.zero_le _
    | interRow | intraRow =>
        simp only
        omega
    | deblockRow =>
        have eight : shape.key.bitDepth = 8 := depth
        simp only [eight]
        split <;> omega
    | compressionRow =>
        have one : shape.key.chroma = 1 := chroma
        simp [one]
  have rounded := @alignUp_lt (ceilDiv (cls.bits shape) 8) 64 (by decide)
  unfold bytes
  unfold ceilDiv at rounded ⊢
  omega

end LineBufferClass

namespace LineBuffer

theorem placeFrom_congr {a b : PictureShape} (key : a.key = b.key)
    (compressed : a.compressed = b.compressed) (start : Nat)
    (wanted : List (LineBufferClass × Nat)) :
    placeFrom a start wanted = placeFrom b start wanted := by
  induction wanted generalizing start with
  | nil => rfl
  | cons pair rest ih =>
      obtain ⟨cls, reg⟩ := pair
      simp only [placeFrom, cls.bytes_congr key compressed, ih]

theorem place_congr {a b : PictureShape} (key : a.key = b.key)
    (compressed : a.compressed = b.compressed) (wanted : List (LineBufferClass × Nat)) :
    place a wanted = place b wanted :=
  placeFrom_congr key compressed 0 wanted

/-- The byte at a position belongs to the line buffer. -/
def Covers (buffer : LineBuffer) (position : Nat) : Prop :=
  buffer.offset ≤ position ∧ position < buffer.offset + buffer.size

/-- The line buffer starts and ends on a multiple of 64 bytes. -/
structure Aligned (buffer : LineBuffer) : Prop where
  offset : buffer.offset % 64 = 0
  size : buffer.size % 64 = 0

/-- The buffers lie one behind the other, from one position to another. -/
inductive Tiles : Nat → List LineBuffer → Nat → Prop where
  | nil (stop : Nat) : Tiles stop [] stop
  | cons {buffer : LineBuffer} {rest : List LineBuffer} {stop : Nat}
      (later : Tiles (buffer.offset + buffer.size) rest stop) :
      Tiles buffer.offset (buffer :: rest) stop

theorem placeFrom_tiles (shape : PictureShape) (start : Nat)
    (wanted : List (LineBufferClass × Nat)) :
    Tiles start (placeFrom shape start wanted)
      (start + totalSize (placeFrom shape start wanted)) := by
  induction wanted generalizing start with
  | nil => exact .nil start
  | cons pair rest ih =>
      obtain ⟨cls, reg⟩ := pair
      have later := ih (start + cls.bytes shape)
      rw [Nat.add_assoc] at later
      exact @Tiles.cons ⟨cls, reg, start, cls.bytes shape⟩ _ _ later

/-- Placed buffers tile the device buffer that is asked for. -/
theorem place_tiles (shape : PictureShape) (wanted : List (LineBufferClass × Nat)) :
    Tiles 0 (place shape wanted) (totalSize (place shape wanted)) := by
  have tiles := placeFrom_tiles shape 0 wanted
  rwa [Nat.zero_add] at tiles

theorem placeFrom_aligned {shape : PictureShape} {start : Nat} (whole : start % 64 = 0)
    {wanted : List (LineBufferClass × Nat)} :
    ∀ buffer ∈ placeFrom shape start wanted, buffer.Aligned := by
  induction wanted generalizing start with
  | nil => exact fun _ impossible => absurd impossible List.not_mem_nil
  | cons pair rest ih =>
      obtain ⟨cls, reg⟩ := pair
      have size : cls.bytes shape % 64 = 0 := alignUp_mod _ (by decide)
      intro buffer member
      rcases List.mem_cons.mp member with rfl | later
      · exact ⟨whole, size⟩
      · exact ih (by omega) buffer later

theorem place_aligned (shape : PictureShape) (wanted : List (LineBufferClass × Nat)) :
    ∀ buffer ∈ place shape wanted, buffer.Aligned :=
  placeFrom_aligned rfl

namespace Tiles

variable {start stop : Nat} {buffers : List LineBuffer}

theorem le (tiles : Tiles start buffers stop) : start ≤ stop := by
  induction tiles with
  | nil stop => exact Nat.le_refl stop
  | cons later ih => omega

/-- Every buffer of a tiling lies between its ends. -/
theorem inside (tiles : Tiles start buffers stop) :
    ∀ buffer ∈ buffers, start ≤ buffer.offset ∧ buffer.offset + buffer.size ≤ stop := by
  induction tiles with
  | nil stop => exact fun _ impossible => absurd impossible List.not_mem_nil
  | cons later ih =>
      intro buffer member
      rcases List.mem_cons.mp member with rfl | among
      · exact ⟨Nat.le_refl _, later.le⟩
      · have bounds := ih buffer among
        omega

/-- No byte belongs to two buffers of a tiling. -/
theorem apart (tiles : Tiles start buffers stop) :
    buffers.Pairwise fun a b => ∀ position, ¬ (a.Covers position ∧ b.Covers position) := by
  induction tiles with
  | nil stop => exact .nil
  | cons later ih =>
      refine .cons (fun buffer member position both => ?_) ih
      have bounds := later.inside buffer member
      obtain ⟨⟨-, before⟩, ⟨behind, -⟩⟩ := both
      omega

/-- Buffers of size zero take no part in a tiling. -/
theorem used (tiles : Tiles start buffers stop) :
    Tiles start (buffers.filter fun buffer => buffer.size ≠ 0) stop := by
  induction tiles with
  | nil stop => exact .nil stop
  | @cons buffer rest stop later ih =>
      by_cases zero : buffer.size = 0
      · rw [List.filter_cons_of_neg (by simp [zero])]
        rwa [zero, Nat.add_zero] at ih
      · rw [List.filter_cons_of_pos (by simp [zero])]
        exact .cons ih

end Tiles

theorem totalSize_placeFrom_le {shape : PictureShape} {bound : Nat}
    (small : ∀ cls : LineBufferClass, cls.bytes shape ≤ bound) (start : Nat)
    (wanted : List (LineBufferClass × Nat)) :
    totalSize (placeFrom shape start wanted) ≤ wanted.length * bound := by
  induction wanted generalizing start with
  | nil => exact Nat.zero_le _
  | cons pair rest ih =>
      have first := small pair.1
      have later := ih (start + pair.1.bytes shape)
      rw [List.length_cons, Nat.succ_mul]
      show pair.1.bytes shape + totalSize (placeFrom shape (start + pair.1.bytes shape) rest) ≤ _
      omega

/-- The line buffers of a picture of at most 4096 by 2304 pixels lie where a patch can say so. -/
theorem offset_lt {shape : PictureShape} (width : shape.width ≤ 4096)
    (height : shape.height ≤ 2304) (depth : shape.bitDepth = 8)
    (chroma : shape.chroma = 1) :
    ∀ buffer ∈ place shape (LineBufferClass.all.zip Layout.lineBufferRegisters),
      buffer.offset < Numeral.bound32 := by
  intro buffer member
  have inside := ((place_tiles shape _).inside buffer member).2
  have total : totalSize (place shape (LineBufferClass.all.zip Layout.lineBufferRegisters)) ≤
      9 * 65536 :=
    totalSize_placeFrom_le (LineBufferClass.bytes_le width height depth chroma) 0 _
  have bound : Numeral.bound32 = 4294967296 := rfl
  omega

/-! ### Sizes in machine words -/

/-- A line buffer has room for its bits. -/
theorem bits_le_bytes (cls : LineBufferClass) (shape : PictureShape) :
    cls.bits shape ≤ 8 * cls.bytes shape := by
  have rounded := le_alignUp (ceilDiv (cls.bits shape) 8) 64
  unfold LineBufferClass.bytes
  unfold ceilDiv at rounded ⊢
  omega

/-- A picture is not wide if the deblocking rows, which lie behind those of entropy decoding and of
prediction, start at an offset of 32 bits. -/
theorem width_le_of_near {shape : PictureShape}
    (near : ∀ buffer ∈ place shape (LineBufferClass.all.zip Layout.lineBufferRegisters),
      buffer.size ≠ 0 → buffer.offset < Numeral.bound32) :
    shape.key.width ≤ if shape.key.fieldCoding then 326458322 else 399531842 := by
  let front := LineBufferClass.entropyRow.bytes shape + LineBufferClass.transformRow.bytes shape +
    LineBufferClass.transformColumn.bytes shape + LineBufferClass.interRow.bytes shape +
    LineBufferClass.interColumn.bytes shape + LineBufferClass.intraRow.bytes shape
  have member : (⟨.deblockRow, 138, front, LineBufferClass.deblockRow.bytes shape⟩ : LineBuffer) ∈
      place shape (LineBufferClass.all.zip Layout.lineBufferRegisters) := by
    have registers : Layout.lineBufferRegisters = [132, 133, 134, 135, 136, 137, 138, 139, 140] := rfl
    simp [place, placeFrom, LineBufferClass.all, registers, front]
  have starts : LineBufferClass.deblockRow.bytes shape ≠ 0 → front < Numeral.bound32 :=
    near _ member
  have entropy := bits_le_bytes .entropyRow shape
  have inter := bits_le_bytes .interRow shape
  have intra := bits_le_bytes .intraRow shape
  have deblock := bits_le_bytes .deblockRow shape
  have bound : Numeral.bound32 = 4294967296 := rfl
  simp only [LineBufferClass.bits, ceilDiv] at entropy inter intra deblock
  rcases Nat.eq_zero_or_pos shape.key.width with none | wide
  · rw [none]
    exact Nat.zero_le _
  · have used : 0 < LineBufferClass.deblockRow.bytes shape := by
      have some : 0 < shape.key.width *
          (2 + (if shape.key.fieldCoding = true then 12 else 6) * shape.key.bitDepth) :=
        Nat.mul_pos wide (by omega)
      omega
    have low := starts (Nat.pos_iff_ne_zero.mp used)
    simp only [front] at low
    split
    next fields =>
      rw [if_pos fields] at entropy
      split at entropy <;> omega
    next => omega

/-- A picture whose line buffers in use all start at offsets of 32 bits needs fewer than two to the 64
bits for each of them. -/
theorem bits_lt_of_near {shape : PictureShape} (height : shape.height < Numeral.bound32)
    (depth : shape.bitDepth < Numeral.bound32)
    (near : ∀ buffer ∈ place shape (LineBufferClass.all.zip Layout.lineBufferRegisters),
      buffer.size ≠ 0 → buffer.offset < Numeral.bound32) (cls : LineBufferClass) :
    cls.bits shape < Numeral.bound64 := by
  have bound : Numeral.bound32 = 4294967296 := rfl
  have bound64 : Numeral.bound64 = 18446744073709551616 := rfl
  have width := width_le_of_near near
  have narrow : shape.key.width ≤ 399531842 := by split at width <;> omega
  have high : shape.key.height ≤ 268435456 * 16 :=
    (@alignUp_le_iff 16 (by decide) _ 268435456).mpr (by omega)
  have deep : shape.key.bitDepth ≤ 4294967295 := by
    have same : shape.key.bitDepth = shape.bitDepth := rfl
    omega
  unfold LineBufferClass.bits
  cases cls with
  | entropyRow =>
      have twice : (if shape.key.fieldCoding then 2 else 1) ≤ 2 := by split <;> decide
      have most := Nat.mul_le_mul_left (ceilDiv shape.key.width 16 * 154) twice
      unfold ceilDiv at most
      simp only [ceilDiv]
      split <;> omega
  | transformRow | transformColumn =>
      simp only [ceilDiv]
      split <;> omega
  | interColumn | sampleOffsetRow =>
      rw [bound64]
      exact Nat.zero_lt_succ _
  | interRow | intraRow =>
      simp only
      omega
  | deblockRow =>
      simp only
      split
      next fields =>
        rw [if_pos fields] at width
        have most := Nat.mul_le_mul width (show 2 + 12 * shape.key.bitDepth ≤ 51539607542 by omega)
        omega
      next =>
        have most := Nat.mul_le_mul narrow (show 2 + 6 * shape.key.bitDepth ≤ 25769803772 by omega)
        omega
  | compressionRow =>
      have most := Nat.mul_le_mul (Nat.mul_le_mul_left 2 narrow) deep
      simp only
      split <;> omega

/-! ### The table for the device -/

/-- The row of the table for a line buffer. -/
def entry (buffer : LineBuffer) : LineBufferEntry :=
  ⟨BitVec.ofNat 32 buffer.reg, BitVec.ofNat 32 buffer.size⟩

/-- In a list sorted by falling size the buffers in use come first. -/
theorem takeWhile_eq_filter {buffers : List LineBuffer}
    (falling : buffers.Pairwise fun a b => b.size ≤ a.size) :
    buffers.takeWhile (fun buffer => decide (0 < buffer.size)) =
      buffers.filter fun buffer => decide (0 < buffer.size) := by
  induction falling with
  | nil => rfl
  | @cons first rest below falling ih =>
      by_cases used : 0 < first.size
      · rw [List.takeWhile_cons_of_pos (by simpa using used),
          List.filter_cons_of_pos (by simpa using used), ih]
      · rw [List.takeWhile_cons_of_neg (by simpa using used),
          List.filter_cons_of_neg (by simpa using used)]
        refine (List.filter_eq_nil_iff.mpr fun other member => ?_).symm
        have small := below other member
        simp only [decide_eq_true_eq]
        omega

theorem falling_mergeSort (buffers : List LineBuffer) :
    (buffers.mergeSort fun a b => b.size ≤ a.size).Pairwise fun a b => b.size ≤ a.size := by
  have sorted := @List.pairwise_mergeSort _ (fun a b : LineBuffer => b.size ≤ a.size)
    (by simp only [decide_eq_true_eq]; omega)
    (by simp only [Bool.or_eq_true, decide_eq_true_eq]; omega)
  simpa only [decide_eq_true_eq] using sorted buffers

/-- The table has the rows of the line buffers in use, by falling size. -/
theorem deviceList_ordered (buffers : List LineBuffer) : ∃ ordered : List LineBuffer,
    ordered.Perm (buffers.filter fun buffer => decide (0 < buffer.size)) ∧
    ordered.Pairwise (fun a b => b.size ≤ a.size) ∧ deviceList buffers = ordered.map entry := by
  have falling := falling_mergeSort buffers
  refine ⟨_, (List.mergeSort_perm buffers _).filter _, falling.filter _, ?_⟩
  unfold deviceList
  rw [takeWhile_eq_filter falling]
  rfl

/-- The table has a row for every line buffer in use, in some order. -/
theorem deviceList_perm (buffers : List LineBuffer) :
    (deviceList buffers).Perm
      ((buffers.filter fun buffer => decide (0 < buffer.size)).map entry) := by
  obtain ⟨ordered, perm, -, same⟩ := deviceList_ordered buffers
  rw [same]
  exact perm.map entry

/-- A row tells the last 32 bits of a size. So the sizes in the rows fall exactly if no line buffer in
use has more in these bits than one that is at least as large; they do if all sizes have 32 bits. -/
theorem deviceList_falling_iff (buffers : List LineBuffer) :
    ((deviceList buffers).Pairwise fun a b => b.size.toNat ≤ a.size.toNat) ↔
      ∀ a ∈ buffers, ∀ b ∈ buffers, 0 < b.size → b.size ≤ a.size →
        b.size % Numeral.bound32 ≤ a.size % Numeral.bound32 := by
  obtain ⟨ordered, perm, falling, same⟩ := deviceList_ordered buffers
  have used : ∀ buffer, buffer ∈ ordered ↔ buffer ∈ buffers ∧ 0 < buffer.size := by
    intro buffer
    rw [perm.mem_iff, List.mem_filter, decide_eq_true_eq]
  have told : ∀ buffer : LineBuffer, buffer.entry.size.toNat = buffer.size % Numeral.bound32 :=
    fun buffer => BitVec.toNat_ofNat ..
  rw [same, List.pairwise_map]
  simp only [told]
  constructor
  · intro rows a among b other positive smaller
    have ahead := rows.imp fun {a b} told (_ : b.size ≤ a.size) => told
    -- Of two line buffers in the wrong order neither is smaller than the other.
    have behind := falling.imp fun {a b} smaller (larger : a.size ≤ b.size) =>
      Nat.le_of_eq (congrArg (· % Numeral.bound32) (Nat.le_antisymm larger smaller))
    exact ahead.forall_of_forall_of_flip (fun _ _ _ => Nat.le_refl _) behind
      ((used a).mpr ⟨among, Nat.lt_of_lt_of_le positive smaller⟩)
      ((used b).mpr ⟨other, positive⟩) smaller
  · intro every
    refine falling.imp_of_mem fun {a b} first second smaller => ?_
    exact every a ((used a).mp first).1 b ((used b).mp second).1 ((used b).mp second).2 smaller

/-- The sizes that a table gives for an address register. -/
def sizesFor (entries : List LineBufferEntry) (reg : Nat) : List Nat :=
  (entries.filter fun entry => entry.reg.toNat == reg).map fun entry => entry.size.toNat

theorem filter_reg_eq {buffers : List LineBuffer} (distinct : (buffers.map (·.reg)).Nodup)
    {buffer : LineBuffer} (member : buffer ∈ buffers) :
    buffers.filter (fun other => other.reg == buffer.reg) = [buffer] := by
  induction buffers with
  | nil => exact absurd member List.not_mem_nil
  | cons first rest ih =>
      obtain ⟨fresh, distinct⟩ := List.nodup_cons.mp distinct
      have other : ∀ later ∈ rest, later.reg ≠ first.reg := fun later among same =>
        fresh (List.mem_map.mpr ⟨later, among, same⟩)
      rcases List.mem_cons.mp member with rfl | among
      · rw [List.filter_cons_of_pos (by simp)]
        congr 1
        exact List.filter_eq_nil_iff.mpr fun later among => by simpa using other later among
      · rw [List.filter_cons_of_neg (by simpa using Ne.symm (other buffer among)),
          ih distinct among]

/-- A line buffer in use has one row in the table, with its size; one of size zero has none. -/
theorem sizes_deviceList {buffers : List LineBuffer} (distinct : (buffers.map (·.reg)).Nodup)
    (registers : ∀ buffer ∈ buffers, buffer.reg < Numeral.bound32)
    (sizes : ∀ buffer ∈ buffers, buffer.size < Numeral.bound32) {buffer : LineBuffer}
    (member : buffer ∈ buffers) :
    sizesFor (deviceList buffers) buffer.reg = if buffer.size = 0 then [] else [buffer.size] := by
  have exact32 : ∀ {n}, n < Numeral.bound32 → (BitVec.ofNat 32 n).toNat = n := by
    intro n small
    rw [BitVec.toNat_ofNat]
    exact Nat.mod_eq_of_lt small
  have rows : (sizesFor (deviceList buffers) buffer.reg).Perm
      (((buffers.filter fun other => other.reg == buffer.reg).filter
        fun other => decide (0 < other.size)).map (·.size)) := by
    refine (((deviceList_perm buffers).filter _).map _).trans (.of_eq ?_)
    rw [List.filter_map, List.map_map, List.filter_filter, List.filter_filter]
    have same : ∀ other ∈ buffers,
        (((fun entry : LineBufferEntry => entry.reg.toNat == buffer.reg) ∘ entry) other &&
          decide (0 < other.size)) =
        (decide (0 < other.size) && (other.reg == buffer.reg)) := by
      intro other among
      rw [Bool.and_comm]
      show (_ && ((BitVec.ofNat 32 other.reg).toNat == buffer.reg)) = _
      rw [exact32 (registers other among)]
    rw [List.filter_congr same]
    exact List.map_congr_left fun other among => exact32 (sizes other (List.mem_filter.mp among).1)
  rw [filter_reg_eq distinct member] at rows
  by_cases zero : buffer.size = 0
  · rw [List.filter_cons_of_neg (by simp [zero])] at rows
    rw [if_pos zero]
    exact List.perm_nil.mp rows
  · rw [List.filter_cons_of_pos (by simpa using Nat.pos_of_ne_zero zero)] at rows
    rw [if_neg zero]
    exact List.perm_singleton.mp rows

end LineBuffer

/-! ### Caches that are up to date -/

/-- A buffer that was granted has the size that was asked for. -/
class ExactGrants (α : Type) [Allocator α] : Prop where
  size_eq : ∀ {size : Nat} {memory after : α} {buffer : Buffer},
    Allocator.alloc size memory = .ok buffer after → buffer.size = size

instance : ExactGrants Arena where
  size_eq {size memory after buffer} granted := by
    have ran : Arena.alloc size memory = .ok buffer after := granted
    unfold Arena.alloc at ran
    split at ran
    · cases ran
    · cases ran
      rfl

namespace LineBufferCache

/-- As long as a cache has a key, its line buffers are those for every picture with that key. -/
def Current (cache : LineBufferCache) (compressed : Bool) : Prop :=
  ∀ shape : PictureShape, shape.compressed = compressed → cache.placedFor = some shape.key →
    cache.buffers = LineBuffer.place shape cache.registers

/-- As long as a cache has a key, its device buffer holds just its line buffers. -/
def Sized (cache : LineBufferCache) (_ : Bool) : Prop :=
  cache.placedFor ≠ none → cache.size = LineBuffer.totalSize cache.buffers

/-- The property of line buffers, for the state of compression that they are used in, asks nothing of
those without a key, and placing them anew brings it about. -/
structure Renewed (α : Type) [Allocator α] (property : LineBufferCache → Bool → Prop) : Prop where
  forgotten {cache : LineBufferCache} (keyless : cache.placedFor = none) (compressed : Bool) :
    property cache compressed
  replaced {cache : LineBufferCache} {shape : PictureShape} {memory final : α} {buffer : Buffer}
    (grants : Allocator.alloc (LineBuffer.totalSize (cache.placed shape)) memory = .ok buffer final) :
    property ⟨cache.placed shape, some shape.key, some buffer⟩ shape.compressed

variable {α : Type} [Allocator α] {property : LineBufferCache → Bool → Prop} {shape : PictureShape}
  {cache after : LineBufferCache} {memory final : α} {outcome : Except Fault Unit}

/-- Such a property outlasts every picture, also one whose line buffers are refused after they were
placed. -/
theorem Renewed.ensures (renewed : Renewed α property) (holds : property cache shape.compressed)
    (ensures : cache.Ensures shape memory outcome after final) : property after shape.compressed := by
  cases ensures with
  | kept serves => exact holds
  | refused outdated refuses => exact renewed.forgotten rfl _
  | replaced outdated grants => exact renewed.replaced grants

/-- Where line buffers lie is settled by the key and by compression, whatever the allocator grants. -/
theorem renewed_current : Renewed α Current where
  forgotten keyless _ _ _ placed := by cases keyless.symm.trans placed
  replaced {cache shape _ _ buffer} _ := by
    intro other compressed placed
    have key : other.key = shape.key := (Option.some.inj placed).symm
    rw [cache.registers_placed shape (some shape.key) (some buffer)]
    exact (LineBuffer.place_congr key compressed _).symm

/-- A new device buffer is as large as its line buffers ask for. -/
theorem renewed_sized [ExactGrants α] : Renewed α Sized where
  forgotten keyless _ keyed := absurd keyless keyed
  replaced grants _ := ExactGrants.size_eq grants

/-- Line buffers that were readied have the key of the picture. -/
theorem Ensures.placedFor (ensures : cache.Ensures shape memory (.ok ()) after final) :
    after.placedFor = some shape.key := by
  cases ensures with
  | kept serves =>
      unfold LineBufferCache.serves LineBuffer.outdated at serves
      simp only [Bool.and_eq_true, Bool.not_eq_true', bne_eq_false_iff_eq] at serves
      exact serves.2
  | replaced outdated grants => rfl

/-- Line buffers that were readied are those for the picture, whether they were kept or placed
anew. -/
theorem Ensures.buffers (ensures : cache.Ensures shape memory (.ok ()) after final)
    (current : cache.Current shape.compressed) :
    after.buffers = LineBuffer.place shape after.registers :=
  renewed_current.ensures current ensures shape rfl ensures.placedFor

end LineBufferCache

end VideoAccel
