import VideoAccel.Picture.EntropyTable
import VideoAccel.Proofs.Bits.RoundTrip
import VideoAccel.Proofs.Memory.Words
import Mathlib.Data.List.Nodup
import Mathlib.Data.Set.Function
import Mathlib.Order.Interval.Set.Defs

/-!
Two ways to lay a stream of bytes out in memory.

The writer packs the bytes into words, most significant byte first, and the words are stored with the
least significant byte first; or each byte is stored at its place at once. `LaysOut` is the layout that
both come to, for every stream that fits, and `packers_agree` says so, for the table of start values as
well: there the places are computed from model and context, and no byte is stored over another.
-/

namespace VideoAccel.EntropyTable

/-! ### Places -/

theorem place_eq_iff {k position : Nat} : place k = position ↔ k = place position := by
  constructor
  · rintro rfl
    exact (place_place k).symm
  · rintro rfl
    exact place_place position

theorem place_lt {length k : Nat} (whole : 8 ∣ length) (inside : k < length) : place k < length := by
  unfold place
  omega

/-- Within whole words, places are a rearrangement. -/
theorem place_bijOn {length : Nat} (whole : 8 ∣ length) :
    Set.BijOn place (Set.Iio length) (Set.Iio length) := by
  have inverse : Set.InvOn place place (Set.Iio length) (Set.Iio length) :=
    ⟨fun k _ => place_place k, fun k _ => place_place k⟩
  have within : Set.MapsTo place (Set.Iio length) (Set.Iio length) := fun _ => place_lt whole
  exact inverse.bijOn within within

/-! ### The layout -/

/-- Byte `k` of the stream lies at its place, and everything else is zero. -/
structure LaysOut (memory : Bytes) (bytes : List Byte) : Prop where
  placed : ∀ k (inside : k < bytes.length), memory[place k]? = some bytes[k]
  zero : ∀ position < memory.size, (∀ k < bytes.length, place k ≠ position) →
    memory[position]? = some 0

variable {memory : Bytes} {bytes : List Byte}

/-- The layout, told by what lies at a position. -/
theorem LaysOut.of_at0 (whole : 8 ∣ memory.size) (fits : bytes.length ≤ memory.size)
    (each : ∀ position < memory.size, memory.at0 position = bytes[place position]?.getD 0) :
    LaysOut memory bytes := by
  have found : ∀ position < memory.size,
      memory[position]? = some (bytes[place position]?.getD 0) := by
    intro position inside
    have known := each position inside
    rw [Bytes.at0_eq, Array.getElem?_eq_getElem inside, Option.getD_some] at known
    rw [Array.getElem?_eq_getElem inside, known]
  constructor
  · intro k inside
    rw [found (place k) (place_lt whole (Nat.lt_of_lt_of_le inside fits)), place_place,
      List.getElem?_eq_getElem inside, Option.getD_some]
  · intro position inside untouched
    have past : bytes.length ≤ place position := by
      by_contra early
      exact untouched (place position) (Nat.not_le.mp early) (place_place position)
    rw [found position inside, List.getElem?_eq_none past, Option.getD_none]

/-! ### Byte by byte -/

/-- What stores one behind the other leave at a position. -/
theorem at0_storeFrom (k : Nat) (memory : Bytes) (bytes : List Byte) {position : Nat}
    (inside : position < memory.size) :
    (storeFrom k memory bytes).at0 position =
      if k ≤ place position then bytes[place position - k]?.getD (memory.at0 position)
      else memory.at0 position := by
  induction bytes generalizing k memory with
  | nil => simp [storeFrom]
  | cons byte rest ih =>
      have kept : position < (memory.setIfInBounds (place k) byte).size := by simpa using inside
      rw [storeFrom, ih (k + 1) _ kept, Bytes.at0_set]
      -- A later store goes to another place, so the first one is still there at its own.
      by_cases here : place k = position
      · have first : place position = k := (place_eq_iff.mp here).symm
        rw [if_neg (by omega), if_pos ⟨here, inside⟩, first]
        simp
      · have other : place position ≠ k := fun same => here (place_eq_iff.mpr same.symm)
        simp only [here, false_and, if_false]
        by_cases behind : k + 1 ≤ place position
        · have next : place position - k = place position - (k + 1) + 1 := by omega
          rw [if_pos behind, if_pos (by omega), next, List.getElem?_cons_succ]
        · rw [if_neg behind, if_neg (by omega)]

/-- In memory that was blank the stores leave the stream and nothing else. -/
theorem at0_storeFrom_zeros {length position : Nat} (bytes : List Byte)
    (inside : position < length) :
    (storeFrom 0 (Bytes.zeros length) bytes).at0 position = bytes[place position]?.getD 0 := by
  have blank : (Bytes.zeros length).at0 position = 0 := by
    rw [Bytes.at0_eq, Bytes.zeros, Array.getElem?_replicate, if_pos inside, Option.getD_some]
  rw [at0_storeFrom 0 _ bytes (by simpa using inside), if_pos (Nat.zero_le _), blank, Nat.sub_zero]

theorem laysOut_storeFrom {length : Nat} (whole : 8 ∣ length) (fits : bytes.length ≤ length) :
    LaysOut (storeFrom 0 (Bytes.zeros length) bytes) bytes := by
  have size : (storeFrom 0 (Bytes.zeros length) bytes).size = length := by
    rw [size_storeFrom, Bytes.size_zeros]
  refine .of_at0 (by rwa [size]) (by rwa [size]) ?_
  intro position inside
  rw [size] at inside
  exact at0_storeFrom_zeros bytes inside

/-! ### Word by word -/

/-- The bytes of a stream as fields of a writer. -/
def fieldsOf (bytes : List Byte) : List (Word × Nat) :=
  bytes.map fun byte => (byte.setWidth 64, 8)

/-- A stream packed by a writer on `words`, which are then laid out over `target`. -/
def packed (words : Array Word) (target : Bytes) (bytes : List Byte) : Bytes :=
  Bytes.spread ((Writer.ofWords words).putAll (fieldsOf bytes)).words target

theorem getElem?_field_setWidth (byte : Byte) {k : Nat} (low : k < 8) :
    (Word.field (byte.setWidth 64) 8)[k]? = some (byte.getMsbD k) := by
  have place : 8 - 1 - k < 64 := by omega
  rw [Word.getElem?_field low, BitVec.getLsbD_setWidth, BitVec.getMsbD_eq_getLsbD]
  simp [low, place]

/-- The bits of a stream, byte by byte. -/
theorem getElem?_string_fieldsOf (bytes : List Byte) (i : Nat) :
    (Writer.string (fieldsOf bytes))[i]? = bytes[i / 8]?.map fun byte => byte.getMsbD (i % 8) := by
  have low : i % 8 < 8 := Nat.mod_lt _ (by decide)
  have string : Writer.string (fieldsOf bytes) =
      bytes.flatMap fun byte => Word.field (byte.setWidth 64) 8 := List.flatMap_map ..
  rw [string, getElem?_flatMap (by decide) (fun byte => Word.length_field _ 8)]
  simp only [getElem?_field_setWidth _ low, Option.map_eq_bind]
  rfl

theorem narrow_fieldsOf (bytes : List Byte) : ∀ field ∈ fieldsOf bytes, field.2 ≤ 64 := by
  simp [fieldsOf]

theorem sum_widths_fieldsOf (bytes : List Byte) :
    ((fieldsOf bytes).map (·.2)).sum = 8 * bytes.length := by
  simp [fieldsOf, Function.comp_def, List.map_const', Nat.mul_comm]

/-- The bits that the writer leaves, those behind the stream included. -/
theorem bitAt_putAll_fieldsOf {words : Array Word} (fits : bytes.length ≤ 8 * words.size) (i : Nat) :
    Words.bitAt ((Writer.ofWords words).putAll (fieldsOf bytes)).words i =
      (bytes[i / 8]?.getD 0).getMsbD (i % 8) := by
  have widths := sum_widths_fieldsOf bytes
  have length : (Writer.string (fieldsOf bytes)).length = 8 * bytes.length := by
    rw [Writer.length_string, widths]
  rw [Words.bitAt_eq_getD, Writer.toBits_ofWords_putAll (narrow_fieldsOf bytes) (by omega),
    List.getElem?_append, length]
  by_cases inside : i < 8 * bytes.length
  · have known : i / 8 < bytes.length := by omega
    rw [if_pos inside, getElem?_string_fieldsOf, List.getElem?_eq_getElem known]
    rfl
  · have past : bytes.length ≤ i / 8 := by omega
    rw [if_neg inside, List.getElem?_eq_none past, List.getElem?_replicate]
    split <;> simp

/-- Laid out, a word shows its bits eight by eight from its last byte on. -/
theorem getMsbD_at0_spread {words : Array Word} {target : Bytes} {position j : Nat}
    (inside : position < target.size) (known : position / 8 < words.size) (low : j < 8) :
    ((Bytes.spread words target).at0 position).getMsbD j =
      Words.bitAt words (8 * place position + j) := by
  have split : 8 * (position / 8) + position % 8 = position := Nat.div_add_mod position 8
  have byte : position % 8 < 8 := Nat.mod_lt _ (by decide)
  have stored := @Bytes.at0_spread words target (position / 8) (position % 8) (by omega) byte known
  have word : (8 * place position + j) / 64 = position / 8 := by
    unfold place
    omega
  -- Bytes count from the low end of the word, bits of the stream from its high end.
  have bit : 8 * (position % 8) + (8 - 1 - j) = 64 - 1 - (8 * place position + j) % 64 := by
    unfold place
    omega
  have mirrored : 8 - 1 - j < 8 := by omega
  have small : (8 * place position + j) % 64 < 64 := Nat.mod_lt _ (by decide)
  rw [split] at stored
  rw [stored, Words.bitAt, word, Array.getD_eq_getD_getElem?, Array.getElem?_eq_getElem known,
    Option.getD_some, BitVec.getMsbD_eq_getLsbD, BitVec.getMsbD_eq_getLsbD,
    BitVec.getLsbD_extractLsb', bit]
  simp [low, mirrored, small]

/-- What words that were packed from a stream leave at a position. -/
theorem at0_packed {words : Array Word} {target : Bytes} (covers : target.size = 8 * words.size)
    (fits : bytes.length ≤ target.size) {position : Nat} (inside : position < target.size) :
    (packed words target bytes).at0 position = bytes[place position]?.getD 0 := by
  have size := @Writer.size_ofWords_putAll _ words (narrow_fieldsOf bytes)
  apply BitVec.eq_of_getMsbD_eq
  intro j low
  have byte : (8 * place position + j) / 8 = place position := by omega
  have bit : (8 * place position + j) % 8 = j := by omega
  rw [packed, getMsbD_at0_spread inside (by omega) low, bitAt_putAll_fieldsOf (by omega), byte, bit]

@[simp] theorem size_packed (words : Array Word) (target : Bytes) (bytes : List Byte) :
    (packed words target bytes).size = target.size :=
  Bytes.size_spread ..

/-- Byte by byte or word by word, the result is the same. -/
theorem storeFrom_eq_packed {words : Array Word} {target : Bytes}
    (covers : target.size = 8 * words.size) (fits : bytes.length ≤ target.size) :
    storeFrom 0 (Bytes.zeros target.size) bytes = packed words target bytes := by
  have size : (storeFrom 0 (Bytes.zeros target.size) bytes).size = target.size := by
    rw [size_storeFrom, Bytes.size_zeros]
  apply Bytes.ext_at0 (size.trans (size_packed ..).symm)
  intro position inside
  rw [size] at inside
  rw [at0_storeFrom_zeros bytes inside, at0_packed covers fits inside]

/-! ### The table of start values -/

/-- The bytes of one context in the stream. -/
def contextBytes (model context : Nat) : List Byte :=
  let (slope, offset) := (startValue? model context).getD neutral
  [BitVec.ofInt 8 slope, BitVec.ofInt 8 offset]

/-- The bytes of one model in the stream. -/
def modelBytes (model : Nat) : List Byte :=
  (List.range contextCount).flatMap (contextBytes model)

/-- The stores that fill the table, in order: a place, computed from model and context, and the byte
that goes there. -/
def stores : List (Nat × Byte) :=
  (List.range modelCount).flatMap fun model =>
    (List.range contextCount).flatMap fun context =>
      let (slope, offset) := (startValue? model context).getD neutral
      let k := (model * contextCount + context) * 2
      [(place k, BitVec.ofInt 8 slope), (place (k + 1), BitVec.ofInt 8 offset)]

theorem stream_eq : stream = (List.range modelCount).flatMap modelBytes := rfl

theorem length_contextBytes (model context : Nat) : (contextBytes model context).length = 2 := rfl

theorem length_modelBytes (model : Nat) : (modelBytes model).length = 2 * contextCount :=
  (length_flatMap (length_contextBytes model) _).trans (by rw [List.length_range])

/-- Numbered pieces of one length, one behind the other. -/
theorem zipIdx_flatMap_range {α : Type} {piece : Nat → List α} {length : Nat}
    (each : ∀ i, (piece i).length = length) (count start : Nat) :
    ((List.range count).flatMap piece).zipIdx start =
      (List.range count).flatMap fun i => (piece i).zipIdx (start + i * length) := by
  induction count with
  | zero => rfl
  | succ count ih =>
      have before : ((List.range count).flatMap piece).length = count * length := by
        rw [length_flatMap each, List.length_range, Nat.mul_comm]
      rw [List.range_succ, List.flatMap_append, List.zipIdx_append, ih, before, List.flatMap_append,
        List.flatMap_singleton, List.flatMap_singleton]

/-- The stores go through the stream in order. -/
theorem stores_eq : stores = stream.zipIdx.map fun entry => (place entry.2, entry.1) := by
  rw [stream_eq, zipIdx_flatMap_range length_modelBytes, List.map_flatMap]
  apply List.flatMap_congr
  intro model _
  rw [modelBytes, zipIdx_flatMap_range (length_contextBytes model), List.map_flatMap]
  apply List.flatMap_congr
  intro context _
  have k : 0 + model * (2 * contextCount) + context * 2 = (model * contextCount + context) * 2 := by
    unfold contextCount
    omega
  rw [k]
  rfl

theorem storeFrom_eq_foldl (k : Nat) (memory : Bytes) (bytes : List Byte) :
    storeFrom k memory bytes =
      (bytes.zipIdx k).foldl (fun memory entry => memory.setIfInBounds (place entry.2) entry.1)
        memory := by
  induction bytes generalizing k memory with
  | nil => rfl
  | cons byte rest ih => exact ih (k + 1) _

theorem table_eq_foldl :
    table = stores.foldl (fun memory store => memory.setIfInBounds store.1 store.2)
      (Bytes.zeros byteCount) := by
  rw [table, storeFrom_eq_foldl, stores_eq, List.foldl_map]

theorem length_stream : stream.length = 3680 := by
  rw [stream_eq, length_flatMap length_modelBytes, List.length_range]
  rfl

theorem stream_fits : stream.length ≤ byteCount := by
  rw [length_stream]
  decide

theorem map_fst_stores : stores.map (·.1) = (List.range 3680).map place := by
  have numbers : stream.zipIdx.map (·.2) = List.range 3680 := by
    rw [List.zipIdx_map_snd, length_stream, List.range_eq_range']
  rw [← numbers, stores_eq, List.map_map, List.map_map]
  rfl

/-- No byte is stored over another. -/
theorem nodup_stores : (stores.map (·.1)).Nodup := by
  rw [map_fst_stores]
  exact List.Nodup.map (Function.Involutive.injective place_place) List.nodup_range

/-- Every byte is stored inside the table. -/
theorem lt_of_mem_stores {store : Nat × Byte} (member : store ∈ stores) : store.1 < byteCount := by
  have among : store.1 ∈ (List.range 3680).map place := map_fst_stores ▸ List.mem_map_of_mem member
  obtain ⟨k, inside, place⟩ := List.mem_map.mp among
  have early : k < stream.length := length_stream ▸ List.mem_range.mp inside
  exact place ▸ place_lt (by decide) (Nat.lt_of_lt_of_le early stream_fits)

/-- Every context of the four models has a slope and an offset. -/
theorem startValue?_eq_some {model : Nat} (known : model < modelCount) (context : Nat) :
    ∃ slope offset, startValue? model context = some (slope, offset) := by
  by_cases own : context < 24
  · have every : ∀ model < modelCount, ∀ context < 24, (startValue? model context).isSome := by
      decide
    obtain ⟨⟨slope, offset⟩, value⟩ := Option.isSome_iff_exists.mp (every model known context own)
    exact ⟨slope, offset, value⟩
  · refine ⟨0, 64, ?_⟩
    rw [startValue?, if_neg (by omega), if_neg (by omega)]
    rfl

theorem getElem?_stream {model context r : Nat} (knownModel : model < modelCount)
    (knownContext : context < contextCount) (low : r < 2) :
    stream[(model * contextCount + context) * 2 + r]? = (contextBytes model context)[r]? := by
  have near : context < 460 := knownContext
  have inModels : ((model * contextCount + context) * 2 + r) / (2 * contextCount) = model := by
    unfold contextCount
    omega
  have inModel :
      ((model * contextCount + context) * 2 + r) % (2 * contextCount) = context * 2 + r := by
    unfold contextCount
    omega
  have inContexts : (context * 2 + r) / 2 = context := by omega
  have inContext : (context * 2 + r) % 2 = r := by omega
  rw [stream_eq, getElem?_flatMap (by decide) length_modelBytes, inModels, inModel,
    List.getElem?_range knownModel, Option.bind_some, modelBytes,
    getElem?_flatMap (by decide) (length_contextBytes model), inContexts, inContext,
    List.getElem?_range knownContext, Option.bind_some]

theorem table_eq_packed :
    table = packed (Array.replicate (byteCount / 8) 0) (Bytes.zeros byteCount) stream := by
  have covers :
      (Bytes.zeros byteCount).size = 8 * (Array.replicate (byteCount / 8) (0 : Word)).size := by
    rw [Bytes.size_zeros, Array.size_replicate]
    rfl
  have same := storeFrom_eq_packed covers (Bytes.size_zeros byteCount ▸ stream_fits)
  rwa [Bytes.size_zeros] at same

/-- The bytes of a context lie at their places in the table. -/
theorem getElem?_table {model context r : Nat} (knownModel : model < modelCount)
    (knownContext : context < contextCount) (low : r < 2) :
    table[place ((model * contextCount + context) * 2 + r)]? = (contextBytes model context)[r]? := by
  have laidOut : LaysOut table stream := laysOut_storeFrom (by decide) stream_fits
  have known : (model * contextCount + context) * 2 + r < stream.length := by
    have few : model < 4 := knownModel
    have near : context < 460 := knownContext
    rw [length_stream]
    unfold contextCount
    omega
  rw [laidOut.placed _ known, ← List.getElem?_eq_getElem known,
    getElem?_stream knownModel knownContext low]

/-! ### Both ways -/

/-- A stream that fits is laid out alike by a writer and by stores byte by byte, whatever the words and
the memory held before: byte `k` lies at `place k`, and everything else is zero. Places rearrange the
positions of the memory. The table of start values is that layout: its stores, at places that come from
model and context, leave what the writer leaves of the pairs, no two of them go to one place and none
outside the table, and the two bytes of every context lie at their places. -/
theorem packers_agree (words : Array Word) (target : Bytes) (bytes : List Byte)
    (covers : target.size = 8 * words.size) (fits : bytes.length ≤ target.size) :
    ((packed words target bytes).size = target.size ∧ LaysOut (packed words target bytes) bytes) ∧
      Set.BijOn place (Set.Iio target.size) (Set.Iio target.size) ∧
      storeFrom 0 (Bytes.zeros target.size) bytes = packed words target bytes ∧
      (table = stores.foldl (fun memory store => memory.setIfInBounds store.1 store.2)
          (Bytes.zeros byteCount) ∧
        table = packed (Array.replicate (byteCount / 8) 0) (Bytes.zeros byteCount) stream) ∧
      (stores.map (·.1)).Nodup ∧ (∀ store ∈ stores, store.1 < byteCount) ∧
      ∀ model < modelCount, ∀ context < contextCount, ∃ slope offset,
        startValue? model context = some (slope, offset) ∧
          table[place ((model * contextCount + context) * 2)]? = some (BitVec.ofInt 8 slope) ∧
          table[place ((model * contextCount + context) * 2 + 1)]? =
            some (BitVec.ofInt 8 offset) := by
  have same := storeFrom_eq_packed covers fits
  have whole : 8 ∣ target.size := ⟨words.size, covers⟩
  refine ⟨⟨size_packed .., same ▸ laysOut_storeFrom whole fits⟩, place_bijOn whole, same,
    ⟨table_eq_foldl, table_eq_packed⟩, nodup_stores, fun _ => lt_of_mem_stores, ?_⟩
  intro model knownModel context knownContext
  obtain ⟨slope, offset, value⟩ := startValue?_eq_some knownModel context
  have bytes : contextBytes model context = [BitVec.ofInt 8 slope, BitVec.ofInt 8 offset] := by
    rw [contextBytes, value]
    rfl
  have first := getElem?_table knownModel knownContext (by decide : 0 < 2)
  have second := getElem?_table knownModel knownContext (by decide : 1 < 2)
  rw [bytes] at first second
  exact ⟨slope, offset, value, first, second⟩

/-- Eleven bytes in two words: the last three come at the end of the second word. -/
theorem packers_agree_eleven :
    let bytes : List Byte := [1, 2, 3, 4, 5, 6, 7, 8, 9, 10, 11]
    let target : Bytes := Array.replicate 16 0xff
    target.size = 8 * (#[3, 5] : Array Word).size ∧ bytes.length ≤ target.size ∧
      packed #[3, 5] target bytes = #[8, 7, 6, 5, 4, 3, 2, 1, 0, 0, 0, 0, 0, 11, 10, 9] ∧
      LaysOut (packed #[3, 5] target bytes) bytes := by
  intro bytes target
  have covers : target.size = 8 * (#[3, 5] : Array Word).size := by decide
  have fits : bytes.length ≤ target.size := by decide
  obtain ⟨⟨-, laidOut⟩, -⟩ := packers_agree #[3, 5] target bytes covers fits
  exact ⟨covers, fits, by decide +kernel, laidOut⟩

end VideoAccel.EntropyTable
