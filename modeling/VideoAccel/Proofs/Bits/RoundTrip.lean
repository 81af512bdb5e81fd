import VideoAccel.Bits.Reader
import VideoAccel.Proofs.Action
import VideoAccel.Proofs.Bits.Writer
import Mathlib.Algebra.Ring.Nat

/-!
What the writer packs, the reader unpacks, however the bits are regrouped.

A writer that appended fields to a fresh array leaves the string of these fields and zeros behind
it (`Writer.Sound.toBits_putAll`); a reader at some position takes its answers from the bits ahead
of it (`Reader.takes`). `putAll_takes` puts the two together for every run of the reader.
-/

namespace VideoAccel

/-! ### The numbers that strings stand for -/

/-- The number that bits form, most significant first. -/
def Bits.toNat (bits : List Bool) : Nat :=
  (BitVec.ofBoolListBE bits).toNat

theorem Bits.testBit_toNat (bits : List Bool) (j : Nat) :
    (Bits.toNat bits).testBit j =
      (decide (j < bits.length) && bits[bits.length - 1 - j]?.getD false) := by
  rw [Bits.toNat, BitVec.testBit_toNat, BitVec.getLsbD_ofBoolListBE, List.getD_eq_getElem?_getD]

/-- A field stands for the value modulo two to its width. -/
theorem Word.toNat_field (value : Word) (width : Nat) :
    Bits.toNat (value.field width) = value.toNat % 2 ^ width := by
  apply Nat.eq_of_testBit_eq
  intro j
  rw [Bits.testBit_toNat, length_field, Nat.testBit_mod_two_pow, BitVec.testBit_toNat]
  by_cases inside : j < width
  · have place : width - 1 - (width - 1 - j) = j := by omega
    rw [getElem?_field (by omega)]
    simp [inside, place]
  · simp [inside]

/-! ### The writer's side -/

namespace Writer

variable {writer : Writer} {fields : List (Word × Nat)}

/-- The bits of fields, one field after the other. -/
def string (fields : List (Word × Nat)) : List Bool :=
  fields.flatMap fun field => field.1.field field.2

theorem length_string (fields : List (Word × Nat)) :
    (string fields).length = (fields.map (·.2)).sum := by
  simp [string, List.length_flatMap]

/-- A string that fits is filled up with zeros. -/
theorem takeD_of_length_le {bits : List Bool} {room : Nat} (fits : bits.length ≤ room) :
    bits.takeD room false = bits ++ List.replicate (room - bits.length) false := by
  apply List.ext_getElem?
  intro i
  rw [getElem?_takeD, List.getElem?_append, List.getElem?_replicate]
  by_cases first : i < bits.length
  · have inside : i < room := by omega
    simp [first, inside]
  · have shifted : i - bits.length < room - bits.length ↔ i < room := by omega
    simp [first, shifted]

/-- Cutting twice is cutting once. -/
theorem takeD_take_append (before behind : List Bool) (room : Nat) :
    ((before.takeD room false).take (min before.length room) ++ behind).takeD room false =
      (before ++ behind).takeD room false := by
  apply List.ext_getElem?
  intro i
  rw [getElem?_takeD, getElem?_takeD]
  by_cases inside : i < room
  · have length : ((before.takeD room false).take (min before.length room)).length =
        min before.length room := by
      simp
    rw [if_pos inside, if_pos inside, List.getElem?_append, List.getElem?_append, length]
    by_cases first : i < before.length
    · rw [if_pos (by omega), if_pos first, List.getElem?_take_of_lt (by omega), getElem?_takeD,
        if_pos inside]
      simp
    · have short : min before.length room = before.length := by omega
      rw [if_neg (by omega), if_neg first, short]
  · rw [if_neg inside, if_neg inside]

theorem Sound.putAll (sound : writer.Sound) (narrow : ∀ field ∈ fields, field.2 ≤ 64) :
    (writer.putAll fields).Sound ∧ (writer.putAll fields).capacity = writer.capacity ∧
      (writer.putAll fields).words.size = writer.words.size ∧
      (writer.putAll fields).toBits =
        (writer.toBits.take writer.position ++ string fields).takeD (64 * writer.capacity)
          false := by
  induction fields generalizing writer with
  | nil =>
      have nothing := sound.toBits_put 0 (Nat.zero_le 64)
      refine ⟨sound, rfl, rfl, ?_⟩
      simpa [Writer.putAll, Writer.put, string, Word.field] using nothing
  | cons field rest ih =>
      obtain ⟨value, width⟩ := field
      have first : width ≤ 64 := narrow (value, width) (by simp)
      have ended := put_spec writer value first
      obtain ⟨ends, capacity, size, bits⟩ := ih (sound.put value first) fun later among =>
        narrow later (List.mem_cons_of_mem _ among)
      rw [ended.capacity] at capacity
      rw [ended.size] at size
      refine ⟨ends, capacity, size, bits.trans ?_⟩
      have length : (writer.toBits.take writer.position ++ value.field width).length =
          writer.position + width := by
        rw [List.length_append, List.length_take, length_toBits sound.owned,
          Nat.min_eq_left sound.inside, Word.length_field]
      rw [sound.toBits_put value first, ended.position first sound.inside, ended.capacity, ← length,
        takeD_take_append, List.append_assoc]
      rfl

theorem Sound.position_putAll (sound : writer.Sound) (narrow : ∀ field ∈ fields, field.2 ≤ 64) :
    (writer.putAll fields).position =
      min (writer.position + (fields.map (·.2)).sum) (64 * writer.capacity) := by
  induction fields generalizing writer with
  | nil => exact (Nat.min_eq_left sound.inside).symm
  | cons field rest ih =>
      obtain ⟨value, width⟩ := field
      have first : width ≤ 64 := narrow (value, width) (by simp)
      have ended := put_spec writer value first
      have later := ih (sound.put value first) fun other among =>
        narrow other (List.mem_cons_of_mem _ among)
      rw [ended.position first sound.inside, ended.capacity] at later
      rw [List.map_cons, List.sum_cons]
      refine later.trans ?_
      omega

theorem sound_ofWords (words : Array Word) : (ofWords words).Sound :=
  .reset (Nat.min_le_right _ _)

theorem size_ofWords_putAll {words : Array Word} (narrow : ∀ field ∈ fields, field.2 ≤ 64) :
    ((ofWords words).putAll fields).words.size = words.size :=
  ((sound_ofWords words).putAll narrow).2.2.1.trans (size_reset _)

/-- Fields that fit into a fresh array fill its first bits; the others are zero. -/
theorem toBits_ofWords_putAll {words : Array Word} (narrow : ∀ field ∈ fields, field.2 ≤ 64)
    (fits : (fields.map (·.2)).sum ≤ 64 * words.size) :
    Words.toBits ((ofWords words).putAll fields).words.toList =
      string fields ++ List.replicate (64 * words.size - (fields.map (·.2)).sum) false := by
  have whole : (ofWords words).capacity = words.size := Nat.min_self _
  have none : (ofWords words).toBits.take (ofWords words).position = [] := List.take_zero
  obtain ⟨-, capacity, -, written⟩ := (sound_ofWords words).putAll narrow
  rw [whole] at capacity written
  rw [none, List.nil_append, takeD_of_length_le (by rw [length_string]; exact fits), length_string]
    at written
  have all : ((ofWords words).putAll fields).words.toList.length = words.size :=
    Array.length_toList.trans (size_ofWords_putAll narrow)
  rw [← written, toBits_eq, capacity, List.take_of_length_le (Nat.le_of_eq all)]

end Writer

/-! ### The reader's side -/

namespace Reader

variable {reader : Reader} {count : Nat}

/-- The bits a reader has before it. -/
def ahead (reader : Reader) : List Bool :=
  (Words.toBits reader.words.toList).drop reader.position

theorem length_ahead (reader : Reader) : reader.ahead.length = reader.left := by
  simp [ahead, left, Nat.mul_comm]

theorem getElem?_ahead {k : Nat} (inside : k < reader.left) :
    reader.ahead[k]? = some (Words.bitAt reader.words (reader.position + k)) := by
  unfold left at inside
  have there : (reader.position + k) / 64 < reader.words.size := by omega
  rw [ahead, List.getElem?_drop, Words.getElem?_toBits]
  simp [Words.bitAt, there]

/-- The bits of an answer are the next ones, the last of them lowest. -/
theorem getLsbD_peek (narrow : count ≤ 64) (k : Nat) :
    (reader.peek count).getLsbD k =
      (decide (k < count) && Words.bitAt reader.words (reader.position + (count - 1 - k))) := by
  have used : reader.position % 64 < 64 := Nat.mod_lt _ (by decide)
  simp only [peek]
  by_cases one : count ≤ 64 - reader.position % 64
  · rw [if_pos one, Word.getLsbD_window _ (by omega)]
    by_cases inside : k < count
    · rw [Words.bitAt_add (by omega)]
    · simp [inside]
  rw [if_neg one]
  generalize split : count - (64 - reader.position % 64) = rest
  -- The upper bits are the last ones of this word, the lower ones the first of the next.
  have upper := Word.getLsbD_window (reader.words.getD (reader.position / 64) 0)
    (Nat.le_of_eq (Nat.add_sub_cancel' (Nat.le_of_lt used))) (k - rest)
  have lower := @Word.getLsbD_window (reader.words.getD (reader.position / 64 + 1) 0) 0 rest
    (by omega) k
  rw [Nat.sub_sub_self (Nat.le_of_lt used)] at upper
  rw [BitVec.shiftLeft_zero] at lower
  rw [BitVec.getLsbD_or, BitVec.getLsbD_shiftLeft, upper, lower]
  by_cases low : k < rest
  · have inside : k < count := by omega
    have place : reader.position % 64 + (count - 1 - k) - 64 = rest - 1 - k := by omega
    rw [Words.bitAt_add_of_le (by omega) (by omega), place]
    simp [low, inside]
  by_cases inside : k < count
  · have high : k - rest < 64 - reader.position % 64 := by omega
    have word : k < 64 := by omega
    have place : 64 - reader.position % 64 - 1 - (k - rest) = count - 1 - k := by omega
    rw [Words.bitAt_add (by omega), place]
    simp [low, inside, high, word]
  · have outside : ¬ k - rest < 64 - reader.position % 64 := by omega
    simp [low, inside, outside]

theorem toNat_peek (narrow : count ≤ 64) (room : count ≤ reader.left) :
    (reader.peek count).toNat = Bits.toNat (reader.ahead.take count) := by
  have length : (reader.ahead.take count).length = count := by
    rw [List.length_take, length_ahead, Nat.min_eq_left room]
  apply Nat.eq_of_testBit_eq
  intro k
  rw [BitVec.testBit_toNat, getLsbD_peek narrow, Bits.testBit_toNat, length]
  by_cases inside : k < count
  · rw [List.getElem?_take_of_lt (by omega), getElem?_ahead (by omega), Option.getD_some]
  · simp [inside]

/-- What a reader does that has these bits before it. -/
structure Takes (reader : Reader) (ahead : List Bool) : Prop where
  left : reader.left = ahead.length
  /-- A read answers with the number that the next bits form. -/
  reads : ∀ count, count ≤ 64 → count ≤ reader.left → ∃ word,
    read count reader = .ok word { reader with position := reader.position + count } ∧
      word.toNat = Bits.toNat (ahead.take count)
  /-- It is refused when it asks for too much, and the reader stays. -/
  refusesRead : ∀ count, ¬ (count ≤ 64 ∧ count ≤ reader.left) →
    ∃ fault, read count reader = .error fault reader
  /-- A single bit is answered as it is. -/
  bit : 0 < reader.left → ∃ bit, ahead.head? = some bit ∧
    readBit reader = .ok bit { reader with position := reader.position + 1 }
  refusesBit : reader.left = 0 → ∃ fault, readBit reader = .error fault reader
  skips : ∀ count, count ≤ reader.left →
    skip count reader = .ok () { reader with position := reader.position + count }
  refusesSkip : ∀ count, reader.left < count → ∃ fault, skip count reader = .error fault reader

theorem read_of_le (narrow : count ≤ 64) (room : count ≤ reader.left) :
    read count reader =
      .ok (reader.peek count) { reader with position := reader.position + count } := by
  unfold read
  by_cases none : count = 0
  · have nothing : reader.peek 0 = 0 := by
      apply BitVec.eq_of_getLsbD_eq
      intro k inside
      simp [getLsbD_peek (Nat.zero_le 64)]
    rw [if_pos none, none, nothing]
    rfl
  · rw [if_neg none, if_neg (Nat.not_lt.mpr narrow), if_neg (Nat.not_lt.mpr room)]

theorem read_of_not_le (asks : ¬ (count ≤ 64 ∧ count ≤ reader.left)) :
    ∃ fault, read count reader = .error fault reader := by
  unfold read
  rw [if_neg (by omega)]
  by_cases wide : 64 < count
  · exact ⟨_, if_pos wide⟩
  · rw [if_neg wide, if_pos (by omega)]
    exact ⟨_, rfl⟩

theorem readBit_of_pos (some : 0 < reader.left) :
    ∃ bit, reader.ahead.head? = .some bit ∧
      readBit reader = .ok bit { reader with position := reader.position + 1 } := by
  have room : 1 ≤ reader.left := some
  have number := toNat_peek (by decide) room
  cases bits : reader.ahead with
  | nil =>
      rw [← length_ahead, bits] at some
      exact absurd some (Nat.lt_irrefl 0)
  | cons bit rest =>
      refine ⟨bit, rfl, ?_⟩
      have same : (reader.peek 1 == 1) = bit := by
        rw [bits, List.take_succ_cons, List.take_zero] at number
        rw [Bool.eq_iff_iff, beq_iff_eq, ← BitVec.toNat_inj, number]
        cases bit <;> decide
      rw [readBit, Action.bind_of_ok (read_of_le (by decide) room), same]
      rfl

theorem takes_ahead (reader : Reader) : reader.Takes reader.ahead where
  left := reader.length_ahead.symm
  reads count narrow room := ⟨reader.peek count, read_of_le narrow room, toNat_peek narrow room⟩
  refusesRead count asks := read_of_not_le asks
  bit some := readBit_of_pos some
  refusesBit := by
    intro none
    have asks : ¬ (1 ≤ 64 ∧ 1 ≤ reader.left) := by omega
    obtain ⟨fault, refused⟩ := read_of_not_le asks
    exact ⟨fault, Action.bind_of_error refused _⟩
  skips count room := if_neg (Nat.not_lt.mpr room)
  refusesSkip count asks := ⟨_, if_pos asks⟩

/-- What a caller can ask of a reader. -/
inductive Call where
  | read (count : Nat)
  | readBit
  | skip (count : Nat)
deriving DecidableEq, Repr

/-- The reader after a call, answered or refused. -/
def call (reader : Reader) : Call → Reader
  | .read count => Action.after (read count reader)
  | .readBit => Action.after (readBit reader)
  | .skip count => Action.after (skip count reader)

def run (reader : Reader) (calls : List Call) : Reader :=
  calls.foldl call reader

theorem words_call (reader : Reader) (call : Call) : (reader.call call).words = reader.words := by
  have takes := reader.takes_ahead
  cases call with
  | read count =>
      by_cases asks : count ≤ 64 ∧ count ≤ reader.left
      · rw [Reader.call, read_of_le asks.1 asks.2]
        rfl
      · obtain ⟨fault, refused⟩ := takes.refusesRead count asks
        rw [Reader.call, refused]
        rfl
  | readBit =>
      rcases Nat.eq_zero_or_pos reader.left with none | some
      · obtain ⟨fault, refused⟩ := takes.refusesBit none
        rw [Reader.call, refused]
        rfl
      · obtain ⟨bit, -, read⟩ := takes.bit some
        rw [Reader.call, read]
        rfl
  | skip count =>
      rcases Nat.lt_or_ge reader.left count with asks | room
      · obtain ⟨fault, refused⟩ := takes.refusesSkip count asks
        rw [Reader.call, refused]
        rfl
      · rw [Reader.call, takes.skips count room]
        rfl

theorem words_run (reader : Reader) (calls : List Call) :
    (reader.run calls).words = reader.words := by
  induction calls generalizing reader with
  | nil => rfl
  | cons call rest ih => exact (ih (reader.call call)).trans (reader.words_call call)

/-- Reading with the widths of the fields that lie ahead gives their values back. -/
theorem mapM_read {fields : List (Word × Nat)} {rest : List Bool}
    (narrow : ∀ field ∈ fields, field.2 ≤ 64)
    (lies : reader.ahead = Writer.string fields ++ rest) :
    ∃ answers, fields.mapM (fun field => read field.2) reader =
        .ok answers { reader with position := reader.position + (fields.map (·.2)).sum } ∧
      answers.map (·.toNat) = fields.map fun field => field.1.toNat % 2 ^ field.2 := by
  induction fields generalizing reader with
  | nil => exact ⟨[], rfl, rfl⟩
  | cons field fields ih =>
      obtain ⟨value, width⟩ := field
      have first : width ≤ 64 := narrow (value, width) (by simp)
      have next : reader.ahead = value.field width ++ (Writer.string fields ++ rest) := by
        rw [lies, ← List.append_assoc]
        rfl
      have room : width ≤ reader.left := by
        rw [← length_ahead, next]
        simp
      have number : (reader.peek width).toNat = value.toNat % 2 ^ width := by
        rw [toNat_peek first room, next, List.take_left' (Word.length_field value width),
          Word.toNat_field]
      obtain ⟨answers, ran, values⟩ :=
        @ih { reader with position := reader.position + width }
          (fun later among => narrow later (List.mem_cons_of_mem _ among)) (by
            rw [ahead, ← List.drop_drop, ← ahead, next,
              List.drop_left' (Word.length_field value width)])
      refine ⟨reader.peek width :: answers, ?_, by simp [number, values]⟩
      rw [List.mapM_cons, Action.bind_of_ok (read_of_le first room), Action.bind_of_ok ran]
      rw [List.map_cons, List.sum_cons, ← Nat.add_assoc]
      rfl

end Reader

/-- After a writer that fitted all its fields into a fresh array, a reader of this array finds the
fields, and zeros behind them, at every position its calls may lead it to. With the widths of the
fields it reads their values, each modulo two to its width. -/
theorem putAll_takes (words : Array Word) (fields : List (Word × Nat))
    (narrow : ∀ field ∈ fields, field.2 ≤ 64)
    (fits : (fields.map (·.2)).sum ≤ 64 * words.size) (calls : List Reader.Call) :
    let fresh := Reader.ofWords ((Writer.ofWords words).putAll fields).words
    let bits := Writer.string fields ++
      List.replicate (64 * words.size - (fields.map (·.2)).sum) false
    (fresh.run calls).Takes (bits.drop (fresh.run calls).position) ∧
      ∃ answers, fields.mapM (fun field => Reader.read field.2) fresh =
          .ok answers { fresh with position := (fields.map (·.2)).sum } ∧
        answers.map (·.toNat) = fields.map fun field => field.1.toNat % 2 ^ field.2 := by
  intro fresh bits
  have held : Words.toBits fresh.words.toList = bits := Writer.toBits_ofWords_putAll narrow fits
  have ahead : fresh.ahead = bits := by
    rw [Reader.ahead, held]
    rfl
  have start : fresh.position + (fields.map (·.2)).sum = (fields.map (·.2)).sum := Nat.zero_add _
  obtain ⟨answers, ran, values⟩ := Reader.mapM_read narrow ahead
  rw [start] at ran
  refine ⟨?_, answers, ran, values⟩
  have takes := (fresh.run calls).takes_ahead
  rwa [Reader.ahead, Reader.words_run, held] at takes

/-- Fields of 3, 64, 0 and 7 bits are read back as two bits, one bit and 60 bits up to the edge of
the second word; 66 bits are too wide for one read. The next ten bits join two fields. -/
theorem putAll_takes_across :
    let fields : List (Word × Nat) := [(5, 3), (0x123456789abcdef0, 64), (9, 0), (0x1ff, 7)]
    let fresh := Reader.ofWords ((Writer.ofWords #[1, 2]).putAll fields).words
    let reader := fresh.run [.read 2, .readBit, .skip 1, .read 66, .read 60]
    reader.position = 64 ∧
      ∃ word, Reader.read 10 reader = .ok word { reader with position := reader.position + 10 } ∧
        word.toNat = 0b0001111111 := by
  intro fields fresh reader
  have position : reader.position = 64 := by decide +kernel
  have left : 10 ≤ reader.left := by decide +kernel
  obtain ⟨takes, -⟩ := putAll_takes #[1, 2] fields (by decide) (by decide)
    [.read 2, .readBit, .skip 1, .read 66, .read 60]
  obtain ⟨word, read, number⟩ := takes.reads 10 (by decide) left
  exact ⟨position, word, read, number.trans (by decide +kernel)⟩

end VideoAccel
