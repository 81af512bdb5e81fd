import VideoAccel.Proofs.Bits.Checked

/-!
The writer as a string of bits that is cut at its capacity.

A writer is opened on a caller's words in one of three ways and then edited. `run_cuts` says what
every such run comes to: the words up to the capacity are the string that was written so far and
zeros behind it, every further edit acts on them as it acts on that string, and `truncated` is the
memory of the puts since the last reset that lost a bit.
-/

namespace VideoAccel.Writer

/-- How a writer takes hold of its words. -/
inductive Opening where
  | ofWords (words : Array Word)
  | withCapacity (words : Array Word) (count : Nat)
  | resume (words : Array Word) (target : Nat)
deriving DecidableEq, Repr

namespace Opening

/-- The words as the caller hands them over. -/
def words : Opening → Array Word
  | ofWords words => words
  | withCapacity words _ => words
  | resume words _ => words

/-- How many of them the writer may write. -/
def capacity : Opening → Nat
  | ofWords words => words.size
  | withCapacity words count => min count words.size
  | resume words _ => words.size

/-- The bits that the writer takes over. -/
def kept : Opening → List Bool
  | ofWords _ => []
  | withCapacity _ _ => []
  | resume words target => (Words.toBits words.toList).take target

def start : Opening → Writer
  | ofWords words => Writer.ofWords words
  | withCapacity words count => Writer.withCapacity words count
  | resume words target => Writer.resume words target

/-- `start`, guarded. -/
def start? : Opening → Option Writer
  | ofWords words => reset? ⟨words, min words.size words.size, 0, false⟩
  | withCapacity words count => reset? ⟨words, min count words.size, 0, false⟩
  | resume words target => seek? ⟨words, words.size, 0, false⟩ target

end Opening

/-- What a caller can do to a writer. -/
inductive Edit where
  | put (value : Word) (width : Nat)
  | seek (target : Nat)
  | reset
deriving DecidableEq, Repr

/-- No value is wider than a word. -/
def Edit.Narrow : Edit → Prop
  | put _ width => width ≤ 64
  | seek _ => True
  | reset => True

def apply (writer : Writer) : Edit → Writer
  | .put value width => writer.put value width
  | .seek target => writer.seek target
  | .reset => writer.reset

/-- `apply`, guarded. -/
def edited? (writer : Writer) : Edit → Option Writer
  | .put value width => writer.put? value width
  | .seek target => writer.seek? target
  | .reset => writer.reset?

def run (writer : Writer) (edits : List Edit) : Writer :=
  edits.foldl apply writer

/-- `run`, guarded. -/
def run? (writer : Writer) (edits : List Edit) : Option Writer :=
  edits.foldlM edited? writer

/-- A writer is the string of its first bits, cut at the capacity. -/
structure Cuts (writer : Writer) : Prop where
  inside : writer.position ≤ 64 * writer.capacity
  length : writer.toBits.length = 64 * writer.capacity
  /-- From the position on there are zeros. -/
  zeros : ∀ i, writer.position ≤ i → i < 64 * writer.capacity → writer.toBits[i]? = some false
  /-- A value is appended to the bits before the position; what does not fit is dropped. -/
  put : ∀ value width, width ≤ 64 →
    (writer.put value width).toBits =
        (writer.toBits.take writer.position ++ value.field width).takeD (64 * writer.capacity)
          false ∧
      (writer.put value width).position = min (writer.position + width) (64 * writer.capacity)
  /-- A seek keeps the bits before its target and zeroes the rest. -/
  seek : ∀ target,
    (writer.seek target).toBits =
        (writer.toBits.take target).takeD (64 * writer.capacity) false ∧
      (writer.seek target).position = min target (64 * writer.capacity)
  /-- A reset zeroes everything. -/
  reset : writer.reset.toBits = List.replicate (64 * writer.capacity) false ∧
    writer.reset.position = 0

theorem Sound.cuts {writer : Writer} (sound : writer.Sound) : writer.Cuts where
  inside := sound.inside
  length := length_toBits sound.owned
  zeros := by
    intro i after inside
    rw [getElem?_toBits sound.owned, if_pos inside, sound.blank i after inside]
  put value width narrow :=
    ⟨sound.toBits_put value narrow, (put_spec writer value narrow).position narrow sound.inside⟩
  seek target := ⟨toBits_seek sound.owned target, position_seek writer target⟩
  reset := ⟨toBits_reset sound.owned, rfl⟩

variable {writer : Writer} {edit : Edit} {edits : List Edit}

/-! ### One edit -/

theorem Sound.apply (sound : writer.Sound) (narrow : edit.Narrow) : (writer.apply edit).Sound := by
  cases edit with
  | put value width => exact sound.put value narrow
  | seek target => exact .seek sound.owned target
  | reset => exact .reset sound.owned

theorem capacity_apply (narrow : edit.Narrow) :
    (writer.apply edit).capacity = writer.capacity := by
  cases edit with
  | put value width => exact (put_spec writer value narrow).capacity
  | seek target => exact capacity_seek writer target
  | reset => rfl

theorem beyond_apply (narrow : edit.Narrow) {i : Nat} (behind : writer.capacity ≤ i) :
    (writer.apply edit).words[i]? = writer.words[i]? := by
  cases edit with
  | put value width => exact (put_spec writer value narrow).beyond behind
  | seek target => exact beyond_seek writer target behind
  | reset => exact beyond_reset writer behind

theorem edited?_eq_some (owned : writer.capacity ≤ writer.words.size) :
    writer.edited? edit = some (writer.apply edit) := by
  cases edit with
  | put value width => exact put?_eq_some owned value width
  | seek target => exact seek?_eq_some owned target
  | reset => exact reset?_eq_some owned

/-! ### The openings -/

namespace Opening

variable (opening : Opening)

theorem sound_start : opening.start.Sound := by
  cases opening with
  | ofWords words => exact .reset (Nat.min_le_right _ _)
  | withCapacity words count => exact .reset (Nat.min_le_right _ _)
  | resume words target => exact .seek (Nat.le_refl _) target

theorem capacity_start : opening.start.capacity = opening.capacity := by
  cases opening with
  | ofWords words => exact Nat.min_self _
  | withCapacity words count => rfl
  | resume words target => exact capacity_seek _ target

theorem truncated_start : opening.start.truncated = false := by
  cases opening with
  | ofWords words => rfl
  | withCapacity words count => rfl
  | resume words target => exact truncated_seek _ target

theorem toBits_start :
    opening.start.toBits = opening.kept.takeD (64 * opening.capacity) false := by
  cases opening with
  | ofWords words =>
      rw [start, Writer.ofWords, Writer.withCapacity, toBits_reset (Nat.min_le_right _ _)]
      simp [kept, capacity]
  | withCapacity words count =>
      rw [start, Writer.withCapacity, toBits_reset (Nat.min_le_right _ _)]
      simp [kept, capacity]
  | resume words target =>
      rw [start, Writer.resume, toBits_seek (Nat.le_refl _)]
      simp [kept, capacity, toBits_eq, ← Array.length_toList]

theorem position_start : opening.start.position = opening.kept.length := by
  cases opening with
  | ofWords words => rfl
  | withCapacity words count => rfl
  | resume words target =>
      rw [start, Writer.resume, position_seek, kept, List.length_take, Words.length_toBits,
        Array.length_toList]

theorem beyond_start {i : Nat} (behind : opening.capacity ≤ i) :
    opening.start.words[i]? = opening.words[i]? := by
  cases opening with
  | ofWords words => exact beyond_reset _ (by simpa [capacity] using behind)
  | withCapacity words count => exact beyond_reset _ behind
  | resume words target => exact beyond_seek _ target behind

theorem start?_eq_some : opening.start? = some opening.start := by
  cases opening with
  | ofWords words => exact reset?_eq_some (Nat.min_le_right _ _)
  | withCapacity words count => exact reset?_eq_some (Nat.min_le_right _ _)
  | resume words target => exact seek?_eq_some (Nat.le_refl _) target

end Opening

/-! ### Runs -/

theorem Sound.run (sound : writer.Sound) (narrow : ∀ edit ∈ edits, edit.Narrow) :
    (writer.run edits).Sound := by
  induction edits generalizing writer with
  | nil => exact sound
  | cons edit rest ih =>
      exact ih (sound.apply (narrow edit (by simp))) fun later among =>
        narrow later (List.mem_cons_of_mem edit among)

/-- A run does not reach behind the capacity, which it does not move. -/
theorem beyond_run (narrow : ∀ edit ∈ edits, edit.Narrow) :
    (writer.run edits).capacity = writer.capacity ∧
      ∀ i, writer.capacity ≤ i → (writer.run edits).words[i]? = writer.words[i]? := by
  induction edits generalizing writer with
  | nil => exact ⟨rfl, fun i behind => rfl⟩
  | cons edit rest ih =>
      have first : edit.Narrow := narrow edit (by simp)
      obtain ⟨capacity, words⟩ := @ih (writer.apply edit) fun later among =>
        narrow later (List.mem_cons_of_mem edit among)
      rw [capacity_apply first] at capacity words
      refine ⟨capacity, fun i behind => ?_⟩
      rw [← beyond_apply first behind]
      exact words i behind

theorem run?_eq_some (sound : writer.Sound) (narrow : ∀ edit ∈ edits, edit.Narrow) :
    writer.run? edits = some (writer.run edits) := by
  induction edits generalizing writer with
  | nil => rfl
  | cons edit rest ih =>
      rw [run?, List.foldlM_cons, edited?_eq_some sound.owned]
      exact ih (sound.apply (narrow edit (by simp))) fun later among =>
        narrow later (List.mem_cons_of_mem edit among)

/-! ### What gets lost -/

/-- Some put of a run loses a bit, and no reset comes behind it. -/
def Loses (writer : Writer) (edits : List Edit) : Prop :=
  ∃ earlier value width later,
    edits = earlier ++ .put value width :: later ∧ .reset ∉ later ∧
      64 * writer.capacity < (writer.run earlier).position + width

/-- The put is the first edit of the run, or it is in the rest. -/
theorem loses_cons (narrow : edit.Narrow) :
    writer.Loses (edit :: edits) ↔
      (∃ value width, edit = .put value width ∧ .reset ∉ edits ∧
        64 * writer.capacity < writer.position + width) ∨ (writer.apply edit).Loses edits := by
  constructor
  · rintro ⟨earlier, value, width, later, split, kept, lost⟩
    cases earlier with
    | nil =>
        obtain ⟨rfl, rfl⟩ := List.cons.inj split
        exact .inl ⟨value, width, rfl, kept, lost⟩
    | cons first earlier =>
        obtain ⟨rfl, rest⟩ := List.cons.inj split
        refine .inr ⟨earlier, value, width, later, rest, kept, ?_⟩
        rw [capacity_apply narrow]
        exact lost
  · rintro (⟨value, width, rfl, kept, lost⟩ | ⟨earlier, value, width, later, rest, kept, lost⟩)
    · exact ⟨[], value, width, edits, rfl, kept, lost⟩
    · rw [capacity_apply narrow] at lost
      exact ⟨edit :: earlier, value, width, later, by rw [rest]; rfl, kept, lost⟩

theorem truncated_run (sound : writer.Sound) (narrow : ∀ edit ∈ edits, edit.Narrow) :
    (writer.run edits).truncated = true ↔
      (writer.truncated = true ∧ .reset ∉ edits) ∨ writer.Loses edits := by
  induction edits generalizing writer with
  | nil =>
      have never : ¬ writer.Loses [] := by
        rintro ⟨earlier, value, width, later, split, -⟩
        simp at split
      simp [run, never]
  | cons edit rest ih =>
      have first : edit.Narrow := narrow edit (by simp)
      have step := ih (sound.apply first) fun later among =>
        narrow later (List.mem_cons_of_mem edit among)
      rw [loses_cons first]
      refine step.trans ?_
      cases edit with
      | put value width =>
          have ended := (put_spec writer value first).truncated first sound.inside
          simp only [apply, ended, Bool.or_eq_true, decide_eq_true_eq, List.mem_cons, reduceCtorEq,
            false_or, Edit.put.injEq]
          constructor
          · rintro (⟨before | now, kept⟩ | later)
            · exact .inl ⟨before, kept⟩
            · exact .inr (.inl ⟨value, width, ⟨rfl, rfl⟩, kept, now⟩)
            · exact .inr (.inr later)
          · rintro (⟨before, kept⟩ | ⟨_, _, ⟨rfl, rfl⟩, kept, now⟩ | later)
            · exact .inl ⟨.inl before, kept⟩
            · exact .inl ⟨.inr now, kept⟩
            · exact .inr later
      | seek target => simp [apply]
      | reset => simp [apply]

/-- After any edits a writer is a string of bits that is cut at its capacity. It starts out from
the bits it takes over, it is truncated if and only if a put since the last reset has lost a bit,
it leaves the words behind the capacity alone, and no step of its run touches a word that is not
there or shifts by a whole word. -/
theorem run_cuts (opening : Opening) (edits : List Edit)
    (narrow : ∀ edit ∈ edits, edit.Narrow) :
    let writer := opening.start.run edits
    opening.start.position = opening.kept.length ∧
      opening.start.toBits = opening.kept.takeD (64 * opening.capacity) false ∧
      writer.capacity = opening.capacity ∧
      writer.Cuts ∧
      (writer.truncated = true ↔ opening.start.Loses edits) ∧
      (∀ i, opening.capacity ≤ i → writer.words[i]? = opening.words[i]?) ∧
      opening.start?.bind (·.run? edits) = some writer := by
  have sound := opening.sound_start
  obtain ⟨capacity, beyond⟩ := @beyond_run opening.start edits narrow
  rw [opening.capacity_start] at capacity beyond
  refine ⟨opening.position_start, opening.toBits_start, capacity, (sound.run narrow).cuts, ?_, ?_,
    ?_⟩
  · rw [truncated_run sound narrow, opening.truncated_start]
    simp
  · intro i behind
    rw [beyond i behind]
    exact opening.beyond_start behind
  · rw [opening.start?_eq_some]
    exact run?_eq_some sound narrow

/-- Two of three words may be written: a value crosses from the first to the second, the next one
is cut at the end of the second, and the third word stays. -/
theorem run_cuts_across :
    let opening := Opening.withCapacity #[BitVec.allOnes 64, BitVec.allOnes 64, 7] 2
    let edits := [.put 0xabc 12, .seek 60, .put 0xabc 12, .put (BitVec.allOnes 64) 64]
    (opening.start.run edits).words = #[0xabc000000000000a, 0xbcffffffffffffff, 7] ∧
      (opening.start.run edits).Cuts ∧ opening.start.Loses edits := by
  intro opening edits
  have narrow : ∀ edit ∈ edits, edit.Narrow := by
    simp [edits, Edit.Narrow]
  obtain ⟨-, -, -, cuts, lost, -⟩ := run_cuts opening edits narrow
  exact ⟨by decide +kernel, cuts, lost.mp (by decide +kernel)⟩

end VideoAccel.Writer
