import VideoAccel.Picture.References

/-!
Which pictures the hardware's reference slots are filled with.

A slot whose row of the table is present holds that row; any other holds a stand-in, from the nearest
present row before it, however far back, or from the current picture (`Picture.fills_resolved`). The
stand-in for damaged areas is the least of the candidates by frame number, the first of them if several
share it, and comes from the first reference slot if there is no candidate (`Picture.conceals_resolved`).
Both hold for any number of slots and any picture store.
-/

namespace VideoAccel

namespace Picture

variable {picture : Picture} {frame? : Nat → Option FrameBuffer} {count index : Nat}

theorem reference?_eq_some_iff {frame : ReferenceFrame} :
    picture.reference? index = some frame ↔
      picture.references[index]? = some frame ∧ frame.present = true := by
  unfold reference?
  rw [Option.filter_eq_some_iff]

/-! ### Stand-ins for missing references -/

/-- The slot of the nearest present row from `start` on and before `index`, or `near` if there is
none. -/
inductive Nearest (picture : Picture) (near start index : Nat) : Nat → Prop where
  | row {before : Nat} {frame : ReferenceFrame} (low : start ≤ before) (high : before < index)
      (found : picture.reference? before = some frame)
      (last : ∀ between, before < between → between < index →
        picture.reference? between = none) :
      Nearest picture near start index frame.slot
  | current (absent : ∀ before, start ≤ before → before < index →
      picture.reference? before = none) : Nearest picture near start index near

/-- What reference slot `index` is to hold when the slots from `start` on are filled. -/
inductive Fills (picture : Picture) (near start index : Nat) : ResolvedReference → Prop where
  | row {frame : ReferenceFrame} (found : picture.references[index]? = some frame)
      (present : frame.present = true) :
      Fills picture near start index
        { present := true, slot := frame.slot, isField := frame.isField, topUsed := frame.topUsed,
          bottomUsed := frame.bottomUsed, motionUsed := frame.motionUsed,
          topOrder := frame.topOrder, bottomOrder := frame.bottomOrder }
  | standIn {slot : Nat}
      (absent : ∀ frame, picture.references[index]? = some frame → frame.present = false)
      (nearest : Nearest picture near start index slot) :
      Fills picture near start index
        { present := false, slot, isField := false, topUsed := false, bottomUsed := false,
          motionUsed := false, topOrder := 0, bottomOrder := 0 }

variable {near start : Nat} {entry : ResolvedReference}

/-- A missing first row changes nothing for the rows behind it. -/
theorem Nearest.of_absent {slot : Nat} (nearest : Nearest picture near (start + 1) index slot)
    (absent : picture.reference? start = none) : Nearest picture near start index slot := by
  cases nearest with
  | row low high found last => exact .row (Nat.le_of_succ_le low) high found last
  | current others =>
      refine .current fun before low high => ?_
      rcases Nat.eq_or_lt_of_le low with rfl | later
      · exact absent
      · exact others before later high

/-- A present first row is the nearest one if there is no other. -/
theorem Nearest.of_found {slot : Nat} {frame : ReferenceFrame}
    (nearest : Nearest picture frame.slot (start + 1) index slot)
    (found : picture.reference? start = some frame) (inside : start < index) :
    Nearest picture near start index slot := by
  cases nearest with
  | row low high found last => exact .row (Nat.le_of_succ_le low) high found last
  | current others =>
      exact .row (Nat.le_refl start) inside found fun between low high => others between low high

theorem Fills.mono {other next : Nat} (fills : Fills picture other next index entry)
    (carry : ∀ slot, Nearest picture other next index slot → Nearest picture near start index slot) :
    Fills picture near start index entry := by
  cases fills with
  | row found present => exact .row found present
  | standIn absent nearest => exact .standIn absent (carry _ nearest)

theorem Fills.first (absent : picture.reference? start = none) :
    Fills picture near start start (.standIn near) := by
  refine .standIn (fun frame found => ?_) (.current fun before low high => absurd low (by omega))
  rw [← Bool.not_eq_true]
  intro present
  cases absent.symm.trans (reference?_eq_some_iff.mpr ⟨found, present⟩)

/-- Filling goes through the rows once; the slot it carries along is that of the nearest present row
so far. -/
theorem fills_fillReferences (picture : Picture) (near start count : Nat) {offset : Nat}
    (found : (picture.fillReferences near (List.range' start count))[offset]? = some entry) :
    Fills picture near start (start + offset) entry := by
  induction count generalizing near start offset with
  | zero => cases found
  | succ count ih =>
      rw [List.range'_succ, fillReferences] at found
      cases row : picture.reference? start with
      | some frame =>
          rw [row] at found
          cases offset with
          | zero =>
              cases found
              obtain ⟨there, present⟩ := reference?_eq_some_iff.mp row
              exact .row there present
          | succ offset =>
              rw [show start + (offset + 1) = start + 1 + offset by omega]
              exact (ih frame.slot (start + 1) found).mono fun slot nearest =>
                nearest.of_found row (by omega)
      | none =>
          rw [row] at found
          cases offset with
          | zero =>
              cases found
              exact .first row
          | succ offset =>
              rw [show start + (offset + 1) = start + 1 + offset by omega]
              exact (ih near (start + 1) found).mono fun slot nearest => nearest.of_absent row

/-- As many reference slots are filled as there are, each with its row or a stand-in for it. -/
theorem fills_resolved (picture : Picture) (frame? : Nat → Option FrameBuffer) (count : Nat) :
    (picture.resolveReferences frame? count).slots.length = count ∧
    ∀ index entry, (picture.resolveReferences frame? count).slots[index]? = some entry →
      Fills picture picture.slot 0 index entry := by
  constructor
  · show (picture.fillReferences picture.slot (List.range count)).length = count
    rw [length_fillReferences, List.length_range]
  · intro index entry found
    have slots : (picture.fillReferences picture.slot (List.range' 0 count))[index]? = some entry :=
      List.range_eq_range' ▸ found
    exact Nat.zero_add index ▸ fills_fillReferences picture picture.slot 0 count slots

/-- The slot is that of the current picture or of a present row. -/
def Names (picture : Picture) (slot : Nat) : Prop :=
  slot = picture.slot ∨ ∃ index frame, picture.reference? index = some frame ∧ frame.slot = slot

/-- No reference slot is filled from anywhere else. -/
theorem Fills.names (fills : Fills picture picture.slot start index entry) :
    picture.Names entry.slot := by
  cases fills with
  | row found present => exact .inr ⟨index, _, reference?_eq_some_iff.mpr ⟨found, present⟩, rfl⟩
  | standIn absent nearest =>
      cases nearest with
      | row low high found last => exact .inr ⟨_, _, found, rfl⟩
      | current absent => exact .inl rfl

/-! ### The stand-in for damaged areas -/

/-- The row may stand in for damaged areas: it is among the first `count`, present, its picture is
known and sound, and precedes the current one in frame number. -/
structure Candidate (picture : Picture) (frame? : Nat → Option FrameBuffer) (count index : Nat)
    (frame : ReferenceFrame) : Prop where
  inside : index < count
  found : picture.references[index]? = some frame
  present : frame.present = true
  sound : ∃ buffer, frame? frame.slot = some buffer ∧ buffer.damaged = false
  earlier : frame.frameNumber < picture.frameNumber

/-- The row has the least frame number of all candidates, and is the first of those that share it. -/
structure Conceals (picture : Picture) (frame? : Nat → Option FrameBuffer) (count index : Nat)
    (frame : ReferenceFrame) : Prop where
  candidate : Candidate picture frame? count index frame
  least : ∀ other row, Candidate picture frame? count other row →
    frame.frameNumber < row.frameNumber ∨ frame.frameNumber = row.frameNumber ∧ index ≤ other

theorem mayConceal_iff {frame : ReferenceFrame} : picture.mayConceal frame? frame = true ↔
    (∃ buffer, frame? frame.slot = some buffer ∧ buffer.damaged = false) ∧
      frame.frameNumber < picture.frameNumber := by
  unfold mayConceal
  rw [Bool.and_eq_true, decide_eq_true_iff, Option.any_eq_true]
  simp only [Bool.not_eq_true']

theorem candidate_iff {frame : ReferenceFrame} : Candidate picture frame? count index frame ↔
    index < count ∧ picture.reference? index = some frame ∧
      picture.mayConceal frame? frame = true := by
  rw [reference?_eq_some_iff, mayConceal_iff]
  constructor
  · rintro ⟨inside, found, present, sound, earlier⟩
    exact ⟨inside, ⟨found, present⟩, sound, earlier⟩
  · rintro ⟨inside, ⟨found, present⟩, sound, earlier⟩
    exact ⟨inside, found, present, sound, earlier⟩

theorem Candidate.of_succ {frame : ReferenceFrame}
    (candidate : Candidate picture frame? (count + 1) index frame) :
    Candidate picture frame? count index frame ∨
      index = count ∧ picture.reference? count = some frame ∧
        picture.mayConceal frame? frame = true := by
  obtain ⟨inside, found, may⟩ := candidate_iff.mp candidate
  rcases Nat.lt_succ_iff_lt_or_eq.mp inside with before | rfl
  · exact .inl (candidate_iff.mpr ⟨before, found, may⟩)
  · exact .inr ⟨rfl, found, may⟩

/-- One more row matters only if it may stand in, and then only against the best one so far. -/
theorem concealment_succ (picture : Picture) (frame? : Nat → Option FrameBuffer) (count : Nat) :
    picture.concealment frame? (count + 1) =
      match (picture.reference? count).filter (picture.mayConceal frame?) with
      | none => picture.concealment frame? count
      | some frame => betterConcealment (picture.concealment frame? count) frame := by
  unfold concealment
  simp only [List.range_succ, List.filterMap_append, List.filter_append, List.foldl_append]
  cases row : picture.reference? count with
  | none => simp [row]
  | some frame =>
      cases may : picture.mayConceal frame? frame <;> simp [row, may, Option.filter]

/-- What the search among the first `count` rows found. -/
def Settled (picture : Picture) (frame? : Nat → Option FrameBuffer) (count : Nat) :
    Option ReferenceFrame → Prop
  | none => ∀ index frame, ¬ Candidate picture frame? count index frame
  | some frame => ∃ index, Conceals picture frame? count index frame

/-- A row that may not stand in makes no difference. -/
theorem Settled.pass {best : Option ReferenceFrame} (settled : Settled picture frame? count best)
    (unfit : ∀ frame, picture.reference? count = some frame →
      picture.mayConceal frame? frame = false) : Settled picture frame? (count + 1) best := by
  have before : ∀ {index frame}, Candidate picture frame? (count + 1) index frame →
      Candidate picture frame? count index frame := by
    intro index frame candidate
    rcases candidate.of_succ with old | ⟨-, found, may⟩
    · exact old
    · cases (unfit frame found).symm.trans may
  cases best with
  | none => exact fun index frame candidate => settled index frame (before candidate)
  | some best =>
      obtain ⟨index, candidate, least⟩ := settled
      exact ⟨index, { candidate with inside := Nat.lt_succ_of_lt candidate.inside },
        fun other row rival => least other row (before rival)⟩

/-- A row that may stand in is taken if it is the first, or has a smaller frame number than all before
it. -/
theorem Settled.take {best : Option ReferenceFrame} {frame : ReferenceFrame}
    (settled : Settled picture frame? count best) (found : picture.reference? count = some frame)
    (may : picture.mayConceal frame? frame = true) :
    Settled picture frame? (count + 1) (betterConcealment best frame) := by
  have new : Candidate picture frame? (count + 1) count frame :=
    candidate_iff.mpr ⟨Nat.lt_succ_self count, found, may⟩
  have own : ∀ {row}, picture.reference? count = some row → row = frame := fun there =>
    Option.some.inj (there.symm.trans found)
  cases best with
  | none =>
      refine ⟨count, new, fun other row rival => ?_⟩
      rcases rival.of_succ with old | ⟨rfl, there, -⟩
      · exact absurd old (settled other row)
      · rw [own there]
        exact .inr ⟨rfl, Nat.le_refl _⟩
  | some best =>
      obtain ⟨index, candidate, least⟩ := settled
      unfold betterConcealment
      by_cases smaller : frame.frameNumber < best.frameNumber
      · simp only [smaller, if_true]
        refine ⟨count, new, fun other row rival => ?_⟩
        rcases rival.of_succ with old | ⟨rfl, there, -⟩
        · left
          rcases least other row old with less | ⟨same, -⟩
          · exact Nat.lt_trans smaller less
          · exact same ▸ smaller
        · rw [own there]
          exact .inr ⟨rfl, Nat.le_refl _⟩
      · simp only [smaller, if_false]
        refine ⟨index, { candidate with inside := Nat.lt_succ_of_lt candidate.inside },
          fun other row rival => ?_⟩
        rcases rival.of_succ with old | ⟨rfl, there, -⟩
        · exact least other row old
        · rw [own there]
          rcases Nat.lt_or_eq_of_le (Nat.not_lt.mp smaller) with less | same
          · exact .inl less
          · exact .inr ⟨same, Nat.le_of_lt candidate.inside⟩

theorem settled_concealment (picture : Picture) (frame? : Nat → Option FrameBuffer) (count : Nat) :
    Settled picture frame? count (picture.concealment frame? count) := by
  induction count with
  | zero => exact fun index frame candidate => absurd candidate.inside (Nat.not_lt_zero index)
  | succ count ih =>
      rw [concealment_succ]
      cases row : (picture.reference? count).filter (picture.mayConceal frame?) with
      | none =>
          refine ih.pass fun frame found => ?_
          rw [found, Option.filter_some] at row
          cases may : picture.mayConceal frame? frame with
          | false => rfl
          | true => simp [may] at row
      | some frame =>
          obtain ⟨found, may⟩ := Option.filter_eq_some_iff.mp row
          exact ih.take found may

/-- Damaged areas are concealed from the first of the candidates with the least frame number. Without
a candidate it is the first reference slot that serves, or the current picture where there are no
reference slots. -/
theorem conceals_resolved (picture : Picture) (frame? : Nat → Option FrameBuffer) (count : Nat) :
    (∃ index frame, Conceals picture frame? count index frame ∧
      (picture.resolveReferences frame? count).concealSlot = frame.slot) ∨
    (∀ index frame, ¬ Candidate picture frame? count index frame) ∧
      (count = 0 ∧ (picture.resolveReferences frame? count).concealSlot = picture.slot ∨
        ∃ first, (picture.resolveReferences frame? count).slots[0]? = some first ∧
          (picture.resolveReferences frame? count).concealSlot = first.slot) := by
  have settled := settled_concealment picture frame? count
  cases best : picture.concealment frame? count with
  | some frame =>
      rw [best] at settled
      obtain ⟨index, conceals⟩ := settled
      refine .inl ⟨index, frame, conceals, ?_⟩
      simp only [resolveReferences, best, Option.map_some, Option.getD_some]
  | none =>
      rw [best] at settled
      refine .inr ⟨settled, ?_⟩
      have length := (fills_resolved picture frame? count).1
      have shown : (picture.resolveReferences frame? count).concealSlot =
          ((picture.resolveReferences frame? count).slots.head?.map (·.slot)).getD picture.slot := by
        simp only [resolveReferences, best, Option.map_none, Option.getD_none]
      rw [shown]
      cases slots : (picture.resolveReferences frame? count).slots with
      | nil =>
          rw [slots] at length
          exact .inl ⟨length.symm, rfl⟩
      | cons first rest => exact .inr ⟨first, rfl, rfl⟩

end Picture

end VideoAccel
