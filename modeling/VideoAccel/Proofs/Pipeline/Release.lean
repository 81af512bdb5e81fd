import VideoAccel.Proofs.Pipeline.Isolation

/-!
When a slot is given back.

A slot serves the task whose registers were built in it until it is freed, and only two calls free
it: a `start` that the device refuses, and a `wait` for which the device is asked (`Call.Frees`,
`Session.holds_run`). Each call looks at the error flags of the task value it is given, and a call
with error flags does neither. `Session.generated_freed_iff` follows a task from the `generate` that
took its slot to a `wait` that answers: a task whose flags are raised in between is reported as
skipped, and its slot stays taken.
-/

namespace VideoAccel

variable {δ α : Type}

/-- The call frees the slot of the given index. Either the slot's task is started and the device
refuses it, or the task is waited for after the device got it. -/
def Call.Frees [Device δ] (index : Nat) (session : Session δ α) : Call → Prop
  | start task =>
      task.flags.hasError = false ∧ ∃ slot fault device, session.Owns task .built index slot ∧
        Session.transmit slot.content session.board.device = .error fault device
  | wait task =>
      task.flags.hasError = false ∧ ∃ slot, session.Owns task .submitted index slot
  | _ => False

/-- The call freed the slot of the given index. -/
def Moment.Frees [Device δ] (index : Nat) (moment : Moment δ α) : Prop :=
  ∃ session, moment.before = .working session ∧ moment.call.Frees index session

namespace Session

variable {session later : Session δ α} {task : Task} {index id : Nat}

theorem holds_congr {a b : Session δ α} (same : a.slots.get? index = b.slots.get? index)
    (id : Nat) : a.holds index id = b.holds index id := by
  unfold holds
  rw [same]

/-- Of a slot that was put in place one reads off whom it serves. -/
theorem holds_of_put {before after : Session δ α} {own : Nat} {old slot : Slot SlotContent}
    (found : before.slots.get? own = some old) (slots : after.slots = before.slots.put own slot) :
    after.holds own id = (slot.taken && slot.content.task == some id) := by
  unfold holds
  rw [slots, SlotPool.get?_put_self found]
  rfl

theorem holds_of_put_of_ne {before after : Session δ α} {own : Nat} {slot : Slot SlotContent}
    (slots : after.slots = before.slots.put own slot) (ne : own ≠ index) (id : Nat) :
    after.holds index id = before.holds index id := by
  apply holds_congr
  rw [slots]
  exact SlotPool.get?_put_of_ne _ ne slot

/-! ### One call -/

/-- Building registers for another task does not change whether a slot serves this one. -/
theorem Generates.holds [Allocator α] {outcome : Except Fault Task}
    (generates : Generates session task outcome later) (other : task.id ≠ id) :
    later.holds index id = session.holds index id := by
  -- A slot that is free before, and serves no task or another one afterwards.
  have settled : ∀ {own : Nat} {slot put : Slot SlotContent}, session.slots.FirstFree own slot →
      later.slots = session.slots.put own put →
      (put.taken && put.content.task == some id) = false →
      later.holds index id = session.holds index id := by
    intro own slot put first slots unserved
    by_cases here : own = index
    · subst here
      rw [holds_of_put first.found slots, unserved]
      unfold Session.holds
      rw [first.found, Option.any_some, first.free, Bool.false_and]
    · exact holds_of_put_of_ne slots here id
  cases generates with
  | skipped flagged journal => rfl
  | held unflagged names holds => rfl
  | full unflagged unheld busy => rfl
  | failed unflagged unheld first prepares journal => exact settled first rfl rfl
  | built unflagged unheld first prepares journal =>
      refine settled first rfl ?_
      rw [prepares.serves, Bool.true_and, beq_eq_false_iff_ne]
      exact fun same => other (Option.some.inj same)

/-- A task that `generate` gave a slot has it. -/
theorem Generates.holds_own [Allocator α] {owned : Task}
    (generates : Generates session task (.ok owned) later) (took : owned.slot = some index) :
    later.holds index task.id = true := by
  cases generates with
  | skipped flagged journal => cases took
  | built unflagged unheld first prepares journal =>
      cases took
      exact holds_iff.mpr ⟨_, SlotPool.get?_put_self first.found _, rfl, prepares.serves⟩

section Hardware

variable [Device δ]

theorem Starts.holds_iff {outcome : Except Fault Unit} (starts : Starts session task outcome later) :
    later.holds index id = true ↔
      session.holds index id = true ∧ ¬ (Call.start task).Frees index session := by
  cases starts with
  | skipped flagged journal =>
      refine (and_iff_left ?_).symm
      rintro ⟨unflagged, -⟩
      cases flagged.symm.trans unflagged
  | refused unflagged misdirected kind =>
      refine (and_iff_left ?_).symm
      rintro ⟨-, slot, -, -, owns, -⟩
      exact misdirected index slot owns
  | @failed unflagged own slot owns fault device refused journal =>
      by_cases here : own = index
      · subst here
        rw [holds_of_put owns.found rfl]
        constructor
        · intro impossible
          cases impossible
        · rintro ⟨-, kept⟩
          exact absurd ⟨unflagged, slot, fault, device, owns, refused⟩ kept
      · rw [holds_of_put_of_ne rfl here]
        refine (and_iff_left ?_).symm
        rintro ⟨-, mine, -, -, there, -⟩
        exact here (owns.unique there).1
  | @started unflagged own slot owns device accepted journal =>
      have spared : ¬ (Call.start task).Frees index session := by
        rintro ⟨-, mine, fault, left, there, refused⟩
        obtain ⟨-, rfl⟩ := owns.unique there
        cases accepted.symm.trans refused
      rw [and_iff_left spared]
      by_cases here : own = index
      · subst here
        rw [holds_of_put owns.found rfl]
        unfold Session.holds
        rw [owns.found, Option.any_some, owns.taken]
      · rw [holds_of_put_of_ne rfl here]

theorem Waits.holds_iff {outcome : Except Fault Unit} (waits : Waits session task outcome later) :
    later.holds index id = true ↔
      session.holds index id = true ∧ ¬ (Call.wait task).Frees index session := by
  -- The task's own slot is free afterwards, and the others are as before.
  have idled : ∀ {own : Nat} {slot : Slot SlotContent} {content : SlotContent},
      task.flags.hasError = false → session.Owns task .submitted own slot →
      later.slots = session.slots.put own ⟨false, .idle, content⟩ →
      (later.holds index id = true ↔
        session.holds index id = true ∧ ¬ (Call.wait task).Frees index session) := by
    intro own slot content unflagged owns slots
    by_cases here : own = index
    · subst here
      rw [holds_of_put owns.found slots]
      constructor
      · intro impossible
        cases impossible
      · rintro ⟨-, kept⟩
        exact absurd ⟨unflagged, slot, owns⟩ kept
    · rw [holds_of_put_of_ne slots here]
      refine (and_iff_left ?_).symm
      rintro ⟨-, mine, there⟩
      exact here (owns.unique there).1
  cases waits with
  | skipped flagged =>
      rw [holds_congr (congrArg (SlotPool.get? · index) (reported_slots session (.skip task)))]
      refine (and_iff_left ?_).symm
      rintro ⟨unflagged, -⟩
      cases flagged.symm.trans unflagged
  | refused unflagged misdirected kind =>
      refine (and_iff_left ?_).symm
      rintro ⟨-, slot, owns⟩
      exact misdirected index slot owns
  | lost unflagged owns silent journal => exact idled unflagged owns (reported_slots _ _)
  | finished unflagged owns collected stored journal =>
      exact idled unflagged owns (reported_slots _ _)

/-- A `wait` that answers is for a task with error flags, or it frees the slot that the task names:
then one slot fewer is in use. -/
theorem wait_frees_iff (names : task.slot = some index)
    (waited : wait task session = .ok () later) :
    ((Call.wait task).Frees index session ↔ task.flags.hasError = false) ∧
    (later.slots.inUse + 1 = session.slots.inUse ↔ task.flags.hasError = false) := by
  have ended := wait_spec session task
  rw [waited, Action.outcome_ok, Action.after_ok] at ended
  cases ended with
  | skipped flagged =>
      rw [reported_slots, flagged]
      refine ⟨⟨?_, nofun⟩, ⟨?_, nofun⟩⟩
      · rintro ⟨unflagged, -⟩
        cases flagged.symm.trans unflagged
      · intro impossible
        omega
  | @finished unflagged own held owns status file device collected stored journal =>
      obtain rfl : own = index := Option.some.inj (owns.names.symm.trans names)
      have counted := SlotPool.inUse_put owns.found
        ⟨false, .idle, held.content.withFile (Layout.status.set 0 file)⟩
      rw [owns.taken] at counted
      rw [reported_slots]
      exact ⟨⟨fun _ => unflagged, fun _ => ⟨unflagged, held, owns⟩⟩,
        ⟨fun _ => unflagged, fun _ => counted⟩⟩

variable [Allocator α]

/-- A call that builds no registers for a task leaves a slot to it, unless it frees the slot; and no
such call gives it another one. -/
theorem holds_next (session : Session δ α) (index : Nat) {call : Call}
    (elsewhere : call.BuildsElsewhere id) :
    ∃ later, call.next (.working session) = .working later ∧
      (later.holds index id = true ↔
        session.holds index id = true ∧ ¬ call.Frees index session) := by
  have same : ∀ {later : Session δ α} {call : Call}, later.slots = session.slots →
      ¬ call.Frees index session → (later.holds index id = true ↔
        session.holds index id = true ∧ ¬ call.Frees index session) := by
    intro later call slots spared
    rw [and_iff_left spared, holds_congr (congrArg (SlotPool.get? · index) slots)]
  cases call with
  | generate task =>
      refine ⟨_, Call.next_generate task session, ?_⟩
      rw [(generate_spec session task).holds elsewhere]
      exact (and_iff_left False.elim).symm
  | start task => exact ⟨_, Call.next_start task session, (start_spec session task).holds_iff⟩
  | wait task => exact ⟨_, Call.next_wait task session, (wait_spec session task).holds_iff⟩
  | control command =>
      obtain ⟨stride, journal, ran⟩ := control_run command session
      refine ⟨_, Call.next_control command session, same ?_ False.elim⟩
      rw [ran]
      rfl
  | reset => exact ⟨_, Call.next_reset session, same rfl False.elim⟩
  | flush => exact ⟨_, Call.next_flush session, same rfl False.elim⟩
  | initialise config reporting => exact False.elim elsewhere
  | release => exact False.elim elsewhere

/-! ### From the first call of a task to its last -/

/-- A slot serves a task exactly as long as no call frees it. -/
theorem holds_run {surroundings : Board δ α → Board δ α → Prop} {moments : List (Moment δ α)}
    {decoder : Decoder δ α} (run : Run surroundings (.working session) moments decoder)
    (elsewhere : ∀ moment ∈ moments, moment.call.BuildsElsewhere id)
    (held : session.holds index id = true) :
    ∃ later, decoder = .working later ∧
      (later.holds index id = true ↔ ∀ moment ∈ moments, ¬ moment.Frees index) := by
  induction run with
  | nil => exact ⟨session, rfl, fun _ _ => nofun, fun _ => held⟩
  | outside earlier allowed ih =>
      obtain ⟨middle, rfl, kept⟩ := ih elsewhere
      exact ⟨_, rfl, kept⟩
  | @call moments decoder earlier call ih =>
      obtain ⟨middle, rfl, kept⟩ := ih fun moment member =>
        elsewhere moment (List.mem_append_left _ member)
      obtain ⟨later, next, held⟩ := middle.holds_next index
        (elsewhere _ (List.mem_append_right _ (List.mem_singleton_self _)))
      refine ⟨later, next, ?_⟩
      have last : Moment.Frees index ⟨.working middle, call⟩ ↔ call.Frees index middle := by
        constructor
        · rintro ⟨session, same, frees⟩
          cases same
          exact frees
        · exact fun frees => ⟨middle, rfl, frees⟩
      rw [held, kept, ← last]
      simp only [List.mem_append, List.mem_singleton, or_imp, forall_and, forall_eq]

/-- An upstream error may block a slot. Take a task that `generate` gave a slot, and any calls since
that build no registers for a task of its number, with whatever error flags. A `wait` for the task
that answers lowers the number of slots in use by one if and only if the task carries no error flags
at that `wait`. Then, or if a call in between freed the slot already, no slot serves a task of its
number, unless another one did before. -/
theorem generated_freed_iff {surroundings : Board δ α → Board δ α → Prop}
    {before session later final : Session δ α} {task owned : Task} {index : Nat}
    (generated : generate task before = .ok owned session) (took : owned.slot = some index)
    {moments : List (Moment δ α)} (run : Run surroundings (.working session) moments (.working later))
    (elsewhere : ∀ moment ∈ moments, moment.call.BuildsElsewhere task.id) {flags : TaskFlags}
    (waited : wait { owned with flags } later = .ok () final) :
    (final.slots.inUse + 1 = later.slots.inUse ↔ flags.hasError = false) ∧
    ((∀ other, final.holds other task.id = false) ↔
      (flags.hasError = false ∨ ∃ moment ∈ moments, moment.Frees index) ∧
        ∀ other, other ≠ index → later.holds other task.id = false) := by
  have built := generate_spec before task
  rw [generated, Action.outcome_ok, Action.after_ok] at built
  obtain ⟨same, eq, kept⟩ := holds_run run elsewhere (built.holds_own took)
  cases eq
  have names : ({ owned with flags } : Task).slot = some index := took
  obtain ⟨frees, counted⟩ := wait_frees_iff names waited
  have ended := wait_spec later { owned with flags }
  rw [waited, Action.outcome_ok, Action.after_ok] at ended
  have own : final.holds index task.id = true ↔
      (∀ moment ∈ moments, ¬ moment.Frees index) ∧ ¬ flags.hasError = false := by
    rw [ended.holds_iff, kept, frees]
  have others : ∀ other, other ≠ index → final.holds other task.id = later.holds other task.id := by
    intro other ne
    rw [Bool.eq_iff_iff, ended.holds_iff]
    refine and_iff_left ?_
    rintro ⟨-, slot, owns⟩
    exact ne (Option.some.inj (owns.names.symm.trans took))
  refine ⟨counted, ?_, ?_⟩
  · intro free
    refine ⟨?_, fun other ne => (others other ne).symm.trans (free other)⟩
    refine Classical.byContradiction fun neither => ?_
    have held := own.mpr ⟨fun moment member freed => neither (.inr ⟨moment, member, freed⟩),
      fun clear => neither (.inl clear)⟩
    rw [free index] at held
    cases held
  · rintro ⟨lost, free⟩ other
    by_cases here : other = index
    · subst here
      rw [← Bool.not_eq_true, own]
      rintro ⟨kept, flagged⟩
      rcases lost with clear | ⟨moment, member, freed⟩
      · exact flagged clear
      · exact kept moment member freed
    · exact (others other here).trans (free other here)

/-- On a board at rest the first picture gets its slot back from a `wait` without error flags and
keeps it through a `wait` with them. -/
theorem first_picture_freed_unless_flagged :
    ∃ started freed kept : Session SimulatedDevice Arena,
      wait ((Task.ofSize 0 64 64).placed 0) started = .ok () freed ∧
      freed.slots.inUse + 1 = started.slots.inUse ∧
      wait { (Task.ofSize 0 64 64).placed 0 with flags := ⟨false, true⟩ } started = .ok () kept ∧
      kept.slots.inUse + 1 ≠ started.slots.inUse ∧ ∃ index, kept.holds index 0 = true := by
  obtain ⟨opened, built, started, content, -, generated, -, serves, submitted, able, -, there,
    inFlight, -⟩ := first_picture fun _ _ => False
  have run : Run (fun _ _ => False) (.working built) _ _ :=
    .call .nil (.start ((Task.ofSize 0 64 64).placed 0))
  rw [Call.next_start, submitted, Action.after_ok] at run
  have elsewhere : ∀ moment ∈ ([] ++ [⟨.working built,
      .start ((Task.ofSize 0 64 64).placed 0)⟩] : List (Moment SimulatedDevice Arena)),
      moment.call.BuildsElsewhere 0 := by
    intro moment member
    rw [List.mem_singleton.mp member]
    trivial
  have owns : started.Owns ((Task.ofSize 0 64 64).placed 0) .submitted 0
      ⟨true, .submitted, content⟩ := ⟨rfl, there, rfl, serves, rfl⟩
  obtain ⟨device, file, journal, -, waited, -⟩ := wait_of_able able rfl owns inFlight
  have skipped : wait { (Task.ofSize 0 64 64).placed 0 with flags := ⟨false, true⟩ } started =
      .ok () (started.reported
        (.skip { (Task.ofSize 0 64 64).placed 0 with flags := ⟨false, true⟩ })) :=
    wait_of_flagged rfl started
  obtain ⟨freed, -⟩ := generated_freed_iff generated rfl run elsewhere waited
  obtain ⟨counted, -⟩ := generated_freed_iff generated rfl run elsewhere skipped
  refine ⟨started, _, _, waited, freed.mpr rfl, skipped, ?_, 0, ?_⟩
  · intro freed
    cases counted.mp freed
  · rw [holds_congr (congrArg (SlotPool.get? · 0) (reported_slots _ _))]
    exact holds_iff.mpr ⟨_, there, rfl, serves⟩

end Hardware

end Session

end VideoAccel
