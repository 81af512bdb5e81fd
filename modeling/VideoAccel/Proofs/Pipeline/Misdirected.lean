import VideoAccel.Device.Injection
import VideoAccel.Proofs.Pipeline.Refusals

/-!
Calls that come at the wrong time.

A caller keeps its task after the slot it names went to another one. Whatever such a task says, `start`
and `wait` look the slot up: they go on only if it serves the task and is in the right stage, and are
refused otherwise, without a trace (`Decoder.misdirected`). What makes a task startable, or lets it
hold its slot, is a `generate` for its number and nothing else (`Run.stands`), so that after a `start`
there is no second one before the next `generate`, and after a `wait` no second `wait`.
-/

namespace VideoAccel

/-! ### Devices that blame no caller -/

namespace Action

variable {σ τ β γ : Type} {kind : FaultKind}

/-- The action is never refused with a fault of this kind. -/
def Avoids (kind : FaultKind) (action : Action σ β) : Prop :=
  ∀ state fault after, action state = .error fault after → fault.kind ≠ kind

theorem Avoids.pure (value : β) : Avoids kind (pure value : Action σ β) :=
  fun _ _ _ => nofun

theorem Avoids.bind {action : Action σ β} {next : β → Action σ γ} (first : Avoids kind action)
    (rest : ∀ value, Avoids kind (next value)) : Avoids kind (action >>= next) := by
  intro state fault after refused
  cases ran : action state with
  | error fault middle =>
      rw [bind_of_error ran] at refused
      cases refused
      exact first _ _ _ ran
  | ok value middle =>
      rw [bind_of_ok ran] at refused
      exact rest value _ _ _ refused

theorem Avoids.forM (list : List β) {action : β → Action σ PUnit}
    (each : ∀ item, Avoids kind (action item)) : Avoids kind (list.forM action) := by
  induction list with
  | nil => exact .pure _
  | cons item rest ih => exact .bind (each item) fun _ => ih

theorem Avoids.on {action : Action τ β} (avoids : Avoids kind action) (get : σ → τ)
    (put : τ → σ → σ) : Avoids kind (on get put action) := by
  intro state fault after refused
  cases ran : action (get state) with
  | ok value part =>
      rw [on_of_ok ran] at refused
      cases refused
  | error fault part =>
      rw [on_of_error ran] at refused
      cases refused
      exact avoids _ _ _ ran

end Action

/-- No request to the device is refused as a call that came at the wrong time. -/
class BlamesNoCaller (δ : Type) [Device δ] : Prop where
  writeRegisters : ∀ offset data,
    Action.Avoids .invalidState (Device.writeRegisters offset data : Action δ Unit)
  readRegisters : ∀ offset length,
    Action.Avoids .invalidState (Device.readRegisters offset length : Action δ Bytes)
  announceLineBuffers : ∀ entries,
    Action.Avoids .invalidState (Device.announceLineBuffers entries : Action δ Unit)
  announcePatches : ∀ table,
    Action.Avoids .invalidState (Device.announcePatches table : Action δ Unit)
  send : Action.Avoids .invalidState (Device.send : Action δ Unit)
  poll : Action.Avoids .invalidState (Device.poll : Action δ Unit)

instance : BlamesNoCaller SimulatedDevice where
  writeRegisters offset data device fault after refused := by
    change SimulatedDevice.writeRegisters offset data device = _ at refused
    unfold SimulatedDevice.writeRegisters at refused
    split at refused
    · cases refused
    · cases refused
      exact nofun
  readRegisters offset length device fault after refused := by
    change SimulatedDevice.readRegisters offset length device = _ at refused
    unfold SimulatedDevice.readRegisters at refused
    split at refused
    · cases refused
    · cases refused
      exact nofun
  announceLineBuffers entries _ _ _ := nofun
  announcePatches table _ _ _ := nofun
  send _ _ _ := nofun
  poll device fault after refused := by
    change SimulatedDevice.poll device = _ at refused
    unfold SimulatedDevice.poll at refused
    simp only at refused
    split at refused
    · cases refused
      exact nofun
    · split at refused
      · cases refused
        exact nofun
      · cases refused

/-- A disturbed request is refused as a fault of the device. -/
theorem Disturbed.avoids_guarded {σ β : Type} (disturbance : Disturbance) {action : Action σ β}
    (avoids : Action.Avoids .invalidState action) :
    Action.Avoids .invalidState (guarded disturbance action) := by
  refine .bind (fun _ _ _ => nofun) fun passes => ?_
  cases passes with
  | true => exact avoids.on _ _
  | false =>
      intro state fault after refused
      cases refused
      exact nofun

instance {σ : Type} [Device σ] [BlamesNoCaller σ] : BlamesNoCaller (Disturbed σ) where
  writeRegisters offset data := Disturbed.avoids_guarded _ (BlamesNoCaller.writeRegisters offset data)
  readRegisters offset length :=
    Disturbed.avoids_guarded _ (BlamesNoCaller.readRegisters offset length)
  announceLineBuffers entries :=
    Disturbed.avoids_guarded _ (BlamesNoCaller.announceLineBuffers entries)
  announcePatches table := Disturbed.avoids_guarded _ (BlamesNoCaller.announcePatches table)
  send := Disturbed.avoids_guarded _ BlamesNoCaller.send
  poll := Disturbed.avoids_guarded _ BlamesNoCaller.poll

namespace Session

variable {δ α : Type} {among : Stage → Prop} {index id : Nat}

section Answers

variable [Device δ] [BlamesNoCaller δ]

theorem transmit_avoids (content : SlotContent) :
    Action.Avoids .invalidState (transmit content : Action δ Unit) :=
  .bind (.forM _ fun _ => BlamesNoCaller.writeRegisters _ _) fun _ =>
    .bind (BlamesNoCaller.announcePatches _) fun _ =>
      .bind (BlamesNoCaller.announceLineBuffers _) fun _ => BlamesNoCaller.send

theorem collect_avoids (file : Bytes) :
    Action.Avoids .invalidState (collect file : Action δ Bytes) :=
  .bind BlamesNoCaller.poll fun _ => BlamesNoCaller.readRegisters _ _

variable {session later : Session δ α} {task : Task} {outcome : Except Fault Unit}

/-- A `start` comes at the wrong time exactly if the task's registers are not there to be
submitted. -/
theorem Starts.refusedAs_iff (starts : Starts session task outcome later)
    (unflagged : task.flags.hasError = false) :
    RefusedAs outcome .invalidState ↔ ∀ index slot, ¬ session.Owns task .built index slot := by
  cases starts with
  | skipped flagged journal => cases unflagged.symm.trans flagged
  | refused _ misdirected kind => exact iff_of_true ⟨_, rfl, kind⟩ misdirected
  | failed _ owns refused journal =>
      exact iff_of_false (not_refusedAs_of_ne (transmit_avoids _ _ _ _ refused))
        fun misdirected => misdirected _ _ owns
  | started _ owns accepted journal =>
      exact iff_of_false (not_refusedAs_ok _ _) fun misdirected => misdirected _ _ owns

/-- A `wait` comes at the wrong time exactly if the device does not have the task. -/
theorem Waits.refusedAs_iff (waits : Waits session task outcome later)
    (unflagged : task.flags.hasError = false) :
    RefusedAs outcome .invalidState ↔ ∀ index slot, ¬ session.Owns task .submitted index slot := by
  cases waits with
  | skipped flagged => cases unflagged.symm.trans flagged
  | refused _ misdirected kind => exact iff_of_true ⟨_, rfl, kind⟩ misdirected
  | lost _ owns silent journal =>
      exact iff_of_false (not_refusedAs_of_ne (collect_avoids _ _ _ _ silent))
        fun misdirected => misdirected _ _ owns
  | finished _ owns collected stored journal =>
      exact iff_of_false (not_refusedAs_ok _ _) fun misdirected => misdirected _ _ owns

end Answers

/-! ### What makes a task startable -/

/-- The slot is in use for the task of this number, in one of these stages. -/
def Stands (session : Session δ α) (among : Stage → Prop) (index id : Nat) : Prop :=
  ∃ slot, session.slots.get? index = some slot ∧ slot.taken = true ∧
    slot.content.task = some id ∧ among slot.stage

theorem Owns.stands {session : Session δ α} {task : Task} {stage : Stage} {slot : Slot SlotContent}
    (owns : session.Owns task stage index slot) (counts : among stage) :
    session.Stands among index task.id :=
  ⟨slot, owns.found, owns.taken, owns.serves, owns.stage.symm ▸ counts⟩

variable {session later : Session δ α} {task : Task}

theorem Stands.mono {more : Stage → Prop} (stands : session.Stands among index id)
    (widens : ∀ stage, among stage → more stage) : session.Stands more index id := by
  obtain ⟨slot, found, taken, serves, counts⟩ := stands
  exact ⟨slot, found, taken, serves, widens _ counts⟩

theorem Stands.of_same (stands : later.Stands among index id) (same : later.slots = session.slots) :
    session.Stands among index id := by
  unfold Stands at stands ⊢
  rwa [← same]

/-- A slot that stands after another slot was put in place stood before, or is that one. -/
theorem Stands.of_put {own : Nat} {mine : Slot SlotContent} (stands : later.Stands among index id)
    (slots : later.slots = session.slots.put own mine) :
    session.Stands among index id ∨
      own = index ∧ mine.taken = true ∧ mine.content.task = some id ∧ among mine.stage := by
  obtain ⟨slot, found, taken, serves, counts⟩ := stands
  rw [slots] at found
  rcases SlotPool.get?_put_cases found with ⟨here, rfl⟩ | ⟨-, found⟩
  · exact .inr ⟨here, taken, serves, counts⟩
  · exact .inl ⟨slot, found, taken, serves, counts⟩

/-- No slot stands because another one was given back. -/
theorem Stands.of_put_free {own : Nat} {content : SlotContent}
    (stands : later.Stands among index id)
    (slots : later.slots = session.slots.put own ⟨false, .idle, content⟩) :
    session.Stands among index id :=
  (stands.of_put slots).resolve_right fun ⟨_, taken, _⟩ => Bool.false_ne_true taken

/-- Nothing stands in a session that was just opened. -/
theorem not_stands_opened (config : Config) (reporting : Bool) (scratch : Buffer)
    (board : Board δ α) : ¬ (Session.opened config reporting scratch board).Stands among index id := by
  rintro ⟨slot, found, taken, -, -⟩
  obtain ⟨_, -, rfl⟩ := List.mem_map.mp (List.mem_of_getElem? found)
  cases taken

/-- A `generate` makes no slot stand but for its own task. -/
theorem Stands.of_generates [Allocator α] {outcome : Except Fault Task}
    (stands : later.Stands among index id) (generates : Generates session task outcome later)
    (other : task.id ≠ id) : session.Stands among index id := by
  cases generates with
  | skipped flagged journal => exact stands
  | held unflagged names holds => exact stands
  | full unflagged unheld busy => exact stands
  | failed unflagged unheld first prepares journal => exact stands.of_put_free rfl
  | built unflagged unheld first prepares journal =>
      refine (stands.of_put rfl).resolve_right ?_
      rintro ⟨-, -, serves, -⟩
      exact other (Option.some.inj (prepares.serves.symm.trans serves))

section Hardware

variable [Device δ] {outcome : Except Fault Unit}

/-- A `start` takes a task one stage further, so that it makes no slot stand among stages that come
with the stage before. -/
theorem Stands.of_starts (stands : later.Stands among index id)
    (starts : Starts session task outcome later) (closed : among .submitted → among .built) :
    session.Stands among index id := by
  cases starts with
  | skipped flagged journal => exact stands
  | refused unflagged misdirected kind => exact stands
  | failed unflagged owns refused journal => exact stands.of_put_free rfl
  | started unflagged owns accepted journal =>
      rcases stands.of_put rfl with stands | ⟨rfl, -, serves, counts⟩
      · exact stands
      · obtain rfl : task.id = id := Option.some.inj (owns.serves.symm.trans serves)
        exact owns.stands (closed counts)

theorem Stands.of_waits (stands : later.Stands among index id)
    (waits : Waits session task outcome later) : session.Stands among index id := by
  cases waits with
  | skipped flagged => exact stands.of_same (reported_slots ..)
  | refused unflagged misdirected kind => exact stands
  | lost unflagged owns silent journal => exact stands.of_put_free (reported_slots ..)
  | finished unflagged owns collected stored journal =>
      exact stands.of_put_free (reported_slots ..)

/-- A task that was started, or that the device would not take, has no registers that could be
submitted. -/
theorem Starts.not_stands (starts : Starts session task outcome later)
    (unflagged : task.flags.hasError = false) (heeded : ¬ RefusedAs outcome .invalidState)
    (names : task.slot = some index) : ¬ later.Stands (· = .built) index task.id := by
  rintro ⟨slot, found, taken, -, stage⟩
  cases starts with
  | skipped flagged journal => cases unflagged.symm.trans flagged
  | refused _ misdirected kind => exact heeded ⟨_, rfl, kind⟩
  | failed _ owns refused journal =>
      cases owns.names.symm.trans names
      cases (SlotPool.get?_put_self owns.found _).symm.trans found
      cases taken
  | started _ owns accepted journal =>
      cases owns.names.symm.trans names
      cases (SlotPool.get?_put_self owns.found _).symm.trans found
      cases stage

/-- A task that was waited for has lost its slot. -/
theorem Waits.not_stands (waits : Waits session task outcome later)
    (unflagged : task.flags.hasError = false) (heeded : ¬ RefusedAs outcome .invalidState)
    (names : task.slot = some index) : ¬ later.Stands (fun _ => True) index task.id := by
  rintro ⟨slot, found, taken, -, -⟩
  cases waits with
  | skipped flagged => cases unflagged.symm.trans flagged
  | refused _ misdirected kind => exact heeded ⟨_, rfl, kind⟩
  | lost _ owns silent journal =>
      rw [reported_slots] at found
      cases owns.names.symm.trans names
      cases (SlotPool.get?_put_self owns.found _).symm.trans found
      cases taken
  | finished _ owns collected stored journal =>
      rw [reported_slots] at found
      cases owns.names.symm.trans names
      cases (SlotPool.get?_put_self owns.found _).symm.trans found
      cases taken

end Hardware

end Session

/-! ### Until the next `generate` -/

/-- The call builds registers for the task of this number. -/
def Call.BuildsFor (id : Nat) : Call → Prop
  | generate task => task.id = id
  | _ => False

variable {δ α : Type} {among : Stage → Prop} {index id : Nat}

namespace Decoder

/-- The decoder is at work, and the slot is in use for the task of this number, in one of these
stages. -/
def Stands (decoder : Decoder δ α) (among : Stage → Prop) (index id : Nat) : Prop :=
  ∃ session, decoder = .working session ∧ session.Stands among index id

theorem Stands.mono {decoder : Decoder δ α} {more : Stage → Prop}
    (stands : decoder.Stands among index id) (widens : ∀ stage, among stage → more stage) :
    decoder.Stands more index id := by
  obtain ⟨session, reached, stands⟩ := stands
  exact ⟨session, reached, stands.mono widens⟩

variable [Device δ] [Allocator α]

/-- Only a `generate` for a task makes a slot stand for it. -/
theorem Stands.of_next {decoder : Decoder δ α} {call : Call}
    (stands : (call.next decoder).Stands among index id) (closed : among .submitted → among .built)
    (elsewhere : ¬ call.BuildsFor id) : decoder.Stands among index id := by
  obtain ⟨final, reached, stands⟩ := stands
  have leads := call.next_spec decoder
  rw [reached] at leads
  cases leads with
  | generated ends => exact ⟨_, rfl, stands.of_generates ends elsewhere⟩
  | started ends => exact ⟨_, rfl, stands.of_starts ends closed⟩
  | waited ends => exact ⟨_, rfl, stands.of_waits ends⟩
  | commanded => exact ⟨_, rfl, stands.of_same rfl⟩
  | noted acknowledged => exact ⟨_, rfl, stands.of_same rfl⟩
  | refused invalid => exact ⟨_, rfl, stands⟩
  | opened valid taken => exact absurd stands (Session.not_stands_opened _ _ _ _)

end Decoder

/-- A slot that stands for a task after a run without a `generate` for it stood at the start. -/
theorem Run.stands [Device δ] [Allocator α] {surroundings : Board δ α → Board δ α → Prop}
    {first decoder : Decoder δ α} {moments : List (Moment δ α)}
    (run : Run surroundings first moments decoder)
    (elsewhere : ∀ moment ∈ moments, ¬ moment.call.BuildsFor id)
    (closed : among .submitted → among .built) (stands : decoder.Stands among index id) :
    first.Stands among index id := by
  induction run with
  | nil => exact stands
  | call earlier call ih =>
      refine ih (fun moment member => elsewhere moment (List.mem_append_left _ member)) ?_
      exact stands.of_next closed
        (elsewhere _ (List.mem_append_right _ (List.mem_singleton_self _)))
  | @outside moments decoder earlier board allowed ih =>
      refine ih elsewhere ?_
      obtain ⟨final, reached, stands⟩ := stands
      cases decoder with
      | idle board => cases reached
      | working session =>
          cases reached
          exact ⟨session, rfl, stands.of_same rfl⟩

/-- What stands nowhere for a task does not until the next `generate` for it. -/
theorem Run.not_stands [Device δ] [Allocator α] {surroundings : Board δ α → Board δ α → Prop}
    {session : Session δ α} {decoder : Decoder δ α} {moments : List (Moment δ α)}
    (run : Run surroundings (.working session) moments decoder)
    (elsewhere : ∀ moment ∈ moments, ¬ moment.call.BuildsFor id)
    (closed : among .submitted → among .built) (gone : ¬ session.Stands among index id) :
    ¬ decoder.Stands among index id := by
  intro stands
  obtain ⟨same, eq, stands⟩ := run.stands elsewhere closed stands
  cases eq
  exact gone stands

/-! ### The calls that are refused -/

namespace Decoder

/-- The call comes at the wrong time: it is refused, and nothing happens. -/
def Rebuffs (decoder : Decoder δ α) (call : Action (Decoder δ α) Unit) : Prop :=
  RefusedAs (Action.outcome (call decoder)) .invalidState ∧ Action.after (call decoder) = decoder

theorem Rebuffs.of_session {session : Session δ α} {action : Action (Session δ α) Unit}
    (refused : ∃ fault, fault.kind = .invalidState ∧ action session = .error fault session) :
    (working session).Rebuffs (inSession action) := by
  obtain ⟨fault, kind, ran⟩ := refused
  rw [Rebuffs, outcome_inSession, after_inSession, ran]
  exact ⟨⟨fault, rfl, kind⟩, rfl⟩

variable [Device δ] {task : Task}

/-- A task cannot be started unless its registers stand in the slot it names. -/
theorem rebuffs_start (decoder : Decoder δ α) (unflagged : task.flags.hasError = false)
    (none : ∀ index, task.slot = some index → ¬ decoder.Stands (· = .built) index task.id) :
    decoder.Rebuffs (start task) := by
  cases decoder with
  | idle board => exact ⟨⟨_, rfl, rfl⟩, rfl⟩
  | working session =>
      refine .of_session (Session.start_of_misdirected unflagged fun index slot owns => ?_)
      exact none index owns.names ⟨session, rfl, owns.stands rfl⟩

/-- A task cannot be waited for unless it stands in the slot it names. -/
theorem rebuffs_wait (decoder : Decoder δ α) (unflagged : task.flags.hasError = false)
    (none : ∀ index, task.slot = some index → ¬ decoder.Stands (· = .submitted) index task.id) :
    decoder.Rebuffs (wait task) := by
  cases decoder with
  | idle board => exact ⟨⟨_, rfl, rfl⟩, rfl⟩
  | working session =>
      refine .of_session (Session.wait_of_misdirected unflagged fun index slot owns => ?_)
      exact none index owns.names ⟨session, rfl, owns.stands rfl⟩

/-- A call for a task without error flags at the wrong time changes nothing. `start` is refused as
such exactly if the task names no slot in which its registers stand ready, and `wait` exactly if it
names none that was submitted for it, and then the decoder stays as it was. After a `start` that was
not refused so, the same task cannot be started again before the next `generate` for its number,
whatever else is called, and after such a `wait` it can neither be started nor waited for. -/
theorem misdirected [Allocator α] [BlamesNoCaller δ] (session : Session δ α)
    (unflagged : task.flags.hasError = false) :
    (RefusedAs (Action.outcome (start task (working session))) .invalidState ↔
      ∀ index slot, ¬ session.Owns task .built index slot) ∧
    (RefusedAs (Action.outcome (wait task (working session))) .invalidState ↔
      ∀ index slot, ¬ session.Owns task .submitted index slot) ∧
    (RefusedAs (Action.outcome (start task (working session))) .invalidState →
      Action.after (start task (working session)) = working session) ∧
    (RefusedAs (Action.outcome (wait task (working session))) .invalidState →
      Action.after (wait task (working session)) = working session) ∧
    ∀ {surroundings : Board δ α → Board δ α → Prop} {moments : List (Moment δ α)}
      {decoder : Decoder δ α} {again : Task}, again.flags.hasError = false → again.id = task.id →
      again.slot = task.slot → (∀ moment ∈ moments, ¬ moment.call.BuildsFor task.id) →
      (¬ RefusedAs (Action.outcome (start task (working session))) .invalidState →
        Run surroundings (Action.after (start task (working session))) moments decoder →
        decoder.Rebuffs (start again)) ∧
      (¬ RefusedAs (Action.outcome (wait task (working session))) .invalidState →
        Run surroundings (Action.after (wait task (working session))) moments decoder →
        decoder.Rebuffs (start again) ∧ decoder.Rebuffs (wait again)) := by
  have starts := Session.start_spec session task
  have waits := Session.wait_spec session task
  simp only [start, wait, outcome_inSession, after_inSession]
  refine ⟨starts.refusedAs_iff unflagged, waits.refusedAs_iff unflagged, ?_, ?_, ?_⟩
  · intro refused
    obtain ⟨fault, -, ran⟩ :=
      Session.start_of_misdirected unflagged ((starts.refusedAs_iff unflagged).mp refused)
    rw [ran, Action.after_error]
  · intro refused
    obtain ⟨fault, -, ran⟩ :=
      Session.wait_of_misdirected unflagged ((waits.refusedAs_iff unflagged).mp refused)
    rw [ran, Action.after_error]
  · intro surroundings moments decoder again still same names elsewhere
    refine ⟨fun heeded run => ?_, fun heeded run => ?_⟩
    · refine decoder.rebuffs_start still fun index named => ?_
      rw [same]
      refine run.not_stands elsewhere (fun _ => rfl) ?_
      exact starts.not_stands unflagged heeded (names ▸ named)
    · have gone : ∀ index, again.slot = some index →
          ¬ decoder.Stands (fun _ => True) index again.id := by
        intro index named
        rw [same]
        refine run.not_stands elsewhere id ?_
        exact waits.not_stands unflagged heeded (names ▸ named)
      refine ⟨decoder.rebuffs_start still fun index named stands => ?_,
        decoder.rebuffs_wait still fun index named stands => ?_⟩
      · exact gone index named (stands.mono fun _ _ => trivial)
      · exact gone index named (stands.mono fun _ _ => trivial)

end Decoder

/-- The first picture on a board at rest is not started twice, and after it was waited for it has no
say about its slot any more, even if a picture of another size asked for registers since. -/
theorem first_picture_not_twice : ∃ built started waited : Session SimulatedDevice Arena,
    Decoder.start ((Task.ofSize 0 64 64).placed 0) (.working built) = .ok () (.working started) ∧
    (Decoder.working started).Rebuffs (Decoder.start ((Task.ofSize 0 64 64).placed 0)) ∧
    Decoder.wait ((Task.ofSize 0 64 64).placed 0) (.working started) = .ok () (.working waited) ∧
    ((Call.generate (.ofSize 1 128 64)).next (.working waited)).Rebuffs
      (Decoder.wait ((Task.ofSize 0 64 64).placed 0)) := by
  obtain ⟨opened, built, started, content, -, -, -, serves, submitted, able, -, there, inFlight, -⟩ :=
    Session.first_picture fun _ _ => False
  have owns : started.Owns ((Task.ofSize 0 64 64).placed 0) .submitted 0
      ⟨true, .submitted, content⟩ := ⟨rfl, there, rfl, serves, rfl⟩
  obtain ⟨device, file, journal, -, waited, -⟩ := Session.wait_of_able able rfl owns inFlight
  generalize (started.redevice device 0 _ journal).reported _ = last at waited
  have start : Decoder.start ((Task.ofSize 0 64 64).placed 0) (.working built) =
      .ok () (.working started) := by
    rw [Decoder.start, Decoder.inSession_working, submitted]
  have wait : Decoder.wait ((Task.ofSize 0 64 64).placed 0) (.working started) =
      .ok () (.working last) := by
    rw [Decoder.wait, Decoder.inSession_working, waited]
  refine ⟨built, started, last, start, ?_, wait, ?_⟩
  · obtain ⟨-, -, -, -, later⟩ := Decoder.misdirected built
      (show ((Task.ofSize 0 64 64).placed 0).flags.hasError = false from rfl)
    obtain ⟨restart, -⟩ := @later (fun _ _ => False) [] (.working started)
      ((Task.ofSize 0 64 64).placed 0) rfl rfl rfl
      fun _ member => absurd member List.not_mem_nil
    rw [start] at restart
    exact restart (not_refusedAs_ok _ _) .nil
  · obtain ⟨-, -, -, -, later⟩ := Decoder.misdirected started
      (show ((Task.ofSize 0 64 64).placed 0).flags.hasError = false from rfl)
    obtain ⟨-, rewait⟩ := @later (fun _ _ => False)
      [⟨.working last, .generate (.ofSize 1 128 64)⟩] _ ((Task.ofSize 0 64 64).placed 0) rfl rfl rfl (by
        intro moment member
        rw [List.mem_singleton.mp member]
        exact Nat.one_ne_zero)
    rw [wait] at rewait
    exact (rewait (not_refusedAs_ok _ _) (.call .nil _)).2

end VideoAccel
