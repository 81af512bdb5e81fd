import VideoAccel.Proofs.Pipeline.Run

/-!
What is on record.

A decoder puts events into its journal and delivers reports, and it never looks at either again.
`Action.IgnoresRecords` says so of an action: whatever is on record, it answers the same, leaves the
same, and delivers the same reports. A sequence ignores records when its steps do, so that in the end
no call of a decoder looks at them (`Call.ask_ignores`).
-/

namespace VideoAccel

/-- The journal, and the reports delivered so far. -/
structure Records where
  journal : Journal := #[]
  reports : Array Report := #[]

/-- A state that keeps records. -/
class Recorded (σ : Type) where
  records : σ → Records
  withRecords : Records → σ → σ
  withRecords_records : ∀ state, withRecords (records state) state = state
  withRecords_withRecords : ∀ first second state,
    withRecords first (withRecords second state) = withRecords first state

export Recorded (records withRecords)

namespace Action

variable {σ τ α β : Type} [Recorded σ]

/-- A run of the action does not depend on what is on record; it adds the same reports. -/
def IgnoresRecords (action : Action σ α) : Prop :=
  ∀ (state : σ) (other : Records), ∃ journal delivered,
    outcome (action (withRecords other state)) = outcome (action state) ∧
    after (action (withRecords other state)) =
      withRecords ⟨journal, other.reports ++ delivered⟩ (after (action state)) ∧
    (records (after (action state))).reports = (records state).reports ++ delivered

namespace IgnoresRecords

/-- An action that delivers nothing. -/
theorem of_quiet {action : Action σ α}
    (quiet : ∀ (state : σ) (other : Records), ∃ journal,
      outcome (action (withRecords other state)) = outcome (action state) ∧
      after (action (withRecords other state)) =
        withRecords ⟨journal, other.reports⟩ (after (action state)) ∧
      (records (after (action state))).reports = (records state).reports) :
    IgnoresRecords action := by
  intro state other
  obtain ⟨journal, answer, left, reports⟩ := quiet state other
  refine ⟨journal, #[], answer, ?_, ?_⟩
  · rw [left, Array.append_empty]
  · rw [reports, Array.append_empty]

theorem pure (value : α) : IgnoresRecords (pure value : Action σ α) :=
  of_quiet fun _ other => ⟨other.journal, rfl, rfl, rfl⟩

theorem throw (fault : Fault) : IgnoresRecords (throw fault : Action σ α) :=
  of_quiet fun _ other => ⟨other.journal, rfl, rfl, rfl⟩

theorem ofExcept (result : Except Fault α) : IgnoresRecords (ofExcept result : Action σ α) := by
  cases result with
  | ok value => exact pure value
  | error fault => exact throw fault

/-- A sequence ignores records when its steps do. -/
theorem bind {action : Action σ α} {next : α → Action σ β} (first : IgnoresRecords action)
    (rest : ∀ value, IgnoresRecords (next value)) : IgnoresRecords (action >>= next) := by
  intro state other
  obtain ⟨journal, delivered, answer, left, reports⟩ := first state other
  cases ran : action state with
  | error fault middle =>
      rw [ran] at answer left reports
      cases told : action (withRecords other state) with
      | ok value final =>
          rw [told] at answer
          cases answer
      | error other final =>
          rw [told] at answer left
          cases answer
          rw [bind_of_error ran, bind_of_error told]
          exact ⟨journal, delivered, rfl, left, reports⟩
  | ok value middle =>
      rw [ran] at answer left reports
      cases told : action (withRecords other state) with
      | error fault final =>
          rw [told] at answer
          cases answer
      | ok same final =>
          rw [told] at answer left
          cases answer
          rw [bind_of_ok ran, bind_of_ok told]
          simp only [after_ok] at left reports
          subst left
          obtain ⟨later, more, answer, left, further⟩ :=
            rest value middle ⟨journal, other.reports ++ delivered⟩
          refine ⟨later, delivered ++ more, answer, ?_, ?_⟩
          · rw [left, Array.append_assoc]
          · rw [further, reports, Array.append_assoc]

/-- Looking at the state is harmless if nothing that follows depends on what is on record. -/
theorem get_bind {next : σ → Action σ β}
    (blind : ∀ state other, next (withRecords other state) = next state)
    (rest : ∀ state, IgnoresRecords (next state)) :
    IgnoresRecords ((get : Action σ σ) >>= next) := by
  intro state other
  rw [bind_of_ok (get_run _), bind_of_ok (get_run _), blind]
  exact rest state state other

theorem attempt {action : Action σ α} (ignores : IgnoresRecords action) :
    IgnoresRecords (attempt action) := by
  intro state other
  obtain ⟨journal, delivered, answer, left, reports⟩ := ignores state other
  exact ⟨journal, delivered, congrArg Except.ok answer, left, reports⟩

/-- Work on a part of the state that holds no records. -/
theorem on {get : σ → τ} {put : τ → σ → σ}
    (get_with : ∀ state other, get (withRecords other state) = get state)
    (put_with : ∀ part state other, put part (withRecords other state) =
      withRecords other (put part state))
    (kept : ∀ part state, (records (put part state)).reports = (records state).reports)
    (action : Action τ α) : IgnoresRecords (on get put action) := by
  refine of_quiet fun state other => ⟨other.journal, ?_, ?_, ?_⟩
  · rw [outcome_on, outcome_on, get_with]
  · rw [after_on, after_on, get_with, put_with]
  · rw [after_on, kept]

end IgnoresRecords

end Action

variable {δ α : Type}

namespace Board

instance : Recorded (Board δ α) where
  records board := ⟨board.journal, board.reports⟩
  withRecords other board := { board with journal := other.journal, reports := other.reports }
  withRecords_records _ := rfl
  withRecords_withRecords _ _ _ := rfl

end Board

namespace Session

open VideoAccel.Action

instance : Recorded (Session δ α) where
  records session := records session.board
  withRecords other session := session.withBoard (withRecords other session.board)
  withRecords_records _ := rfl
  withRecords_withRecords _ _ _ := rfl

/-! ### The steps of a session -/

theorem note_ignores (event : Event) : IgnoresRecords (note event : Action (Session δ α) Unit) :=
  .of_quiet fun _ other => ⟨other.journal.push event, rfl, rfl, rfl⟩

theorem noteSome_ignores (event : Option Event) :
    IgnoresRecords (noteSome event : Action (Session δ α) Unit) := by
  cases event with
  | none => exact .pure ()
  | some event => exact note_ignores event

theorem deliver_ignores (report : Report) :
    IgnoresRecords (deliver report : Action (Session δ α) Unit) := by
  intro session other
  have same : (withRecords other session).reporting = session.reporting := rfl
  rw [deliver_run, deliver_run, reported, reported, same]
  cases session.reporting with
  | false => exact ⟨other.journal, #[], rfl, by simp, by simp⟩
  | true => exact ⟨other.journal, #[report], rfl, by simp; rfl, by simp; rfl⟩

theorem onDevice_ignores {β : Type} (action : Action δ β) :
    IgnoresRecords (onDevice action : Action (Session δ α) β) :=
  .on (by intros; rfl) (by intros; rfl) (by intros; rfl) action

theorem onMemory_ignores {β : Type} (action : Action α β) :
    IgnoresRecords (onMemory action : Action (Session δ α) β) :=
  .on (by intros; rfl) (by intros; rfl) (by intros; rfl) action

theorem changeSlots_ignores (change : SlotPool SlotContent → SlotPool SlotContent) :
    IgnoresRecords (changeSlots change : Action (Session δ α) Unit) :=
  .of_quiet fun _ other => ⟨other.journal, rfl, rfl, rfl⟩

theorem content_ignores (index : Nat) :
    IgnoresRecords (content index : Action (Session δ α) SlotContent) := by
  refine .of_quiet fun session other => ⟨other.journal, ?_⟩
  have same : (withRecords other session).slots = session.slots := rfl
  rw [content, content, same]
  cases session.slots.get? index with
  | none => exact ⟨rfl, rfl, rfl⟩
  | some slot => exact ⟨rfl, rfl, rfl⟩

theorem ownedSlot_ignores (task : Task) (stage : Stage) :
    IgnoresRecords (ownedSlot task stage : Action (Session δ α) Nat) := by
  refine .of_quiet fun session other => ⟨other.journal, ?_⟩
  have slots : (withRecords other session).slots = session.slots := rfl
  have holds : ∀ index, (withRecords other session).holds index task.id =
      session.holds index task.id := fun _ => rfl
  cases names : task.slot with
  | none =>
      simp only [ownedSlot, names]
      exact ⟨rfl, rfl, rfl⟩
  | some index =>
      cases found : session.slots.get? index with
      | none =>
          simp only [ownedSlot, names, slots, found]
          exact ⟨rfl, rfl, rfl⟩
      | some slot =>
          simp only [ownedSlot, names, slots, found, holds]
          by_cases foreign : (!session.holds index task.id) = true
          · simp only [if_pos foreign]
            exact ⟨rfl, rfl, rfl⟩
          by_cases early : slot.stage ≠ stage
          · simp only [if_neg foreign, if_pos early]
            exact ⟨rfl, rfl, rfl⟩
          · simp only [if_neg foreign, if_neg early]
            exact ⟨rfl, rfl, rfl⟩

theorem acquireSlot_ignores : IgnoresRecords (acquireSlot : Action (Session δ α) Nat) := by
  refine .of_quiet fun session other => ⟨other.journal, ?_⟩
  have slots : (withRecords other session).slots = session.slots := rfl
  rw [acquireSlot, acquireSlot, slots]
  cases session.slots.acquire with
  | none => exact ⟨rfl, rfl, rfl⟩
  | some acquired => exact ⟨rfl, rfl, rfl⟩

theorem buildIn_ignores (index : Nat) (job : Job) :
    IgnoresRecords (buildIn index job : Action (Session δ α) Bool) := by
  refine .bind (content_ignores index) fun content => ?_
  refine .of_quiet fun session other => ⟨other.journal, ?_⟩
  have same : (withRecords other session).scratch = session.scratch := rfl
  rw [bind_of_ok (get_run _), bind_of_ok (get_run _), bind_of_ok (set_run _ _),
    bind_of_ok (set_run _ _), same]
  generalize Draft.build job _ = result
  cases result with
  | error fault draft => exact ⟨rfl, rfl, rfl⟩
  | ok full draft => exact ⟨rfl, rfl, rfl⟩

section Memory

variable [Allocator α]

theorem ensureLines_ignores (picture : Picture) :
    IgnoresRecords (ensureLines picture : Action (Session δ α) Unit) := by
  unfold ensureLines
  refine .get_bind (fun _ _ => rfl) fun session => ?_
  refine .bind (.on (by intros; rfl) (by intros; rfl) (by intros; rfl) _) fun event => ?_
  split
  · refine .bind (noteSome_ignores event) fun _ => ?_
    exact .get_bind (fun _ _ => rfl) fun session => note_ignores _
  · exact .pure _

theorem ensureMotion_ignores (picture : Picture) :
    IgnoresRecords (ensureMotion picture : Action (Session δ α) Unit) := by
  unfold ensureMotion
  refine .get_bind (fun _ _ => rfl) fun session => ?_
  exact .bind (.on (by intros; rfl) (by intros; rfl) (by intros; rfl) _) noteSome_ignores

theorem prepare_ignores (index : Nat) (task : Task) :
    IgnoresRecords (prepare index task : Action (Session δ α) Unit) := by
  unfold prepare
  refine .bind (ensureLines_ignores _) fun _ => ?_
  refine .bind (ensureMotion_ignores _) fun _ => ?_
  refine .get_bind (fun _ _ => rfl) fun session => ?_
  refine .bind (note_ignores _) fun _ => ?_
  refine .bind (buildIn_ignores index _) fun full => ?_
  refine .bind (changeSlots_ignores _) fun _ => ?_
  refine .get_bind (fun _ _ => rfl) fun session => ?_
  exact .bind (onMemory_ignores _) fun _ => note_ignores _

theorem generateIn_ignores (index : Nat) (task : Task) :
    IgnoresRecords (generateIn index task : Action (Session δ α) Task) := by
  refine .bind (.attempt (prepare_ignores index task)) fun result => ?_
  cases result with
  | error fault => exact .bind (changeSlots_ignores _) fun _ => .throw fault
  | ok done => exact .bind (changeSlots_ignores _) fun _ => .pure _

theorem generate_ignores (task : Task) :
    IgnoresRecords (generate task : Action (Session δ α) Task) := by
  by_cases flagged : task.flags.hasError = true
  · unfold generate
    rw [if_pos flagged]
    exact .bind (note_ignores _) fun _ => .pure _
  have unflagged : task.flags.hasError = false := Bool.not_eq_true _ ▸ flagged
  intro session other
  by_cases held : ∃ index, task.slot = some index ∧ session.holds index task.id = true
  · obtain ⟨index, names, holds⟩ := held
    have ran : ∀ session : Session δ α, session.holds index task.id = true →
        generate task session = .error (.slotHeld task.id index) session := by
      intro session holds
      unfold generate
      rw [if_neg flagged, bind_of_ok (get_run session)]
      simp only [names, holds]
      rfl
    rw [ran session holds, ran (withRecords other session) holds]
    exact IgnoresRecords.throw (α := Task) _ session other
  · have unheld : ∀ index, task.slot = some index → session.holds index task.id = false := by
      intro index names
      cases holds : session.holds index task.id with
      | false => rfl
      | true => exact absurd ⟨index, names, holds⟩ held
    have told : ∀ index, task.slot = some index →
        (withRecords other session).holds index task.id = false := unheld
    rw [generate_of_unheld unflagged unheld, generate_of_unheld unflagged told]
    exact IgnoresRecords.bind acquireSlot_ignores (fun index => generateIn_ignores index task)
      session other

end Memory

section Hardware

variable [Device δ]

theorem submit_ignores (index : Nat) : IgnoresRecords (submit index : Action (Session δ α) Unit) := by
  have whole : (submit index : Action (Session δ α) Unit) =
      content index >>= fun content => onDevice (transmit content) := by
    simp only [submit, transmit, onDevice_bind, onDevice_forM]
  rw [whole]
  exact .bind (content_ignores index) fun content => onDevice_ignores _

theorem start_ignores (task : Task) : IgnoresRecords (start task : Action (Session δ α) Unit) := by
  unfold start
  split
  · exact note_ignores _
  · refine .bind (ownedSlot_ignores task .built) fun index => ?_
    refine .bind (.attempt (submit_ignores index)) fun result => ?_
    cases result with
    | error fault =>
        refine .bind (note_ignores _) fun _ => ?_
        exact .bind (changeSlots_ignores _) fun _ => .throw fault
    | ok done => exact changeSlots_ignores _

theorem poll_ignores (index : Nat) : IgnoresRecords (poll index : Action (Session δ α) Unit) := by
  refine .bind (onDevice_ignores _) fun _ => ?_
  refine .bind (content_ignores index) fun content => ?_
  exact .bind (onDevice_ignores _) fun status => changeSlots_ignores _

theorem wait_ignores (task : Task) : IgnoresRecords (wait task : Action (Session δ α) Unit) := by
  unfold wait
  split
  · exact deliver_ignores _
  · refine .bind (ownedSlot_ignores task .submitted) fun index => ?_
    refine .bind (.attempt (poll_ignores index)) fun result => ?_
    refine .bind (content_ignores index) fun content => ?_
    refine .bind (noteSome_ignores _) fun _ => ?_
    refine .bind (changeSlots_ignores _) fun _ => ?_
    refine .bind (deliver_ignores _) fun _ => ?_
    exact .bind (changeSlots_ignores _) fun _ => .ofExcept result

end Hardware

theorem setCompressed_ignores (compressed : Bool) :
    IgnoresRecords (setCompressed compressed : Action (Session δ α) Unit) := by
  refine .of_quiet fun session other => ?_
  unfold setCompressed
  rw [bind_of_ok (get_run _), bind_of_ok (get_run _)]
  have same : (withRecords other session).compressed = session.compressed := rfl
  rw [same]
  split
  · exact ⟨other.journal.push (.compressionSwitched compressed), rfl, rfl, rfl⟩
  · exact ⟨other.journal, rfl, rfl, rfl⟩

theorem control_ignores (command : Command) :
    IgnoresRecords (control command : Action (Session δ α) Unit) := by
  cases command with
  | setOutput info =>
      refine .bind (.of_quiet fun _ other => ⟨other.journal, rfl, rfl, rfl⟩) fun _ => ?_
      exact .bind (setCompressed_ignores _) fun _ => note_ignores _
  | setFormat format compressed =>
      exact .bind (setCompressed_ignores _) fun _ => note_ignores _
  | other id parameter => exact note_ignores _

end Session

/-! ### The calls of a decoder -/

/-- What a call answers. -/
inductive Answer where
  | done
  | task (task : Task)
  | capability (capability : Capability)
deriving DecidableEq, Repr

namespace Decoder

open VideoAccel.Action

instance : Recorded (Decoder δ α) where
  records decoder := records decoder.board
  withRecords other := mapBoard (withRecords other)
  withRecords_records decoder := by cases decoder <;> rfl
  withRecords_withRecords _ _ decoder := by cases decoder <;> rfl

theorem inSession_ignores {β : Type} {action : Action (Session δ α) β}
    (ignores : IgnoresRecords action) : IgnoresRecords (inSession action) := by
  intro decoder other
  cases decoder with
  | idle board => exact IgnoresRecords.throw (α := β) .notInitialised (idle board) other
  | working session =>
      obtain ⟨journal, delivered, answer, left, reports⟩ := ignores session other
      have told : withRecords other (working session) = working (withRecords other session) := rfl
      refine ⟨journal, delivered, ?_, ?_, ?_⟩
      · rw [told, outcome_inSession, outcome_inSession, answer]
      · rw [told, after_inSession, after_inSession, left]
        rfl
      · rw [after_inSession]
        exact reports

theorem note_ignores (event : Event) : IgnoresRecords (note event : Action (Decoder δ α) Unit) := by
  refine .of_quiet fun decoder other => ⟨other.journal.push event, ?_⟩
  cases decoder <;> exact ⟨rfl, rfl, rfl⟩

section Memory

variable [Allocator α]

/-- Closing a session leaves the same whatever is on record, and delivers nothing. -/
theorem released_records (decoder : Decoder δ α) (other : Records) : ∃ journal,
    (withRecords other decoder).released = withRecords ⟨journal, other.reports⟩ decoder.released ∧
    (records decoder.released).reports = (records decoder).reports := by
  cases decoder with
  | idle board => exact ⟨other.journal, rfl, rfl⟩
  | working session =>
      have slots : (withRecords other session).slots = session.slots := rfl
      have told : (withRecords other (working session)).released =
          idle (withRecords other session).close := rfl
      have plain : (working session).released = idle session.close := rfl
      rw [told, plain, Session.close, Session.close, slots]
      by_cases busy : 0 < session.slots.inUse
      · simp only [if_pos busy]
        exact ⟨_, rfl, rfl⟩
      · simp only [if_neg busy]
        exact ⟨_, rfl, rfl⟩

theorem release_ignores : IgnoresRecords (release : Action (Decoder δ α) Unit) := by
  refine .of_quiet fun decoder other => ?_
  obtain ⟨journal, left, reports⟩ := decoder.released_records other
  exact ⟨journal, rfl, left, reports⟩

theorem takeScratch_ignores (layout : ScratchLayout) :
    IgnoresRecords (takeScratch layout : Action (Board δ α) Buffer) := by
  refine .of_quiet fun board other => ?_
  have same : (withRecords other board).memory = board.memory := rfl
  cases granted : Allocator.alloc layout.totalSize board.memory with
  | error fault memory =>
      rw [takeScratch_refused granted, takeScratch_refused (same ▸ granted)]
      exact ⟨other.journal, rfl, rfl, rfl⟩
  | ok buffer memory =>
      cases stored : Buffer.write layout.entropyOffset EntropyTable.table buffer with
      | error fault cut =>
          rw [takeScratch_overrun granted stored, takeScratch_overrun (same ▸ granted) stored]
          exact ⟨other.journal, rfl, rfl, rfl⟩
      | ok done filled =>
          cases passed : Allocator.sync filled memory with
          | error fault synced =>
              rw [takeScratch_unsynced granted stored passed,
                takeScratch_unsynced (same ▸ granted) stored passed]
              exact ⟨other.journal, rfl, rfl, rfl⟩
          | ok done synced =>
              rw [takeScratch_of_ok granted stored passed,
                takeScratch_of_ok (same ▸ granted) stored passed]
              exact ⟨_, rfl, rfl, rfl⟩

theorem initialise_invalid {config : Config} {fault : Fault}
    (invalid : config.validate = .error fault) (reporting : Bool) (decoder : Decoder δ α) :
    initialise config reporting decoder = .error fault decoder := by
  unfold initialise
  rw [invalid]

theorem initialise_refused {config : Config} (valid : config.validate = .ok ()) (reporting : Bool)
    {decoder : Decoder δ α} {fault : Fault} {board : Board δ α}
    (refused : takeScratch (.of scratchSizes config.slotCount) decoder.released.board =
      .error fault board) :
    initialise config reporting decoder =
      .error fault (idle ((board.note (.initialisationFailed fault)).note .released)) := by
  unfold initialise
  rw [valid]
  simp only [refused]

theorem initialise_granted {config : Config} (valid : config.validate = .ok ()) (reporting : Bool)
    {decoder : Decoder δ α} {scratch : Buffer} {board : Board δ α}
    (taken : takeScratch (.of scratchSizes config.slotCount) decoder.released.board =
      .ok scratch board) :
    initialise config reporting decoder =
      .ok (capability config) (working (.opened config reporting scratch board)) := by
  unfold initialise
  rw [valid]
  simp only [taken]
  rfl

theorem initialise_ignores (config : Config) (reporting : Bool) :
    IgnoresRecords (initialise config reporting : Action (Decoder δ α) Capability) := by
  intro decoder other
  cases valid : config.validate with
  | error fault =>
      rw [initialise_invalid valid, initialise_invalid valid]
      exact IgnoresRecords.throw (α := Capability) fault decoder other
  | ok done =>
      obtain ⟨closed, same, kept⟩ := decoder.released_records other
      have board : (withRecords other decoder).released.board =
          withRecords ⟨closed, other.reports⟩ decoder.released.board := by
        rw [same]
        cases decoder.released <;> rfl
      obtain ⟨journal, delivered, answer, left, reports⟩ := takeScratch_ignores
        (.of scratchSizes config.slotCount) decoder.released.board ⟨closed, other.reports⟩
      rw [← board] at answer left
      replace reports := reports.trans (congrArg (· ++ delivered) kept)
      cases plain : takeScratch (.of scratchSizes config.slotCount) decoder.released.board with
      | error fault first =>
          rw [plain] at answer left reports
          cases told : takeScratch (.of scratchSizes config.slotCount)
              (withRecords other decoder).released.board with
          | ok scratch second =>
              rw [told] at answer
              cases answer
          | error fault second =>
              rw [told] at answer left
              cases answer
              obtain rfl : second = _ := left
              rw [initialise_refused valid reporting plain, initialise_refused valid reporting told]
              exact ⟨_, delivered, rfl, rfl, reports⟩
      | ok scratch first =>
          rw [plain] at answer left reports
          cases told : takeScratch (.of scratchSizes config.slotCount)
              (withRecords other decoder).released.board with
          | error fault second =>
              rw [told] at answer
              cases answer
          | ok scratch second =>
              rw [told] at answer left
              cases answer
              obtain rfl : second = _ := left
              rw [initialise_granted valid reporting plain, initialise_granted valid reporting told]
              exact ⟨_, delivered, rfl, rfl, reports⟩

end Memory

end Decoder

namespace Call

open VideoAccel.Action

variable [Device δ] [Allocator α]

/-- Makes the call. -/
def ask : Call → Action (Decoder δ α) Answer
  | generate task => do return .task (← Decoder.generate task)
  | start task => do Decoder.start task; return .done
  | wait task => do Decoder.wait task; return .done
  | control command => do Decoder.control command; return .done
  | reset => do Decoder.reset; return .done
  | flush => do Decoder.flush; return .done
  | initialise config reporting => do
      return .capability (← Decoder.initialise config reporting)
  | release => do Decoder.release; return .done

/-- No call looks at what is on record. -/
theorem ask_ignores (call : Call) : IgnoresRecords (call.ask : Action (Decoder δ α) Answer) := by
  have answers : ∀ {β : Type} {action : Action (Decoder δ α) β}, IgnoresRecords action →
      ∀ answer : β → Answer, IgnoresRecords (do return answer (← action)) :=
    fun ignores answer => .bind ignores fun _ => .pure _
  cases call with
  | generate task => exact answers (Decoder.inSession_ignores (Session.generate_ignores task)) _
  | start task => exact answers (Decoder.inSession_ignores (Session.start_ignores task)) _
  | wait task => exact answers (Decoder.inSession_ignores (Session.wait_ignores task)) _
  | control command =>
      exact answers (Decoder.inSession_ignores (Session.control_ignores command)) _
  | reset => exact answers (Decoder.note_ignores _) _
  | flush => exact answers (Decoder.note_ignores _) _
  | initialise config reporting => exact answers (Decoder.initialise_ignores config reporting) _
  | release => exact answers Decoder.release_ignores _

end Call

end VideoAccel
