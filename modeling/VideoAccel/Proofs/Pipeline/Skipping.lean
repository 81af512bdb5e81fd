import VideoAccel.Proofs.Pipeline.Progress
import VideoAccel.Proofs.Pipeline.History
import VideoAccel.Proofs.Pipeline.Records

/-!
Tasks with error flags leave no trace.

What happens to a decoder is a list of `Happening`s: calls, and changes of the device, the allocator
and the picture store from outside. A call for a task with error flags changes nothing but what is on
record (`Call.ask_flagged`), and no call looks at that. So if every call for a task carries error
flags, the decoder is the same without these calls, and the other calls answer and report the same
(`Decoder.flagged_invisible`).
-/

namespace VideoAccel

open VideoAccel.Action

variable {δ α : Type}

/-- Something that happens to a decoder. -/
inductive Happening (δ α : Type) where
  | call (request : Call)
  /-- The device, the allocator and the picture store are changed from outside. -/
  | outside (change : δ × α × FramePool → δ × α × FramePool)

/-- What is seen of a happening. -/
structure Echo where
  answer : Except Fault Answer
  /-- The reports delivered meanwhile, oldest first. -/
  delivered : List Report

/-- The board with its device, allocator and picture store changed. -/
def Board.altered (change : δ × α × FramePool → δ × α × FramePool) (board : Board δ α) :
    Board δ α :=
  let parts := change (board.device, board.memory, board.frames)
  { board with device := parts.1, memory := parts.2.1, frames := parts.2.2 }

namespace Happening

def task? : Happening δ α → Option Task
  | call request => request.task?
  | outside _ => none

/-- The happening is a call for a chosen task. -/
def concerns (chosen : Task → Bool) (happening : Happening δ α) : Bool :=
  happening.task?.any chosen

section Single

variable [Device δ] [Allocator α]

def run : Happening δ α → Action (Decoder δ α) Answer
  | call request => request.ask
  | outside change => do
      modify (Decoder.mapBoard (Board.altered change))
      return .done

/-- The decoder afterwards. -/
def next (happening : Happening δ α) (decoder : Decoder δ α) : Decoder δ α :=
  after (happening.run decoder)

def echo (happening : Happening δ α) (decoder : Decoder δ α) : Echo where
  answer := outcome (happening.run decoder)
  delivered := (happening.next decoder).board.reports.toList.drop decoder.board.reports.size

theorem run_ignores (happening : Happening δ α) : IgnoresRecords happening.run := by
  cases happening with
  | call request => exact request.ask_ignores
  | outside change =>
      unfold run
      refine .bind (.of_quiet fun decoder other => ⟨other.journal, ?_⟩) fun _ => .pure _
      cases decoder <;> exact ⟨rfl, rfl, rfl⟩

/-- Nothing takes a report back. -/
theorem reports_next (happening : Happening δ α) (decoder : Decoder δ α) :
    (happening.next decoder).board.reports.toList =
      decoder.board.reports.toList ++ (happening.echo decoder).delivered := by
  obtain ⟨-, delivered, -, -, reports⟩ := happening.run_ignores decoder (records decoder)
  have grown : (happening.next decoder).board.reports = decoder.board.reports ++ delivered := reports
  rw [echo, grown, Array.toList_append, ← Array.length_toList, List.drop_left]

/-- Whatever is on record, a happening has the same echo and leaves the same decoder. -/
theorem echo_withRecords (happening : Happening δ α) (decoder : Decoder δ α) (other : Records) :
    happening.echo (withRecords other decoder) = happening.echo decoder ∧
    ∃ later, happening.next (withRecords other decoder) =
      withRecords later (happening.next decoder) := by
  obtain ⟨journal, delivered, answer, left, reports⟩ := happening.run_ignores decoder other
  have told : (happening.next (withRecords other decoder)).board.reports =
      other.reports ++ delivered := by
    rw [next, left]
    cases after (happening.run decoder) <;> rfl
  have plain : (happening.next decoder).board.reports = decoder.board.reports ++ delivered := reports
  have before : (withRecords other decoder).board.reports = other.reports := by
    cases decoder <;> rfl
  refine ⟨?_, _, left⟩
  rw [echo, echo, answer, told, plain, before]
  simp only [Array.toList_append, ← Array.length_toList, List.drop_left]

end Single

end Happening

namespace Decoder

/-- The decoder without its records. -/
def unrecorded (decoder : Decoder δ α) : Decoder δ α :=
  withRecords {} decoder

theorem unrecorded_withRecords (other : Records) (decoder : Decoder δ α) :
    (withRecords other decoder).unrecorded = decoder.unrecorded :=
  Recorded.withRecords_withRecords {} other decoder

variable [Device δ] [Allocator α]

/-- The decoder after all of this happened. -/
def live : List (Happening δ α) → Decoder δ α → Decoder δ α
  | [], decoder => decoder
  | happening :: later, decoder => live later (happening.next decoder)

/-- What is seen while all of this happens. -/
def echoes : List (Happening δ α) → Decoder δ α → List Echo
  | [], _ => []
  | happening :: later, decoder => happening.echo decoder :: echoes later (happening.next decoder)

/-- The reports on record are those that were seen to be delivered. -/
theorem reports_live (happenings : List (Happening δ α)) (decoder : Decoder δ α) :
    (live happenings decoder).board.reports.toList =
      decoder.board.reports.toList ++ (echoes happenings decoder).flatMap (·.delivered) := by
  induction happenings generalizing decoder with
  | nil => exact (List.append_nil _).symm
  | cons happening later ih =>
      rw [live, echoes, ih, happening.reports_next, List.flatMap_cons, List.append_assoc]

end Decoder

/-! ### Calls for tasks with error flags -/

namespace Session

/-- A task with error flags needs no slot. -/
theorem generate_skipped [Allocator α] {task : Task} (flagged : task.flags.hasError = true)
    (session : Session δ α) :
    generate task session = .ok { task with slot := none }
      (session.recorded (session.board.journal.push (.generationSkipped task.id task.flags))) := by
  unfold generate
  rw [if_pos flagged]
  rfl

/-- A task with error flags is not handed to the device. -/
theorem start_skipped [Device δ] {task : Task} (flagged : task.flags.hasError = true)
    (session : Session δ α) :
    start task session =
      .ok () (session.recorded (session.board.journal.push (.submissionSkipped task.id))) := by
  unfold start
  rw [if_pos flagged]
  rfl

end Session

namespace Call

variable [Device δ] [Allocator α] {session : Session δ α} {task : Task}

theorem ask_generate_skipped (flagged : task.flags.hasError = true) :
    (generate task).ask (.working session) = .ok (.task { task with slot := none })
      (.working (session.recorded
        (session.board.journal.push (.generationSkipped task.id task.flags)))) := by
  have ran : Decoder.generate task (.working session) = .ok { task with slot := none }
      (.working (session.recorded
        (session.board.journal.push (.generationSkipped task.id task.flags)))) := by
    rw [Decoder.generate, Decoder.inSession_working, Session.generate_skipped flagged]
  rw [ask, bind_of_ok ran]
  rfl

theorem ask_start_skipped (flagged : task.flags.hasError = true) :
    (start task).ask (.working session) = .ok .done
      (.working (session.recorded (session.board.journal.push (.submissionSkipped task.id)))) := by
  have ran : Decoder.start task (.working session) = .ok () (.working (session.recorded
      (session.board.journal.push (.submissionSkipped task.id)))) := by
    rw [Decoder.start, Decoder.inSession_working, Session.start_skipped flagged]
  rw [ask, bind_of_ok ran]
  rfl

theorem ask_wait_skipped (flagged : task.flags.hasError = true) :
    (wait task).ask (.working session) = .ok .done (.working (session.reported (.skip task))) := by
  have ran : Decoder.wait task (.working session) =
      .ok () (.working (session.reported (.skip task))) := by
    rw [Decoder.wait, Decoder.inSession_working, Session.wait_of_flagged flagged]
  rw [ask, bind_of_ok ran]
  rfl

/-- A call for a task with error flags changes nothing but what is on record. -/
theorem ask_flagged {request : Call} (made : request.task? = some task)
    (flagged : task.flags.hasError = true) (decoder : Decoder δ α) :
    ∃ other, after (request.ask decoder) = withRecords other decoder := by
  cases decoder with
  | idle board =>
      refine ⟨records board, ?_⟩
      cases request with
      | generate own => rfl
      | start own => rfl
      | wait own => rfl
      | control command => cases made
      | reset => cases made
      | flush => cases made
      | initialise config reporting => cases made
      | release => cases made
  | working session =>
      cases request with
      | generate own =>
          obtain rfl : own = task := Option.some.inj made
          rw [ask_generate_skipped flagged]
          exact ⟨⟨_, session.board.reports⟩, rfl⟩
      | start own =>
          obtain rfl : own = task := Option.some.inj made
          rw [ask_start_skipped flagged]
          exact ⟨⟨_, session.board.reports⟩, rfl⟩
      | wait own =>
          obtain rfl : own = task := Option.some.inj made
          rw [ask_wait_skipped flagged, Session.reported_eq]
          exact ⟨⟨session.board.journal, _⟩, rfl⟩
      | control command => cases made
      | reset => cases made
      | flush => cases made
      | initialise config reporting => cases made
      | release => cases made

end Call

namespace Happening

variable [Device δ] [Allocator α]

theorem next_flagged {happening : Happening δ α} {task : Task}
    (made : happening.task? = some task) (flagged : task.flags.hasError = true)
    (decoder : Decoder δ α) : ∃ other, happening.next decoder = withRecords other decoder := by
  cases happening with
  | call request => exact Call.ask_flagged made flagged decoder
  | outside change => cases made

/-- Waiting for a task with error flags delivers one report on it, if reports are wanted. -/
theorem echo_wait_flagged {task : Task} (flagged : task.flags.hasError = true)
    (session : Session δ α) :
    echo (.call (.wait task)) (.working session) =
      { answer := .ok .done
        delivered := if session.reporting then [.skip task] else [] } := by
  have waited : run (.call (.wait task)) (.working session) =
      .ok .done (.working (session.reported (.skip task))) := Call.ask_wait_skipped flagged
  rw [echo, next, waited, outcome_ok, after_ok]
  congr 1
  show (session.reported (.skip task)).board.reports.toList.drop session.board.reports.size = _
  rw [Session.reported_eq]
  cases session.reporting with
  | false => exact List.drop_eq_nil_of_le (Nat.le_of_eq Array.length_toList)
  | true => simp [← Array.length_toList]

end Happening

namespace Decoder

variable [Device δ] [Allocator α] {chosen : Task → Bool} {happenings : List (Happening δ α)}

/-- Leaving out calls for tasks with error flags makes no difference to anything else, whatever is on
record. -/
theorem live_others
    (flagged : ∀ happening ∈ happenings, ∀ task, happening.task? = some task →
      chosen task = true → task.flags.hasError = true) (decoder : Decoder δ α) (other : Records) :
    let others := happenings.filter fun happening => !happening.concerns chosen
    (live others decoder).unrecorded =
      (live happenings (withRecords other decoder)).unrecorded ∧
    echoes others decoder =
      ((happenings.zip (echoes happenings (withRecords other decoder))).filter
        fun pair => !pair.1.concerns chosen).map Prod.snd := by
  induction happenings generalizing decoder other with
  | nil => exact ⟨(unrecorded_withRecords other decoder).symm, rfl⟩
  | cons happening later ih =>
      have rest := fun decoder other => ih (fun next member => flagged next (.tail _ member))
        decoder other
      simp only [live, echoes, List.zip_cons_cons]
      cases concerned : happening.concerns chosen with
      | false =>
          obtain ⟨echoed, further, left⟩ := happening.echo_withRecords decoder other
          obtain ⟨same, heard⟩ := rest (happening.next decoder) further
          rw [List.filter_cons_of_pos (by simp [concerned]),
            List.filter_cons_of_pos (by simp [concerned]), live, echoes, left, echoed, List.map_cons]
          exact ⟨same, congrArg _ heard⟩
      | true =>
          obtain ⟨task, made, picked⟩ := (Option.any_eq_true _ _).mp concerned
          obtain ⟨more, same⟩ := Happening.next_flagged made
            (flagged happening List.mem_cons_self task made picked) (withRecords other decoder)
          rw [List.filter_cons_of_neg (by simp [concerned]),
            List.filter_cons_of_neg (by simp [concerned]), same,
            Recorded.withRecords_withRecords]
          exact rest decoder more

/-- Any choice of tasks that have error flags in all their calls can be left out of what happens to a
decoder. Without these calls the decoder is the same but for its records, and every other call
answers and delivers the same; the reports on record are those that were delivered. A `wait` for a
task with error flags delivers one report, on a skipped task without registers, if reports are
wanted. -/
theorem flagged_invisible
    (flagged : ∀ happening ∈ happenings, ∀ task, happening.task? = some task →
      chosen task = true → task.flags.hasError = true) (decoder : Decoder δ α) :
    let others := happenings.filter fun happening => !happening.concerns chosen
    (live others decoder).unrecorded = (live happenings decoder).unrecorded ∧
    echoes others decoder =
      ((happenings.zip (echoes happenings decoder)).filter
        fun pair => !pair.1.concerns chosen).map Prod.snd ∧
    (∀ all ∈ [happenings, others], (live all decoder).board.reports.toList =
      decoder.board.reports.toList ++ (echoes all decoder).flatMap (·.delivered)) ∧
    ∀ (session : Session δ α) (task : Task), task.flags.hasError = true →
      Happening.echo (.call (.wait task)) (.working session) =
        { answer := .ok .done
          delivered := if session.reporting then
              [{ task := task.id, outputSlot := task.outputSlot, hardError := true, skipped := true,
                 status := 0, file := #[] }]
            else [] } := by
  intro others
  obtain ⟨same, heard⟩ := live_others flagged decoder (records decoder)
  rw [Recorded.withRecords_records] at same heard
  exact ⟨same, heard, fun all _ => reports_live all decoder,
    fun session task flagged => Happening.echo_wait_flagged flagged session⟩

/-- The calls of a picture's life, with a skipped task in between. -/
def skippedBetween (skipped : Task) : List (Happening SimulatedDevice Arena) :=
  [.call (.initialise {} true), .call (.generate skipped), .call (.generate (.ofSize 0 64 64)),
    .call (.start skipped), .call (.start ((Task.ofSize 0 64 64).placed 0)), .call (.wait skipped),
    .call (.wait ((Task.ofSize 0 64 64).placed 0))]

/-- A decoder that skips task 1 between the calls for task 0 is as if it had never been asked to. -/
theorem second_task_invisible :
    let skipped : Task := { Task.ofSize 1 64 64 with flags := { referenceError := true } }
    let others : List (Happening SimulatedDevice Arena) :=
      [.call (.initialise {} true), .call (.generate (.ofSize 0 64 64)),
        .call (.start ((Task.ofSize 0 64 64).placed 0)),
        .call (.wait ((Task.ofSize 0 64 64).placed 0))]
    let decoder := idle (Board.atRest 1 64 64)
    (live others decoder).unrecorded = (live (skippedBetween skipped) decoder).unrecorded ∧
    echoes others decoder =
      (((skippedBetween skipped).zip (echoes (skippedBetween skipped) decoder)).filter
        fun pair => !pair.1.concerns fun task => task.id == 1).map Prod.snd := by
  intro skipped others decoder
  have flagged : ∀ happening ∈ skippedBetween skipped, ∀ task, happening.task? = some task →
      (task.id == 1) = true → task.flags.hasError = true := by
    intro happening member task made picked
    simp only [skippedBetween, List.mem_cons, List.not_mem_nil, or_false] at member
    rcases member with rfl | rfl | rfl | rfl | rfl | rfl | rfl <;> cases made
    · rfl
    · cases picked
    · rfl
    · cases picked
    · rfl
    · cases picked
  obtain ⟨same, heard, -⟩ := flagged_invisible flagged decoder
  exact ⟨same, heard⟩

end Decoder

end VideoAccel
