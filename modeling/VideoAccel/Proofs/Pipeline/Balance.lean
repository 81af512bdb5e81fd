import VideoAccel.Proofs.Memory.Books
import VideoAccel.Proofs.Pipeline.Formed

/-!
The books of a decoder, whatever allocator its buffers come from.

A decoder at work owns its line buffers, its motion vector buffers and its scratch buffer; an idle
decoder owns none. If the allocator keeps books and these buffers and those of others are all that is
out, then this is so after every call, answered or refused halfway (`Decoder.Balanced.next`), and so
after every run whose surroundings leave the books as they are (`Run.balanced`).
-/

namespace VideoAccel

variable {δ α : Type}

/-- The tags of all buffers of a session. -/
def Session.owned (session : Session δ α) : List (Handle × Nat) :=
  session.lines.tags ++ session.motion.tags ++ [session.scratch.tag]

/-- The tags of all buffers of a decoder. -/
def Decoder.owned : Decoder δ α → List (Handle × Nat)
  | idle _ => []
  | working session => session.owned

variable [Allocator α] [Books α] {others : List (Handle × Nat)}

namespace Session

/-- The buffers that are out are those of the session and those of others. -/
def Balanced (session : Session δ α) (others : List (Handle × Nat)) : Prop :=
  Books.Owes session.board.memory (session.owned ++ others)

variable {session later : Session δ α}

theorem Balanced.of_same {before after : Session δ α} (balanced : before.Balanced others)
    (scratch : after.scratch = before.scratch) (lines : after.lines.memory = before.lines.memory)
    (motion : after.motion = before.motion) (memory : after.board.memory = before.board.memory) :
    after.Balanced others := by
  have same : after.owned = before.owned := by
    simp only [owned, LineBufferCache.tags, lines, motion, scratch]
  unfold Balanced
  rw [same, memory]
  exact balanced

/-- Preparing a task may trade shared buffers for others; what is out is owned at each of its
ends. -/
theorem Balanced.prepares (balanced : session.Balanced others) {index : Nat} {task : Task}
    {content final : SlotContent} {outcome : Except Fault Unit} {supply : Supply α}
    {scratch : Buffer} (prepares : Prepares session index task content outcome supply scratch final) :
    Books.Owes supply.memory
      (supply.lines.tags ++ supply.motion.tags ++ [scratch.tag] ++ others) := by
  have changed := prepares.changedIn
  have provides := session.provision_spec task.coded.picture
  have tag : scratch.tag = session.scratch.tag := by
    unfold Buffer.tag
    rw [changed.handle, changed.size]
  unfold Balanced owned at balanced
  rw [List.append_assoc] at balanced
  have provided := Books.provides provides balanced
  rw [tag, List.append_assoc]
  cases prepares with
  | starved refused =>
      rw [refused] at provided
      exact provided
  | unbuilt granted refused =>
      rw [granted] at provided
      exact provided
  | @unsynced _ _ draft _ _ granted built refused =>
      rw [granted] at provided
      have passed := Books.sync draft.scratch provided
      rw [Action.after_ok, refused] at passed
      exact passed
  | @ready _ _ draft _ granted built synced =>
      rw [granted] at provided
      have passed := Books.sync draft.scratch provided
      rw [Action.after_ok, synced] at passed
      exact passed

theorem Balanced.generates (balanced : session.Balanced others) {task : Task}
    {outcome : Except Fault Task} (generates : Generates session task outcome later) :
    later.Balanced others := by
  cases generates with
  | skipped flagged journal => exact balanced.of_same rfl rfl rfl rfl
  | held unflagged names held => exact balanced
  | full unflagged unheld busy => exact balanced
  | failed unflagged unheld first prepares journal => exact balanced.prepares prepares
  | built unflagged unheld first prepares journal => exact balanced.prepares prepares

theorem Balanced.reported (balanced : session.Balanced others) (report : Report) :
    (session.reported report).Balanced others := by
  unfold Session.reported
  split
  · exact balanced.of_same rfl rfl rfl rfl
  · exact balanced

theorem Balanced.commanded (balanced : session.Balanced others) (compressed : Bool)
    (stride : StrideRule) (journal : Journal) :
    (session.commanded compressed stride journal).Balanced others := by
  refine balanced.of_same rfl ?_ rfl rfl
  unfold Session.commanded
  simp only
  split <;> rfl

section Hardware

variable [Device δ]

theorem Balanced.starts (balanced : session.Balanced others) {task : Task}
    {outcome : Except Fault Unit} (starts : Starts session task outcome later) :
    later.Balanced others := by
  cases starts with
  | skipped flagged journal => exact balanced.of_same rfl rfl rfl rfl
  | refused unflagged misdirected kind => exact balanced
  | failed unflagged owns refused journal => exact balanced.of_same rfl rfl rfl rfl
  | started unflagged owns accepted journal => exact balanced.of_same rfl rfl rfl rfl

theorem Balanced.waits (balanced : session.Balanced others) {task : Task}
    {outcome : Except Fault Unit} (waits : Waits session task outcome later) :
    later.Balanced others := by
  have settled : ∀ {device : δ} {index : Nat} {slot : Slot SlotContent} {journal : Journal},
      (session.redevice device index slot journal).Balanced others :=
    balanced.of_same rfl rfl rfl rfl
  cases waits with
  | skipped flagged => exact balanced.reported _
  | refused unflagged misdirected kind => exact balanced
  | lost unflagged owns silent journal => exact settled.reported _
  | finished unflagged owns collected stored journal => exact settled.reported _

end Hardware

/-- Closing a session gives every buffer of it back, and no other. -/
theorem Balanced.close (balanced : session.Balanced others) :
    Books.Owes session.close.memory others := by
  unfold Balanced owned at balanced
  have first : Books.Owes session.board.memory (session.scratch.tag ::
      (session.lines.tags ++ (session.motion.tags ++ others))) := by
    rw [List.append_assoc] at balanced
    rw [← List.append_assoc]
    exact Books.perm balanced List.perm_middle
  have last := Books.release_motion (Books.release_lines (Books.release first))
  unfold Session.close
  simp only
  split <;> exact last

end Session

namespace Decoder

/-- The buffers that are out are those of the decoder and those of others. -/
def Balanced (decoder : Decoder δ α) (others : List (Handle × Nat)) : Prop :=
  Books.Owes decoder.board.memory (decoder.owned ++ others)

variable {decoder : Decoder δ α}

/-- A scratch buffer that was taken is owned on top of what others own; if it was refused, nothing
else is owned than before. -/
theorem takeScratch_books {layout : ScratchLayout} {board after : Board δ α}
    (owes : Books.Owes board.memory others) :
    (∀ {scratch}, takeScratch layout board = .ok scratch after →
      Books.Owes after.memory (scratch.tag :: others)) ∧
    (∀ {fault}, takeScratch layout board = .error fault after →
      Books.Owes after.memory others) := by
  constructor
  · intro scratch taken
    obtain ⟨buffer, memory, synced, journal, granted, stored, passed, rfl⟩ :=
      takeScratch_stages taken
    have everywhere : Action.Keeps (Buffer.ChangedIn fun _ => True)
        (Buffer.write layout.entropyOffset EntropyTable.table) :=
      Buffer.write_changedIn fun _ _ _ => trivial
    have changed := everywhere.ok stored
    have tag : scratch.tag = buffer.tag := by
      unfold Buffer.tag
      rw [changed.handle, changed.size]
    have shown := Books.sync scratch (Books.grant owes granted)
    rw [passed] at shown
    rw [tag]
    exact shown
  · intro fault taken
    have takes := takeScratch_spec layout board
    rw [taken, Action.outcome_error, Action.after_error] at takes
    cases takes with
    | refused refuses => exact Books.refuse owes refuses
    | overrun granted overruns => exact Books.release (Books.grant owes granted)
    | @unsynced buffer filled _ memory synced granted stored refuses =>
        have shown := Books.sync filled (Books.grant owes granted)
        rw [refuses] at shown
        exact Books.release shown

theorem Balanced.released (balanced : decoder.Balanced others) :
    Books.Owes decoder.released.board.memory others := by
  cases decoder with
  | idle board => exact balanced
  | working session => exact Session.Balanced.close balanced

/-- Every call leaves a decoder with the buffers that are out, but for those of others. -/
theorem Balanced.next [Device δ] (balanced : decoder.Balanced others) (call : Call) :
    (call.next decoder).Balanced others := by
  have leads := call.next_spec decoder
  generalize call.next decoder = final at leads
  cases leads with
  | generated ends => exact Session.Balanced.generates balanced ends
  | started ends => exact Session.Balanced.starts balanced ends
  | waited ends => exact Session.Balanced.waits balanced ends
  | commanded => exact Session.Balanced.commanded balanced _ _ _
  | noted acknowledged => exact Session.Balanced.of_same balanced rfl rfl rfl rfl
  | released => exact Session.Balanced.close balanced
  | ignored other => exact balanced
  | refused invalid => exact balanced
  | failed valid taken =>
      have left := (takeScratch_books balanced.released).2 taken
      exact left
  | opened valid taken =>
      have held := (takeScratch_books balanced.released).1 taken
      exact held

end Decoder

/-- In every state that a run can reach, the buffers that are out are those of the decoder and those of
others, if the surroundings hand out no buffer and take none back. -/
theorem Run.balanced [Device δ] {surroundings : Board δ α → Board δ α → Prop}
    (calm : ∀ {before after : Board δ α} {tags : List (Handle × Nat)}, surroundings before after →
      Books.Owes before.memory tags → Books.Owes after.memory tags)
    {first decoder : Decoder δ α} {moments : List (Moment δ α)}
    (run : Run surroundings first moments decoder) (begins : first.Balanced others) :
    decoder.Balanced others := by
  induction run with
  | nil => exact begins
  | call earlier call ih => exact ih.next call
  | @outside moments decoder earlier board allowed ih =>
      cases decoder with
      | idle before => exact calm allowed ih
      | working session => exact calm allowed ih

end VideoAccel
