import Mathlib.Data.List.DropRight
import VideoAccel.Proofs.Memory.GrantLog
import VideoAccel.Proofs.Pipeline.Backing
import VideoAccel.Proofs.Pipeline.Caches

/-!
When shared buffers are allocated.

Of all calls only a `generate` that finds a slot for its task asks for line buffers and motion vector
buffers, and no other call of a session allocates anything (`Call.grants_nothing`). Which of the two it
asks for can be told from the calls since the session was opened (`Run.follows`): line buffers if
those of the last such call were for another key, or if compressed output was switched since
(`Moment.stale`); motion vector buffers if every such call so far needed less (`Moment.short`). The
first such call asks for both. `Run.reallocates_on_change` puts this together, and says that any
number of pictures of one geometry cost one line buffer allocation and one pool.
-/

namespace VideoAccel

variable {δ α : Type}

namespace Session

/-- What the picture needs in this session. -/
def demand (session : Session δ α) (picture : Picture) : Demand where
  shape := session.shapeOf picture
  motion := MotionPool.bytesFor picture.sequence.width picture.sequence.height
    picture.sequence.fieldCoding

end Session

/-! ### What the calls so far tell -/

/-- The call opens a session, or closes the one at work to open another: its settings are usable. -/
def Call.Opens : Call → Prop
  | .initialise config _ => config.validate = .ok ()
  | _ => False

namespace Moment

/-- What the task of a `generate` needs, if the call finds a slot for it. -/
def seated? (moment : Moment δ α) : Option Demand :=
  match moment.call, moment.before with
  | .generate task, .working session =>
      if session.seats task then some (session.demand task.coded.picture) else none
  | _, _ => none

/-- The call is a command that switches compressed output on or off. -/
def switches (moment : Moment δ α) : Bool :=
  match moment.call, moment.before with
  | .control command, .working session =>
      (Action.after (Session.control command session)).compressed != session.compressed
  | _, _ => false

/-- A `generate` finds a slot for its task, and is refused a shared buffer. -/
def starves [Allocator α] (moment : Moment δ α) : Bool :=
  match moment.call, moment.before with
  | .generate task, .working session =>
      session.seats task &&
        !(Action.outcome (session.provision task.coded.picture session.supply)).isOk
  | _, _ => false

/-- What the tasks that found a slot needed, oldest first. -/
def seated (moments : List (Moment δ α)) : List Demand :=
  moments.filterMap seated?

/-- The moments since a task last found a slot. -/
def sinceSeated (moments : List (Moment δ α)) : List (Moment δ α) :=
  moments.rtakeWhile fun moment => moment.seated?.isNone

/-- No line buffers for the given key are at hand: the last task that found a slot had a picture with
another key, or there was none, or compressed output was switched since. -/
def stale (moments : List (Moment δ α)) (key : ShapeKey) : Bool :=
  (seated moments).getLast?.map (·.shape.key) != some key || (sinceSeated moments).any (·.switches)

/-- Every task that found a slot needed fewer bytes for motion vectors. -/
def short (moments : List (Moment δ α)) (size : Nat) : Bool :=
  (seated moments).all fun demand => decide (demand.motion < size)

variable {moments : List (Moment δ α)} {moment : Moment δ α}

theorem switches_control (command : Command) (session : Session δ α) :
    (⟨.working session, .control command⟩ : Moment δ α).switches =
      ((Action.after (Session.control command session)).compressed != session.compressed) := rfl

theorem seated?_eq_some {demand : Demand} (seated : moment.seated? = some demand) :
    ∃ session task, moment = ⟨.working session, .generate task⟩ ∧ session.seats task = true ∧
      demand = session.demand task.coded.picture := by
  obtain ⟨before, call⟩ := moment
  unfold seated? at seated
  split at seated
  · rename_i task session made work
    split at seated
    · rename_i seats
      cases seated
      cases made
      cases work
      exact ⟨session, task, rfl, seats, rfl⟩
    · cases seated
  · cases seated

theorem seated_concat (moments : List (Moment δ α)) (moment : Moment δ α) :
    seated (moments ++ [moment]) = seated moments ++ moment.seated?.toList :=
  filterMap_concat seated? moments moment

theorem stale_concat_of_seated {demand : Demand} (seats : moment.seated? = some demand)
    (key : ShapeKey) : stale (moments ++ [moment]) key = (demand.shape.key != key) := by
  have none_since : sinceSeated (moments ++ [moment]) = [] := by
    rw [sinceSeated, List.rtakeWhile_concat, seats]
    rfl
  rw [stale, none_since, seated_concat, seats, Option.toList_some, List.getLast?_concat]
  simp only [Option.map_some, List.any_nil, Bool.or_false]
  rfl

theorem stale_concat_of_unseated (turned : moment.seated? = none) (key : ShapeKey) :
    stale (moments ++ [moment]) key = (stale moments key || moment.switches) := by
  have since : sinceSeated (moments ++ [moment]) = sinceSeated moments ++ [moment] := by
    rw [sinceSeated, List.rtakeWhile_concat, turned]
    rfl
  rw [stale, since, seated_concat, turned, Option.toList_none, List.append_nil, stale,
    List.any_append, Bool.or_assoc]
  simp only [List.any_cons, List.any_nil, Bool.or_false]

theorem short_concat (moments : List (Moment δ α)) (moment : Moment δ α) (size : Nat) :
    short (moments ++ [moment]) size =
      (short moments size && moment.seated?.toList.all fun demand => decide (demand.motion < size)) := by
  rw [short, seated_concat, List.all_append, short]

/-- Among pictures with one key, and without a switch of compressed output, only the first finds the
line buffers stale. -/
theorem stale_of_uniform {key : ShapeKey}
    (alike : ∀ demand ∈ seated moments, demand.shape.key = key)
    (steady : ∀ moment ∈ moments, moment.switches = false) :
    stale moments key = (seated moments).isEmpty := by
  have unswitched : (sinceSeated moments).any (·.switches) = false := by
    rw [List.any_eq_false]
    intro moment since
    rw [steady moment ((List.rtakeWhile_suffix _ moments).subset since)]
    exact Bool.false_ne_true
  rw [stale, unswitched, Bool.or_false]
  cases last : (seated moments).getLast? with
  | none =>
      rw [List.getLast?_eq_none_iff.mp last]
      rfl
  | some demand =>
      have member := List.mem_of_getLast? last
      have nonempty : (seated moments).isEmpty = false :=
        List.isEmpty_eq_false_iff.mpr (List.ne_nil_of_mem member)
      rw [nonempty, Option.map_some, alike demand member, bne_self_eq_false]

/-- Among pictures with equally many bytes of motion vectors only the first finds the pool short. -/
theorem short_of_uniform {size : Nat} (alike : ∀ demand ∈ seated moments, demand.motion = size) :
    short moments size = (seated moments).isEmpty := by
  unfold short
  generalize seated moments = demands at alike
  cases demands with
  | nil => rfl
  | cons demand rest =>
      rw [List.all_cons, alike demand List.mem_cons_self]
      simp

end Moment

/-! ### What a call does to the shared buffers -/

namespace Session

variable {session later : Session δ α} {task : Task}

theorem seated?_of_seats (seats : session.seats task = true) :
    (⟨.working session, .generate task⟩ : Moment δ α).seated? =
      some (session.demand task.coded.picture) := if_pos seats

theorem seated?_of_turned (turned : session.seats task = false) :
    (⟨.working session, .generate task⟩ : Moment δ α).seated? = none := by
  unfold Moment.seated?
  simp only [turned]
  rfl

/-- Shared buffers, allocator and picture store are those of before. -/
structure KeepsSupply (before after : Session δ α) : Prop where
  supply : after.supply = before.supply
  frames : after.board.frames = before.board.frames

theorem Starts.keepsSupply [Device δ] {outcome : Except Fault Unit}
    (starts : Starts session task outcome later) : session.KeepsSupply later := by
  cases starts <;> exact ⟨rfl, rfl⟩

theorem Waits.keepsSupply [Device δ] {outcome : Except Fault Unit}
    (waits : Waits session task outcome later) : session.KeepsSupply later := by
  cases waits with
  | skipped flagged =>
      rw [reported_eq]
      exact ⟨rfl, rfl⟩
  | refused unflagged misdirected kind => exact ⟨rfl, rfl⟩
  | lost unflagged owns silent journal =>
      rw [reported_eq]
      exact ⟨rfl, rfl⟩
  | finished unflagged owns collected stored journal =>
      rw [reported_eq]
      exact ⟨rfl, rfl⟩

variable [Allocator α]

theorem isOk_of_fed (seats : session.seats task = true)
    (fed : (⟨.working session, .generate task⟩ : Moment δ α).starves = false) :
    (Action.outcome (session.provision task.coded.picture session.supply)).isOk = true := by
  unfold Moment.starves at fed
  simpa [seats] using fed

/-- A generated task found a slot, and was refused no shared buffer. -/
theorem Generated.seats {index : Nat} (generated : session.Generated task index later) :
    session.seats task = true ∧
      (⟨.working session, .generate task⟩ : Moment δ α).starves = false := by
  have reached := generated.reaches
  rw [reaches_eq, Bool.and_eq_true] at reached
  refine ⟨reached.1, ?_⟩
  unfold Moment.starves
  simp only [reached.2, Bool.not_true, Bool.and_false]

section Log

variable [GrantLog α]

/-- What a `generate` of the task does to the shared buffers. -/
inductive Supplies (session : Session δ α) (task : Task) (later : Session δ α) : Prop where
  /-- It finds no slot for the task. -/
  | unseated (turned : session.seats task = false) (same : later.supply = session.supply)
  /-- It is refused a shared buffer. -/
  | starved (seats : session.seats task = true)
      (refused : (Action.outcome (session.provision task.coded.picture session.supply)).isOk = false)
  /-- It readies the shared buffers, and allocates nothing after that. -/
  | supplied (seats : session.seats task = true) {supply : Supply α}
      (provides : session.supply.Provides (session.demand task.coded.picture).shape
        session.board.frames.slotCount (session.demand task.coded.picture).motion (.ok ()) supply)
      (lines : later.lines = supply.lines) (motion : later.motion = supply.motion)
      (granted : GrantLog.granted later.board.memory = GrantLog.granted supply.memory)

theorem Prepares.supplies (admits : session.Admits task) {index : Nat}
    {content final : SlotContent} {outcome : Except Fault Unit} {supply : Supply α}
    {scratch : Buffer} (prepares : Prepares session index task content outcome supply scratch final)
    (slot : Slot SlotContent) (journal : Journal) :
    Supplies session task (session.settle index slot supply scratch journal) := by
  have seats := seats_iff.mpr admits
  have provides := session.provision_spec task.coded.picture
  cases prepares with
  | starved refused => exact .starved seats (by rw [refused]; rfl)
  | unbuilt provided refused =>
      rw [provided] at provides
      exact .supplied seats provides rfl rfl rfl
  | @unsynced supply full draft fault memory provided built refused =>
      rw [provided] at provides
      have synced := GrantLog.sync draft.scratch supply.memory
      rw [refused, Action.after_error] at synced
      exact .supplied seats provides rfl rfl synced
  | @ready supply full draft memory provided built passed =>
      rw [provided] at provides
      have synced := GrantLog.sync draft.scratch supply.memory
      rw [passed, Action.after_ok] at synced
      exact .supplied seats provides rfl rfl synced

theorem Generates.supplies {outcome : Except Fault Task}
    (generates : Generates session task outcome later) :
    Supplies session task later ∧ later.board.frames = session.board.frames := by
  rcases generates.admission with
    ⟨out, journal, rfl⟩ | ⟨admits, index, old, answer, supply, scratch, content, taken, stage,
      journal, first, prepares, rfl⟩
  · exact ⟨.unseated (seats_eq_false_iff.mpr out) rfl, rfl⟩
  · exact ⟨prepares.supplies admits ⟨taken, stage, content⟩ journal, rfl⟩

end Log

end Session

/-- A call that opens no session and finds no slot for a task allocates nothing. -/
theorem Call.grants_nothing [Device δ] [Allocator α] [GrantLog α] {call : Call}
    (closed : ¬ call.Opens) {decoder : Decoder δ α}
    (turned : (⟨decoder, call⟩ : Moment δ α).seated? = none) :
    GrantLog.granted (call.next decoder).board.memory =
      GrantLog.granted decoder.board.memory := by
  have same : ∀ {session later : Session δ α}, later.supply = session.supply →
      GrantLog.granted later.board.memory = GrantLog.granted session.board.memory :=
    fun same => congrArg (fun supply : Supply α => GrantLog.granted supply.memory) same
  have leads := call.next_spec decoder
  generalize call.next decoder = next at leads
  cases leads with
  | @generated session task ends =>
      have unseated : session.seats task = true → False := by
        intro seats
        rw [Session.seated?_of_seats seats] at turned
        cases turned
      cases ends.supplies.1 with
      | unseated out kept => exact same kept
      | starved seats refused => exact (unseated seats).elim
      | supplied seats provides lines motion granted => exact (unseated seats).elim
  | started ends => exact same ends.keepsSupply.supply
  | waited ends => exact same ends.keepsSupply.supply
  | commanded => rfl
  | noted acknowledged => rfl
  | @released session =>
      have closes : session.close.memory = (session.motion.release (session.lines.release
          (Allocator.release session.scratch session.board.memory)).2).2 := by
        unfold Session.close
        split <;> rfl
      show GrantLog.granted session.close.memory = _
      rw [closes, GrantLog.release_motion, GrantLog.release_lines, GrantLog.release]
      rfl
  | ignored other => rfl
  | refused invalid => rfl
  | failed valid taken => exact absurd valid closed
  | opened valid taken => exact absurd valid closed

namespace Session

variable {slots : Nat} {moments : List (Moment δ α)} {session later : Session δ α}

/-- The picture store has so many slots, and the shared buffers at hand serve what the calls so far
say. -/
structure Follows (slots : Nat) (moments : List (Moment δ α)) (session : Session δ α) : Prop where
  slotCount : session.board.frames.slotCount = slots
  lines : ∀ shape, session.lines.serves shape = !Moment.stale moments shape.key
  motion : ∀ size, session.motion.serves slots size = !Moment.short moments size

theorem Follows.opened (config : Config) (reporting : Bool) (scratch : Buffer) (board : Board δ α) :
    (Session.opened config reporting scratch board).Follows board.frames.slotCount [] where
  slotCount := rfl
  lines _ := rfl
  motion _ := rfl

/-- A call that finds no slot for a task changes nothing but what a switch of compressed output
makes stale. -/
theorem Follows.unseated (follows : session.Follows slots moments) {moment : Moment δ α}
    (turned : moment.seated? = none) (frames : later.board.frames.slotCount = slots)
    (lines : ∀ shape, later.lines.serves shape = (session.lines.serves shape && !moment.switches))
    (motion : later.motion = session.motion) : later.Follows slots (moments ++ [moment]) where
  slotCount := frames
  lines shape := by
    rw [lines, follows.lines, Moment.stale_concat_of_unseated turned, Bool.not_or]
  motion size := by
    rw [motion, follows.motion, Moment.short_concat, turned, Option.toList_none, List.all_nil,
      Bool.and_true]

/-- A command that switches compressed output outdates the line buffers. -/
theorem serves_commanded (session : Session δ α) (compressed : Bool) (stride : StrideRule)
    (journal : Journal) (shape : PictureShape) :
    (session.commanded compressed stride journal).lines.serves shape =
      (session.lines.serves shape && !(compressed != session.compressed)) := by
  unfold commanded
  by_cases same : session.compressed = compressed
  · rw [if_pos same, same, bne_self_eq_false, Bool.not_false, Bool.and_true]
  · have differs : (compressed != session.compressed) = true := bne_iff_ne.mpr (Ne.symm same)
    rw [if_neg same, differs, Bool.not_true, Bool.and_false, LineBufferCache.serves_invalidate]

/-- A call that has no part in allocating. -/
theorem Follows.kept (follows : session.Follows slots moments) {moment : Moment δ α}
    (turned : moment.seated? = none) (unswitched : moment.switches = false)
    (keeps : session.KeepsSupply later) : later.Follows slots (moments ++ [moment]) := by
  have lines : later.lines = session.lines := congrArg Supply.lines keeps.supply
  refine follows.unseated turned ?_ (fun shape => ?_) (congrArg Supply.motion keeps.supply)
  · rw [keeps.frames, follows.slotCount]
  · rw [lines, unswitched, Bool.not_false, Bool.and_true]

section Memory

variable [Allocator α]

/-- A call that readies the shared buffers for the picture of its task. -/
theorem Follows.supplied {task : Task} (follows : session.Follows slots moments)
    (seats : session.seats task = true) {supply : Supply α}
    (provides : session.supply.Provides (session.demand task.coded.picture).shape
      session.board.frames.slotCount (session.demand task.coded.picture).motion (.ok ()) supply)
    (frames : later.board.frames.slotCount = slots) (lines : later.lines = supply.lines)
    (motion : later.motion = supply.motion) :
    later.Follows slots (moments ++ [⟨.working session, .generate task⟩]) := by
  have seated := seated?_of_seats seats
  rw [follows.slotCount] at provides
  cases provides with
  | provided ready granted =>
      refine ⟨frames, ?_, ?_⟩
      · intro shape
        rw [lines, Moment.stale_concat_of_seated seated, Bool.eq_iff_iff, ready.serves_iff, bne,
          Bool.not_not, beq_iff_eq]
        exact eq_comm
      · intro size
        have served : session.supply.motion.serves slots size = !Moment.short moments size :=
          follows.motion size
        rw [motion, Moment.short_concat, seated, Bool.eq_iff_iff, granted.serves_iff, served]
        simp only [Option.toList_some, List.all_cons, List.all_nil, Bool.and_true, Bool.not_and,
          Bool.or_eq_true, Bool.not_eq_true', decide_eq_false_iff_not, Nat.not_lt]

/-- A call that opens no session, and is not refused a shared buffer. -/
theorem Follows.next [Device δ] [GrantLog α] {call : Call} (closed : ¬ call.Opens)
    (follows : session.Follows slots moments)
    (fed : (⟨.working session, call⟩ : Moment δ α).starves = false)
    (reached : call.next (.working session) = .working later) :
    later.Follows slots (moments ++ [⟨.working session, call⟩]) := by
  have leads := call.next_spec (.working session)
  rw [reached] at leads
  cases leads with
  | @generated _ task ends =>
      obtain ⟨supplies, frames⟩ := ends.supplies
      cases supplies with
      | unseated turned same => exact follows.kept (seated?_of_turned turned) rfl ⟨same, frames⟩
      | starved seats refused => cases refused.symm.trans (isOk_of_fed seats fed)
      | supplied seats provides lines motion granted =>
          exact follows.supplied seats provides (by rw [frames, follows.slotCount]) lines motion
  | started ends => exact follows.kept rfl rfl ends.keepsSupply
  | waited ends => exact follows.kept rfl rfl ends.keepsSupply
  | @commanded _ command compressed stride journal =>
      -- What the command made of the flag is what the call leaves.
      have switches : (⟨.working session, .control command⟩ : Moment δ α).switches =
          (compressed != session.compressed) := by
        rw [Call.next_control] at reached
        injection reached with same
        rw [Moment.switches_control, same]
        rfl
      refine follows.unseated rfl follows.slotCount (fun shape => ?_) rfl
      rw [switches, serves_commanded]
  | noted acknowledged =>
      rcases acknowledged with rfl | rfl
      · exact follows.kept rfl rfl ⟨rfl, rfl⟩
      · exact follows.kept rfl rfl ⟨rfl, rfl⟩
  | refused invalid =>
      exact follows.kept rfl rfl ⟨rfl, rfl⟩
  | opened valid taken => exact absurd valid closed

end Memory

end Session

/-- Along a run of an opened session in which no shared buffer is refused, the shared buffers serve
what the calls so far say. -/
theorem Run.follows [Device δ] [Allocator α] [GrantLog α]
    {surroundings : Board δ α → Board δ α → Prop}
    (fixed : ∀ before after, surroundings before after →
      after.frames.slotCount = before.frames.slotCount)
    {slots : Nat} {first : Session δ α} (begins : first.Follows slots [])
    {moments : List (Moment δ α)} {current : Decoder δ α}
    (run : Run surroundings (.working first) moments current)
    (once : ∀ moment ∈ moments, ¬ moment.call.Opens)
    (fed : ∀ moment ∈ moments, moment.starves = false) :
    ∀ session, current = .working session → session.Follows slots moments := by
  induction run with
  | nil =>
      intro session same
      cases same
      exact begins
  | @call moments decoder earlier call ih =>
      intro later reached
      obtain ⟨onceBefore, closed⟩ := List.forall_mem_append.mp once
      obtain ⟨fedBefore, served⟩ := List.forall_mem_append.mp fed
      rw [List.forall_mem_singleton] at closed served
      cases decoder with
      | idle board =>
          have leads := call.next_spec (.idle board)
          rw [reached] at leads
          cases leads with
          | opened valid taken => exact absurd valid closed
      | working session =>
          have follows := ih onceBefore fedBefore session rfl
          exact follows.next closed served reached
  | @outside moments decoder earlier board allowed ih =>
      intro later reached
      cases decoder with
      | idle board => cases reached
      | working session =>
          cases reached
          have follows := ih once fed session rfl
          exact ⟨(fixed _ _ allowed).trans follows.slotCount, follows.lines, follows.motion⟩

namespace Session

section Log

variable [Allocator α] [GrantLog α]

/-- From one session to a later one the line buffers were replaced if `stale` is set, and the motion
vector pool was rebuilt if `short` is; otherwise they stayed, and nothing else was allocated. -/
structure Reallocates (session later : Session δ α) (demand : Demand) (slots : Nat)
    (stale short : Bool) : Prop where
  granted : GrantLog.granted later.board.memory =
    GrantLog.granted session.board.memory ++ demand.grants slots stale short
  linesReplaced : stale = true →
    later.lines.memory.isSome = true ∧ later.lines.placedFor = some demand.shape.key
  linesKept : stale = false → later.lines = session.lines
  motionRebuilt : short = true →
    later.motion.slotCount = slots ∧ later.motion.bufferSize = demand.motion
  motionKept : short = false → later.motion = session.motion

/-- A `generate` that finds a slot for its task and is refused no shared buffer allocates what those
at hand do not serve. -/
theorem Follows.reallocates {slots : Nat} {moments : List (Moment δ α)} {session : Session δ α}
    (formed : session.Formed) (follows : session.Follows slots moments) {task : Task}
    (seats : session.seats task = true)
    (fed : (⟨.working session, .generate task⟩ : Moment δ α).starves = false) :
    session.Reallocates (Action.after (generate task session)) (session.demand task.coded.picture)
      slots (Moment.stale moments (session.demand task.coded.picture).shape.key)
      (Moment.short moments (session.demand task.coded.picture).motion) := by
  have outdated : (!session.lines.serves (session.demand task.coded.picture).shape) =
      Moment.stale moments (session.demand task.coded.picture).shape.key :=
    (congrArg not (follows.lines _)).trans (Bool.not_not _)
  have outgrown : (!session.motion.serves slots (session.demand task.coded.picture).motion) =
      Moment.short moments (session.demand task.coded.picture).motion :=
    (congrArg not (follows.motion _)).trans (Bool.not_not _)
  cases (generate_spec session task).supplies.1 with
  | unseated turned same => cases seats.symm.trans turned
  | starved _ refused => cases refused.symm.trans (isOk_of_fed seats fed)
  | @supplied _ supply provides lines motion granted =>
      rw [follows.slotCount] at provides
      have log : GrantLog.granted supply.memory = GrantLog.granted session.board.memory ++
          (session.demand task.coded.picture).grants slots (!session.lines.serves _)
            (!session.motion.serves slots _) := GrantLog.provides formed.registers provides
      rw [outdated, outgrown] at log
      cases provides with
      | provided ready answered =>
          refine ⟨granted.trans log, fun _ => ?_, fun fresh => ?_, fun short => ?_, fun long => ?_⟩
          · rw [lines]
            exact ready.placed
          · rw [lines]
            exact ready.eq_of_serves ((follows.lines _).trans (congrArg not fresh))
          · rw [motion]
            exact answered.rebuilt_of_outgrown ((follows.motion _).trans (congrArg not short))
          · rw [motion]
            exact answered.eq_of_serves ((follows.motion _).trans (congrArg not long))

end Log

end Session

/-- Pictures of one geometry cost the buffers of the first of them, if compressed output is not
switched. -/
theorem Run.granted_of_uniform [Device δ] [Allocator α] [GrantLog α]
    {surroundings : Board δ α → Board δ α → Prop}
    (fixed : ∀ before after, surroundings before after →
      after.frames.slotCount = before.frames.slotCount)
    (aside : ∀ before after, surroundings before after →
      GrantLog.granted after.memory = GrantLog.granted before.memory)
    {slots : Nat} {first : Session δ α} (formed : first.Formed) (begins : first.Follows slots [])
    {moments : List (Moment δ α)} {current : Decoder δ α}
    (run : Run surroundings (.working first) moments current)
    (once : ∀ moment ∈ moments, ¬ moment.call.Opens)
    (fed : ∀ moment ∈ moments, moment.starves = false)
    (steady : ∀ moment ∈ moments, moment.switches = false) {key : ShapeKey} {size : Nat}
    (alike : ∀ demand ∈ Moment.seated moments, demand.shape.key = key ∧ demand.motion = size) :
    GrantLog.granted current.board.memory =
      GrantLog.granted first.board.memory ++ Demand.cost slots (Moment.seated moments) := by
  induction run with
  | nil => exact (List.append_nil _).symm
  | @call moments decoder earlier call ih =>
      obtain ⟨onceBefore, closed⟩ := List.forall_mem_append.mp once
      obtain ⟨fedBefore, served⟩ := List.forall_mem_append.mp fed
      rw [List.forall_mem_singleton] at closed served
      have steadyBefore := (List.forall_mem_append.mp steady).1
      rw [Moment.seated_concat] at alike ⊢
      obtain ⟨alikeBefore, alikeLast⟩ := List.forall_mem_append.mp alike
      have before := ih onceBefore fedBefore steadyBefore alikeBefore
      -- The last call adds what the calls before it did not provide for.
      cases seated : (⟨decoder, call⟩ : Moment δ α).seated? with
      | none =>
          rw [Call.grants_nothing closed seated, before, Option.toList_none, List.append_nil]
      | some demand =>
          rw [seated, Option.toList_some, List.forall_mem_singleton] at alikeLast
          obtain ⟨session, task, same, seats, rfl⟩ := Moment.seated?_eq_some seated
          cases same
          have before : GrantLog.granted session.board.memory = _ := before
          have follows := earlier.follows fixed begins onceBefore fedBefore session rfl
          have whole : session.Formed := earlier.formed fun _ same => by
            cases same
            exact formed
          have granted := (follows.reallocates whole seats served).granted
          rw [alikeLast.1, alikeLast.2,
            Moment.stale_of_uniform (fun d member => (alikeBefore d member).1) steadyBefore,
            Moment.short_of_uniform fun d member => (alikeBefore d member).2, before] at granted
          rw [Call.next_generate, Option.toList_some, Demand.cost_concat, ← List.append_assoc]
          exact granted
  | @outside moments decoder earlier board allowed ih =>
      rw [← ih once fed steady alike, ← aside _ _ allowed]
      cases decoder <;> rfl

/-! ### Reallocation on change only -/

/-- Shared buffers are allocated only on change, in every run of an opened session in which no shared
buffer is refused and the number of slots of the picture store stays. A `generate` that finds a slot
for its task allocates line buffers exactly if it is the first of its kind, the key of its picture is
another one than that of the last, or compressed output was switched since; it rebuilds the motion
vector pool, with one buffer for every slot, exactly if it is the first or needs more than all before.
No other call allocates anything. So any number of pictures of one geometry cost one line buffer
allocation and one pool, as long as compressed output is not switched. -/
theorem Run.reallocates_on_change [Device δ] [Allocator α] [GrantLog α]
    {surroundings : Board δ α → Board δ α → Prop}
    (fixed : ∀ before after, surroundings before after →
      after.frames.slotCount = before.frames.slotCount)
    {config : Config} {reporting : Bool} {decoder : Decoder δ α} {capability : Capability}
    {first : Session δ α}
    (opens : Decoder.initialise config reporting decoder = .ok capability (.working first))
    {moments : List (Moment δ α)} {current : Decoder δ α}
    (run : Run surroundings (.working first) moments current)
    (once : ∀ moment ∈ moments, ¬ moment.call.Opens)
    (fed : ∀ moment ∈ moments, moment.starves = false) :
    (∀ session task, current = .working session → session.seats task = true →
      (⟨current, .generate task⟩ : Moment δ α).starves = false →
      session.Reallocates (Action.after (Session.generate task session))
        (session.demand task.coded.picture) first.board.frames.slotCount
        (Moment.stale moments (session.demand task.coded.picture).shape.key)
        (Moment.short moments (session.demand task.coded.picture).motion)) ∧
    (∀ call : Call, ¬ call.Opens → (⟨current, call⟩ : Moment δ α).seated? = none →
      GrantLog.granted (call.next current).board.memory = GrantLog.granted current.board.memory) ∧
    ((∀ before after, surroundings before after →
        GrantLog.granted after.memory = GrantLog.granted before.memory) →
      (∀ moment ∈ moments, moment.switches = false) → ∀ key size,
      (∀ demand ∈ Moment.seated moments, demand.shape.key = key ∧ demand.motion = size) →
      GrantLog.granted current.board.memory = GrantLog.granted first.board.memory ++
        Demand.cost first.board.frames.slotCount (Moment.seated moments)) := by
  obtain ⟨valid, scratch, left, rfl, -, -⟩ := Decoder.initialise_eq_ok opens
  have formed := Session.Formed.opened valid reporting scratch left
  have begins := Session.Follows.opened config reporting scratch left
  refine ⟨?_, ?_, ?_⟩
  · rintro session task rfl seats fed'
    have follows := run.follows fixed begins once fed session rfl
    have whole : session.Formed := run.formed fun _ same => by
      cases same
      exact formed
    exact follows.reallocates whole seats fed'
  · exact fun call closed turned => Call.grants_nothing closed turned
  · intro aside steady key size alike
    exact run.granted_of_uniform fixed aside formed begins once fed steady alike

/-- The first picture costs line buffers and a motion vector buffer for each of four slots. A picture
of the same area that is wider than high costs other line buffers, and keeps the pool. -/
theorem turned_picture_keeps_pool : ∃ opened one two : Session SimulatedDevice Arena,
    Decoder.initialise {} true (.idle (Board.atRest 4 64 128)) =
      .ok (Decoder.capability {}) (.working opened) ∧
    Session.generate (.ofSize 0 64 128) opened = .ok ((Task.ofSize 0 64 128).placed 0) one ∧
    Session.generate (.ofSize 1 128 64) one = .ok ((Task.ofSize 1 128 64).placed 1) two ∧
    GrantLog.granted one.board.memory =
      GrantLog.granted opened.board.memory ++ [1216, 4096, 4096, 4096, 4096] ∧
    GrantLog.granted two.board.memory = GrantLog.granted one.board.memory ++ [2240] ∧
    two.motion = one.motion := by
  obtain ⟨opened, one, two, slot, initialised, first, second, frames, compressed, still, -⟩ :=
    two_sizes_built
  obtain ⟨seats₁, fed₁⟩ := Session.Generated.seats ⟨rfl, first⟩
  obtain ⟨seats₂, fed₂⟩ := Session.Generated.seats ⟨rfl, second⟩
  have run : Run (fun _ _ => False) (.working opened) _ _ :=
    .call .nil (.generate (.ofSize 0 64 128))
  rw [Call.next_generate, first, Action.after_ok] at run
  have demand₁ : opened.demand (Task.ofSize 0 64 128).coded.picture =
      ⟨⟨64, 128, 8, 1, false, false⟩, 4096⟩ := by
    rw [Session.demand, Session.shapeOf_ofSize compressed]
    rfl
  have demand₂ : one.demand (Task.ofSize 1 128 64).coded.picture =
      ⟨⟨128, 64, 8, 1, false, false⟩, 4096⟩ := by
    rw [Session.demand, Session.shapeOf_ofSize still]
    rfl
  have seated := Session.seated?_of_seats seats₁
  rw [demand₁] at seated
  obtain ⟨reallocates, -, uniform⟩ := Run.reallocates_on_change (fun _ _ => False.elim) initialised run
    (fun moment member => by cases List.mem_singleton.mp member; exact id)
    (fun moment member => by cases List.mem_singleton.mp member; exact fed₁)
  have whole := uniform (fun _ _ => False.elim)
    (fun moment member => by cases List.mem_singleton.mp member; rfl)
    (PictureShape.key ⟨64, 128, 8, 1, false, false⟩) 4096
  rw [Moment.seated_concat, seated, frames] at whole
  have wider := reallocates one (.ofSize 1 128 64) rfl seats₂ fed₂
  rw [second, Action.after_ok, demand₂, frames, Moment.stale_concat_of_seated seated,
    Moment.short_concat, seated] at wider
  refine ⟨opened, one, two, initialised, first, second, ?_, wider.granted, wider.motionKept rfl⟩
  refine whole fun demand member => ?_
  cases List.mem_singleton.mp member
  exact ⟨rfl, rfl⟩

end VideoAccel
