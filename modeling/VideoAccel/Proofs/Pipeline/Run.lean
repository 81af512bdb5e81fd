import VideoAccel.Proofs.Pipeline.Calls

/-!
Runs of a decoder.

A `Run` is any sequence of calls of one decoder: the three calls of a task's life on any task values
in any order, commands, resets, flushes, releases and initialisations, each of which may answer or
be refused. Between two calls the surroundings may change the board, as far as the relation
`surroundings` lets them: a device can be told to fail, an allocator to refuse, pictures can be
damaged. A run keeps a list of its moments, so that one can say what was called since when.

A call leaves a decoder in one of ten ways (`Call.next_spec`). From these `Run.invariant` reduces a
property of every session that a run can reach to the single calls.
-/

namespace VideoAccel

/-- A call of a decoder. -/
inductive Call where
  | generate (task : Task)
  | start (task : Task)
  | wait (task : Task)
  | control (command : Command)
  | reset
  | flush
  | initialise (config : Config) (reporting : Bool)
  | release

/-- The call neither opens nor closes a session. -/
def Call.Continues : Call → Prop
  | initialise _ _ => False
  | release => False
  | _ => True

/-- A call, and the decoder it was made on. -/
structure Moment (δ α : Type) where
  before : Decoder δ α
  call : Call

variable {δ α : Type}

namespace Decoder

/-- A session does in a working decoder what it does on its own. -/
theorem inSession_working {β : Type} (action : Action (Session δ α) β) (session : Session δ α) :
    inSession action (working session) =
      match action session with
      | .ok value session => .ok value (working session)
      | .error fault session => .error fault (working session) := rfl

/-- An answer of a working decoder is one of its session. -/
theorem inSession_eq_ok {β : Type} {action : Action (Session δ α) β} {session : Session δ α}
    {decoder : Decoder δ α} {value : β}
    (ran : inSession action (working session) = .ok value decoder) :
    ∃ later, action session = .ok value later ∧ decoder = working later := by
  rw [inSession_working] at ran
  cases did : action session with
  | ok answer later =>
      rw [did] at ran
      cases ran
      exact ⟨later, rfl, rfl⟩
  | error fault later =>
      rw [did] at ran
      cases ran

theorem after_inSession {β : Type} (action : Action (Session δ α) β) (session : Session δ α) :
    Action.after (inSession action (working session)) = working (Action.after (action session)) := by
  rw [inSession_working]
  cases action session <;> rfl

theorem outcome_inSession {β : Type} (action : Action (Session δ α) β) (session : Session δ α) :
    Action.outcome (inSession action (working session)) = Action.outcome (action session) := by
  rw [inSession_working]
  cases action session <;> rfl

end Decoder

namespace Session

/-- A session that was just opened. -/
def opened (config : Config) (reporting : Bool) (scratch : Buffer) (board : Board δ α) :
    Session δ α :=
  { board := board.note (.initialised config.fastMode config.slotCount)
    config
    layout := .of scratchSizes config.slotCount
    scratch
    slots := .ofDepth config.slotCount fun _ => .fresh config
    lines := .empty Layout.lineBufferRegisters
    motion := .empty
    compressed := false
    reporting }

/-- The session with another board. -/
def withBoard (session : Session δ α) (board : Board δ α) : Session δ α :=
  { session with board }

end Session

namespace Decoder

/-- What a decoder with the given settings announces. -/
def capability (config : Config) : Capability :=
  { name := h264Decoder.name
    codec := h264Decoder.codec
    maxWidth
    maxHeight
    registerFileBytes := Layout.registerCount * registerBytes
    compressedOutput := true
    fastMode := config.fastMode
    pipelineDepth := config.slotCount
    referenceSlots := Layout.referenceCount }

variable [Allocator α]

theorem takeScratch_refused {layout : ScratchLayout} {board : Board δ α} {fault : Fault}
    {memory : α} (refused : Allocator.alloc layout.totalSize board.memory = .error fault memory) :
    takeScratch layout board = .error fault { board with memory } := by
  unfold takeScratch
  have asked : Board.onMemory (Allocator.alloc layout.totalSize) board =
      .error fault { board with memory } := Action.on_of_error refused
  rw [Action.bind_of_error asked]

/-- A scratch buffer that is too small for the entropy table goes back. -/
theorem takeScratch_overrun {layout : ScratchLayout} {board : Board δ α} {buffer left : Buffer}
    {fault : Fault} {memory : α}
    (granted : Allocator.alloc layout.totalSize board.memory = .ok buffer memory)
    (overrun : Buffer.write layout.entropyOffset EntropyTable.table buffer = .error fault left) :
    takeScratch layout board =
      .error fault { board with memory := Allocator.release buffer memory } := by
  unfold takeScratch
  have asked : Board.onMemory (Allocator.alloc layout.totalSize) board =
      .ok buffer { board with memory } := Action.on_of_ok granted
  rw [Action.bind_of_ok asked, overrun]
  rfl

/-- A scratch buffer that the device cannot see goes back. -/
theorem takeScratch_unsynced {layout : ScratchLayout} {board : Board δ α} {buffer filled : Buffer}
    {fault : Fault} {memory synced : α}
    (granted : Allocator.alloc layout.totalSize board.memory = .ok buffer memory)
    (stored : Buffer.write layout.entropyOffset EntropyTable.table buffer = .ok () filled)
    (refused : Allocator.sync filled memory = .error fault synced) :
    takeScratch layout board =
      .error fault { board with memory := Allocator.release buffer synced } := by
  unfold takeScratch
  have asked : Board.onMemory (Allocator.alloc layout.totalSize) board =
      .ok buffer { board with memory } := Action.on_of_ok granted
  have unseen : Board.onMemory (Allocator.sync filled) { board with memory } =
      .error fault { board with memory := synced } := Action.on_of_error refused
  rw [Action.bind_of_ok asked, stored]
  show EStateM.bind (Action.attempt _) _ _ = _
  simp only [EStateM.bind, Action.attempt, unseen, Action.outcome_error, Action.after_error]
  rfl

theorem takeScratch_of_ok {layout : ScratchLayout} {board : Board δ α} {buffer filled : Buffer}
    {memory synced : α}
    (granted : Allocator.alloc layout.totalSize board.memory = .ok buffer memory)
    (stored : Buffer.write layout.entropyOffset EntropyTable.table buffer = .ok () filled)
    (passed : Allocator.sync filled memory = .ok () synced) :
    takeScratch layout board =
      .ok filled (({ board with memory := synced } : Board δ α).note
        (.scratchReady layout.totalSize layout.copies)) := by
  unfold takeScratch
  have asked : Board.onMemory (Allocator.alloc layout.totalSize) board =
      .ok buffer { board with memory } := Action.on_of_ok granted
  have ready : Board.onMemory (Allocator.sync filled) { board with memory } =
      .ok () { board with memory := synced } := Action.on_of_ok passed
  rw [Action.bind_of_ok asked, stored]
  show EStateM.bind (Action.attempt _) _ _ = _
  simp only [EStateM.bind, Action.attempt, ready, Action.outcome_ok, Action.after_ok]
  rfl

/-- How taking the scratch buffer can end: its outcome, and the board it leaves. -/
inductive TakesScratch (layout : ScratchLayout) (board : Board δ α) :
    Except Fault Buffer → Board δ α → Prop where
  /-- The buffer is refused. -/
  | refused {fault : Fault} {memory : α}
      (refuses : Allocator.alloc layout.totalSize board.memory = .error fault memory) :
      TakesScratch layout board (.error fault) { board with memory }
  /-- The entropy table does not fit, and the buffer goes back. -/
  | overrun {buffer left : Buffer} {fault : Fault} {memory : α}
      (granted : Allocator.alloc layout.totalSize board.memory = .ok buffer memory)
      (overruns : Buffer.write layout.entropyOffset EntropyTable.table buffer = .error fault left) :
      TakesScratch layout board (.error fault)
        { board with memory := Allocator.release buffer memory }
  /-- The device cannot see the buffer, which goes back. -/
  | unsynced {buffer filled : Buffer} {fault : Fault} {memory synced : α}
      (granted : Allocator.alloc layout.totalSize board.memory = .ok buffer memory)
      (stored : Buffer.write layout.entropyOffset EntropyTable.table buffer = .ok () filled)
      (refuses : Allocator.sync filled memory = .error fault synced) :
      TakesScratch layout board (.error fault)
        { board with memory := Allocator.release buffer synced }
  /-- The buffer holds the entropy table. -/
  | taken {buffer filled : Buffer} {memory synced : α}
      (granted : Allocator.alloc layout.totalSize board.memory = .ok buffer memory)
      (stored : Buffer.write layout.entropyOffset EntropyTable.table buffer = .ok () filled)
      (passed : Allocator.sync filled memory = .ok () synced) (journal : Journal) :
      TakesScratch layout board (.ok filled) { board with memory := synced, journal }

/-- Taking the scratch buffer ends in one of these ways. -/
theorem takeScratch_spec (layout : ScratchLayout) (board : Board δ α) :
    TakesScratch layout board (Action.outcome (takeScratch layout board))
      (Action.after (takeScratch layout board)) := by
  cases granted : Allocator.alloc layout.totalSize board.memory with
  | error fault memory =>
      rw [takeScratch_refused granted]
      exact .refused granted
  | ok buffer memory =>
      cases stored : Buffer.write layout.entropyOffset EntropyTable.table buffer with
      | error fault left =>
          rw [takeScratch_overrun granted stored]
          exact .overrun granted stored
      | ok done filled =>
          cases passed : Allocator.sync filled memory with
          | error fault synced =>
              rw [takeScratch_unsynced granted stored passed]
              exact .unsynced granted stored passed
          | ok done synced =>
              rw [takeScratch_of_ok granted stored passed]
              exact .taken granted stored passed _

/-- A scratch buffer that was taken was allocated, got the entropy table and was shown to the device;
nothing but the allocator and the journal changed. -/
theorem takeScratch_stages {layout : ScratchLayout} {board left : Board δ α} {scratch : Buffer}
    (taken : takeScratch layout board = .ok scratch left) :
    ∃ buffer memory synced journal,
      Allocator.alloc layout.totalSize board.memory = .ok buffer memory ∧
      Buffer.write layout.entropyOffset EntropyTable.table buffer = .ok () scratch ∧
      Allocator.sync scratch memory = .ok () synced ∧
      left = { board with memory := synced, journal } := by
  have takes := takeScratch_spec layout board
  rw [taken, Action.outcome_ok, Action.after_ok] at takes
  cases takes with
  | taken granted stored passed journal => exact ⟨_, _, _, journal, granted, stored, passed, rfl⟩

/-- Initialising is refused at once for unusable settings; otherwise an open session is closed, and
a new one is opened if the scratch buffer can be had. -/
theorem initialise_cases (config : Config) (reporting : Bool) (decoder : Decoder δ α) :
    (∃ fault, config.validate = .error fault ∧
      initialise config reporting decoder = .error fault decoder) ∨
    (∃ fault board, config.validate = .ok () ∧
      takeScratch (.of scratchSizes config.slotCount) decoder.released.board = .error fault board ∧
      initialise config reporting decoder =
        .error fault (idle ((board.note (.initialisationFailed fault)).note .released))) ∨
    ∃ scratch board, config.validate = .ok () ∧
      takeScratch (.of scratchSizes config.slotCount) decoder.released.board = .ok scratch board ∧
      initialise config reporting decoder =
        .ok (capability config) (working (Session.opened config reporting scratch board)) := by
  unfold initialise
  cases valid : config.validate with
  | error fault => exact .inl ⟨fault, rfl, rfl⟩
  | ok done =>
      right
      cases taken : takeScratch (.of scratchSizes config.slotCount) decoder.released.board with
      | error fault board =>
          left
          refine ⟨fault, board, rfl, rfl, ?_⟩
          simp only [taken]
      | ok scratch board =>
          right
          refine ⟨scratch, board, rfl, rfl, ?_⟩
          simp only [taken]
          rfl

end Decoder

namespace Call

variable [Device δ] [Allocator α]

/-- Makes the call and forgets its answer. -/
def perform : Call → Action (Decoder δ α) Unit
  | generate task => do let _ ← Decoder.generate task
  | start task => Decoder.start task
  | wait task => Decoder.wait task
  | control command => Decoder.control command
  | reset => Decoder.reset
  | flush => Decoder.flush
  | initialise config reporting => do let _ ← Decoder.initialise config reporting
  | release => Decoder.release

/-- The decoder after the call, whether it answered or was refused. -/
def next (call : Call) (decoder : Decoder δ α) : Decoder δ α :=
  Action.after (call.perform decoder)

theorem next_generate (task : Task) (session : Session δ α) :
    (generate task).next (.working session) =
      .working (Action.after (Session.generate task session)) := by
  have forgotten : ∀ decoder : Decoder δ α, (generate task).next decoder =
      Action.after (Decoder.generate task decoder) := by
    intro decoder
    show Action.after (EStateM.bind _ _ _) = _
    rw [EStateM.bind]
    cases Decoder.generate task decoder <;> rfl
  rw [forgotten]
  exact Decoder.after_inSession _ session

theorem next_start (task : Task) (session : Session δ α) :
    (start task).next (.working session) =
      .working (Action.after (Session.start task session)) :=
  Decoder.after_inSession _ session

theorem next_wait (task : Task) (session : Session δ α) :
    (wait task).next (.working session) =
      .working (Action.after (Session.wait task session)) :=
  Decoder.after_inSession _ session

theorem next_control (command : Command) (session : Session δ α) :
    (control command).next (.working session) =
      .working (Action.after (Session.control command session)) :=
  Decoder.after_inSession _ session

theorem next_reset (session : Session δ α) :
    reset.next (.working session) =
      .working (session.withBoard (session.board.note .resetRequested)) := rfl

theorem next_flush (session : Session δ α) :
    flush.next (.working session) =
      .working (session.withBoard (session.board.note .flushRequested)) := rfl

theorem next_initialise (config : Config) (reporting : Bool) (decoder : Decoder δ α) :
    (initialise config reporting).next decoder =
      Action.after (Decoder.initialise config reporting decoder) := by
  show Action.after (EStateM.bind _ _ _) = _
  rw [EStateM.bind]
  cases Decoder.initialise config reporting decoder <;> rfl

/-- How a call can leave a decoder. One that is not at work takes no more than note of it, unless the
call is to initialise it. -/
inductive Leads : Decoder δ α → Call → Decoder δ α → Prop where
  | generated {session : Session δ α} {task : Task}
      (ends : Session.Generates session task (Action.outcome (Session.generate task session))
        (Action.after (Session.generate task session))) :
      Leads (.working session) (generate task)
        (.working (Action.after (Session.generate task session)))
  | started {session : Session δ α} {task : Task}
      (ends : Session.Starts session task (Action.outcome (Session.start task session))
        (Action.after (Session.start task session))) :
      Leads (.working session) (start task) (.working (Action.after (Session.start task session)))
  | waited {session : Session δ α} {task : Task}
      (ends : Session.Waits session task (Action.outcome (Session.wait task session))
        (Action.after (Session.wait task session))) :
      Leads (.working session) (wait task) (.working (Action.after (Session.wait task session)))
  | commanded {session : Session δ α} {command : Command} {compressed : Bool} {stride : StrideRule}
      {journal : Journal} :
      Leads (.working session) (control command)
        (.working (session.commanded compressed stride journal))
  /-- A reset or a flush is acknowledged. -/
  | noted {session : Session δ α} {call : Call} (acknowledged : call = reset ∨ call = flush)
      {event : Event} :
      Leads (.working session) call (.working (session.withBoard (session.board.note event)))
  | released {session : Session δ α} : Leads (.working session) release (.idle session.close)
  | ignored {board : Board δ α} {call : Call}
      (other : ∀ config reporting, call ≠ initialise config reporting) {journal : Journal} :
      Leads (.idle board) call (.idle { board with journal })
  /-- The settings are unusable. -/
  | refused {decoder : Decoder δ α} {config : Config} {reporting : Bool} {fault : Fault}
      (invalid : config.validate = .error fault) :
      Leads decoder (initialise config reporting) decoder
  /-- The scratch buffer cannot be had. -/
  | failed {decoder : Decoder δ α} {config : Config} {reporting : Bool} {fault : Fault}
      {board : Board δ α} (valid : config.validate = .ok ())
      (taken : Decoder.takeScratch (.of scratchSizes config.slotCount) decoder.released.board =
        .error fault board) :
      Leads decoder (initialise config reporting)
        (.idle ((board.note (.initialisationFailed fault)).note .released))
  | opened {decoder : Decoder δ α} {config : Config} {reporting : Bool} {scratch : Buffer}
      {board : Board δ α} (valid : config.validate = .ok ())
      (taken : Decoder.takeScratch (.of scratchSizes config.slotCount) decoder.released.board =
        .ok scratch board) :
      Leads decoder (initialise config reporting)
        (.working (.opened config reporting scratch board))

theorem leads_initialise (config : Config) (reporting : Bool) (decoder : Decoder δ α) :
    Leads decoder (initialise config reporting) ((initialise config reporting).next decoder) := by
  rw [next_initialise]
  rcases Decoder.initialise_cases config reporting decoder with
    ⟨fault, invalid, ran⟩ | ⟨fault, board, valid, taken, ran⟩ | ⟨scratch, board, valid, taken, ran⟩
  · rw [ran]
    exact .refused invalid
  · rw [ran]
    exact .failed valid taken
  · rw [ran]
    exact .opened valid taken

/-- A call leaves a decoder in one of these ways. -/
theorem next_spec (call : Call) (decoder : Decoder δ α) :
    Leads decoder call (call.next decoder) := by
  cases decoder with
  | idle board =>
      cases call with
      | initialise config reporting => exact leads_initialise config reporting (.idle board)
      | _ => exact .ignored fun _ _ same => by cases same
  | working session =>
      cases call with
      | initialise config reporting => exact leads_initialise config reporting (.working session)
      | generate task =>
          rw [next_generate]
          exact .generated (Session.generate_spec session task)
      | start task =>
          rw [next_start]
          exact .started (Session.start_spec session task)
      | wait task =>
          rw [next_wait]
          exact .waited (Session.wait_spec session task)
      | control command =>
          obtain ⟨stride, journal, ran⟩ := Session.control_run command session
          rw [next_control, ran]
          exact .commanded
      | reset => exact .noted (.inl rfl)
      | flush => exact .noted (.inr rfl)
      | release => exact .released

end Call

variable [Device δ] [Allocator α]

/-- The decoders that calls and surroundings can lead to, with the moments of the calls. -/
inductive Run (surroundings : Board δ α → Board δ α → Prop) (first : Decoder δ α) :
    List (Moment δ α) → Decoder δ α → Prop where
  | nil : Run surroundings first [] first
  | call {moments : List (Moment δ α)} {decoder : Decoder δ α}
      (earlier : Run surroundings first moments decoder) (call : Call) :
      Run surroundings first (moments ++ [⟨decoder, call⟩]) (call.next decoder)
  | outside {moments : List (Moment δ α)} {decoder : Decoder δ α}
      (earlier : Run surroundings first moments decoder) {board : Board δ α}
      (allowed : surroundings decoder.board board) :
      Run surroundings first moments (decoder.mapBoard fun _ => board)

namespace Run

variable {surroundings : Board δ α → Board δ α → Prop} {first decoder final : Decoder δ α}
  {moments later : List (Moment δ α)}

/-- A property of sessions holds of every session a run can reach, if it holds of opened sessions,
whose scratch buffer was taken then, and of the first one, and if every call of a session and every
allowed change of the board keeps it. -/
theorem invariant_of_taken {I : Session δ α → Prop}
    (opened : ∀ config reporting before scratch board, config.validate = .ok () →
      Decoder.takeScratch (.of scratchSizes config.slotCount) before = .ok scratch board →
      I (.opened config reporting scratch board))
    (generates : ∀ {session task outcome later}, I session →
      Session.Generates session task outcome later → I later)
    (starts : ∀ {session task outcome later}, I session →
      Session.Starts session task outcome later → I later)
    (waits : ∀ {session task outcome later}, I session →
      Session.Waits session task outcome later → I later)
    (commanded : ∀ {session compressed stride journal}, I session →
      I (session.commanded compressed stride journal))
    (reboarded : ∀ {session board}, I session → I (session.withBoard board))
    (run : Run surroundings first moments decoder)
    (begins : ∀ session, first = .working session → I session) :
    ∀ session, decoder = .working session → I session := by
  induction run with
  | nil => exact begins
  | @call moments decoder earlier call ih =>
      intro final reached
      have leads := call.next_spec decoder
      rw [reached] at leads
      cases leads with
      | generated ends => exact generates (ih _ rfl) ends
      | started ends => exact starts (ih _ rfl) ends
      | waited ends => exact waits (ih _ rfl) ends
      | commanded => exact commanded (ih _ rfl)
      | noted acknowledged => exact reboarded (ih _ rfl)
      | refused invalid => exact ih final rfl
      | opened valid taken => exact opened _ _ _ _ _ valid taken
  | @outside moments decoder earlier board allowed ih =>
      intro final reached
      cases decoder with
      | idle board => cases reached
      | working session =>
          cases reached
          exact reboarded (ih session rfl)

/-- The same for a property that opened sessions have whatever their scratch buffer is. -/
theorem invariant {I : Session δ α → Prop}
    (opened : ∀ config reporting scratch board, config.validate = .ok () →
      I (.opened config reporting scratch board))
    (generates : ∀ {session task outcome later}, I session →
      Session.Generates session task outcome later → I later)
    (starts : ∀ {session task outcome later}, I session →
      Session.Starts session task outcome later → I later)
    (waits : ∀ {session task outcome later}, I session →
      Session.Waits session task outcome later → I later)
    (commanded : ∀ {session compressed stride journal}, I session →
      I (session.commanded compressed stride journal))
    (reboarded : ∀ {session board}, I session → I (session.withBoard board))
    (run : Run surroundings first moments decoder)
    (begins : ∀ session, first = .working session → I session) :
    ∀ session, decoder = .working session → I session :=
  run.invariant_of_taken
    (fun config reporting _ scratch board valid _ => opened config reporting scratch board valid)
    generates starts waits commanded reboarded begins

/-- A run comes to the decoder of each of its moments, by the moments before. -/
theorem up_to (run : Run surroundings first moments decoder) {earlier : List (Moment δ α)}
    {moment : Moment δ α} (split : moments = earlier ++ moment :: later) :
    Run surroundings first earlier moment.before := by
  induction run generalizing later with
  | nil => simp at split
  | outside earlier allowed ih => exact ih split
  | @call moments decoder run call ih =>
      rcases List.eq_nil_or_concat later with rfl | ⟨between, last, rfl⟩
      · obtain ⟨rfl, same⟩ := List.append_inj' split rfl
        cases same
        exact run
      · rw [List.concat_eq_append, ← List.cons_append, ← List.append_assoc] at split
        exact ih (List.append_inj' split rfl).1

end Run

/-- A session that calls and surroundings can lead to from a decoder that is not at work. -/
def Reachable (surroundings : Board δ α → Board δ α → Prop) (session : Session δ α) : Prop :=
  ∃ board moments, Run surroundings (.idle board) moments (.working session)

end VideoAccel
