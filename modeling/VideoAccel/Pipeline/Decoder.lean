import VideoAccel.Pipeline.Session

/-!
A decoder that may or may not be at work.

An idle decoder only has its board; `initialise` opens a session on it and `release` closes the
session again, which gives all buffers back. Calls that need a session are refused on an idle
decoder and change nothing.
-/

namespace VideoAccel

/-- What a decoder can do, as announced on initialisation. -/
structure Capability where
  name : String
  codec : Codec
  maxWidth : Nat
  maxHeight : Nat
  registerFileBytes : Nat
  compressedOutput : Bool
  fastMode : Bool
  pipelineDepth : Nat
  referenceSlots : Nat
deriving DecidableEq, Repr

/-- Name and codec of a decoder. -/
structure DecoderIdentity where
  name : String
  codec : Codec
deriving DecidableEq, Repr

/-- The H.264 decoder of this library. -/
def h264Decoder : DecoderIdentity :=
  ⟨decoderName, .h264⟩

inductive Decoder (δ α : Type) where
  | idle (board : Board δ α)
  | working (session : Session δ α)

namespace Decoder

variable {δ α : Type}

/-- The widest picture that can be decoded. -/
def maxWidth : Nat := 4096

/-- The highest picture that can be decoded. -/
def maxHeight : Nat := 2304

def board : Decoder δ α → Board δ α
  | idle board => board
  | working session => session.board

def session? : Decoder δ α → Option (Session δ α)
  | idle _ => none
  | working session => some session

/-- Changes the board, whether or not the decoder is at work. -/
def mapBoard (change : Board δ α → Board δ α) : Decoder δ α → Decoder δ α
  | idle board => idle (change board)
  | working session => working { session with board := change session.board }

/-- The number of pipeline slots in use. -/
def slotsInUse : Decoder δ α → Nat
  | idle _ => 0
  | working session => session.slots.inUse

/-- Runs an action of the session; an idle decoder refuses. -/
def inSession {β : Type} (action : Action (Session δ α) β) : Action (Decoder δ α) β
  | idle board => .error .notInitialised (idle board)
  | working session =>
      match action session with
      | .ok value session => .ok value (working session)
      | .error fault session => .error fault (working session)

/-- Puts an event on record. -/
def note (event : Event) : Action (Decoder δ α) Unit :=
  modify (mapBoard (·.note event))

/-- Acknowledges a reset, which has no effect. -/
def reset : Action (Decoder δ α) Unit :=
  note .resetRequested

/-- Acknowledges a flush, which has no effect. -/
def flush : Action (Decoder δ α) Unit :=
  note .flushRequested

/-- Carries out a command. -/
def control (command : Command) : Action (Decoder δ α) Unit :=
  inSession (Session.control command)

/-- Hands a task's registers to the device. -/
def start [Device δ] (task : Task) : Action (Decoder δ α) Unit :=
  inSession (Session.start task)

/-- Waits for a task and reports it. -/
def wait [Device δ] (task : Task) : Action (Decoder δ α) Unit :=
  inSession (Session.wait task)

section Memory

variable [Allocator α]

/-- Builds a task's registers. -/
def generate (task : Task) : Action (Decoder δ α) Task :=
  inSession (Session.generate task)

/-- Closes the session, if there is one. -/
def released : Decoder δ α → Decoder δ α
  | idle board => idle board
  | working session => idle session.close

/-- Closes the session, if there is one; this is never refused. -/
def release : Action (Decoder δ α) Unit :=
  modify released

/-- Takes the scratch buffer and stores the entropy table in it. A buffer that cannot be used
goes back. -/
def takeScratch (layout : ScratchLayout) : Action (Board δ α) Buffer := do
  let buffer ← Board.onMemory (Allocator.alloc layout.totalSize)
  let store : Action (Board δ α) Buffer := fun board =>
    match Buffer.write layout.entropyOffset EntropyTable.table buffer with
    | .error fault _ => .error fault board
    | .ok () filled =>
        match Board.onMemory (Allocator.sync filled) board with
        | .error fault board => .error fault board
        | .ok () board => .ok filled board
  match ← Action.attempt store with
  | .error fault =>
      modify fun board => { board with memory := Allocator.release buffer board.memory }
      throw fault
  | .ok filled =>
      modify (Board.note (.scratchReady layout.totalSize layout.copies))
      return filled

/-- Opens a session with the given settings; a session that is open is closed first. Unusable
settings are refused before anything else happens. -/
def initialise (config : Config) (reporting : Bool) : Action (Decoder δ α) Capability :=
  fun decoder =>
    match config.validate with
    | .error fault => .error fault decoder
    | .ok () =>
        let slotCount := config.slotCount
        let layout := ScratchLayout.of scratchSizes slotCount
        match takeScratch layout decoder.released.board with
        | .error fault board =>
            .error fault (idle ((board.note (.initialisationFailed fault)).note .released))
        | .ok scratch board =>
            let session : Session δ α :=
              { board := board.note (.initialised config.fastMode slotCount)
                config
                layout
                scratch
                slots := .ofDepth slotCount fun _ => .fresh config
                lines := .empty Layout.lineBufferRegisters
                motion := .empty
                compressed := false
                reporting }
            .ok
              { name := h264Decoder.name
                codec := h264Decoder.codec
                maxWidth
                maxHeight
                registerFileBytes := Layout.registerCount * registerBytes
                compressedOutput := true
                fastMode := config.fastMode
                pipelineDepth := slotCount
                referenceSlots := Layout.referenceCount }
              (working session)

end Memory

end Decoder

end VideoAccel
