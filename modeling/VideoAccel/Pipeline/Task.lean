import VideoAccel.Memory.Handle
import VideoAccel.Picture.Parameters
import VideoAccel.Pipeline.Event

/-!
Tasks, and the reports on finished ones.
-/

namespace VideoAccel

/-- One picture to decode. -/
structure Task where
  /-- The number under which the task is reported. -/
  id : Nat
  /-- The buffer that holds the stream. -/
  stream : Handle
  streamLength : Nat
  /-- The slot of the picture store that is decoded into. -/
  outputSlot : Nat
  flags : TaskFlags := {}
  coded : CodedPicture
  /-- The pipeline slot that holds the task's registers. -/
  slot : Option Nat := none
deriving DecidableEq, Repr

/-- What is delivered when a task is finished. -/
structure Report where
  task : Nat
  outputSlot : Nat
  /-- The hardware failed, or the task never got there. -/
  hardError : Bool
  /-- The task carried error flags and never reached the hardware. -/
  skipped : Bool
  /-- The main status word. -/
  status : BitVec 32
  /-- The register file at completion; empty for a skipped task. -/
  file : Bytes
deriving DecidableEq, Repr

/-- The report on a task that never reached the hardware. -/
def Report.skip (task : Task) : Report :=
  { task := task.id
    outputSlot := task.outputSlot
    hardError := true
    skipped := true
    status := 0
    file := #[] }

/-- Size and layout of the output pictures. -/
structure OutputInfo where
  width : Nat
  height : Nat
  format : FrameFormat
  compressed : Bool
deriving DecidableEq, Repr

/-- Commands beside the flow of tasks. -/
inductive Command where
  /-- The output pictures changed. -/
  | setOutput (info : OutputInfo)
  | setFormat (format : FrameFormat) (compressed : Bool)
  /-- Any other command; it is accepted and has no effect. -/
  | other (id : Nat) (parameter : Bytes)
deriving DecidableEq, Repr

end VideoAccel
