/-!
How far the task in a pipeline slot has come.
-/

namespace VideoAccel

inductive Stage where
  /-- The slot serves no task. -/
  | idle
  /-- The task's registers are generated and not yet sent. -/
  | built
  /-- The task was handed to the device and is waiting for its completion. -/
  | submitted
deriving DecidableEq, Repr

namespace Stage

/-- The stage as messages and dumps spell it. -/
def text : Stage → String
  | idle => "Idle"
  | built => "RegsBuilt"
  | submitted => "Submitted"

def ofText? : String → Option Stage
  | "Idle" => some idle
  | "RegsBuilt" => some built
  | "Submitted" => some submitted
  | _ => none

theorem ofText?_text (stage : Stage) : ofText? stage.text = some stage := by
  cases stage <;> rfl

end Stage

end VideoAccel
