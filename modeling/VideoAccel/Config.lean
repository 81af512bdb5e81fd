import VideoAccel.Fault

/-!
Settings of a decoder.
-/

namespace VideoAccel

structure Config where
  /-- Keep several tasks in flight. -/
  fastMode : Bool := true
  /-- How many tasks may be in flight in fast mode. -/
  pipelineDepth : Nat := 3
  /-- Let the hardware conceal errors. -/
  concealErrors : Bool := true
  /-- The watchdog's limit, in cycles. -/
  watchdogCycles : Nat := 0x00ffffff
  gateClocks : Bool := true
deriving DecidableEq, Repr

namespace Config

/-- The deepest pipeline that can be configured. -/
def maxDepth : Nat := 8

/-- Refuses a pipeline depth outside the supported range, also where fast mode is off. -/
def validate (config : Config) : Except Fault Unit :=
  if config.pipelineDepth = 0 ∨ maxDepth < config.pipelineDepth then
    .error (.pipelineDepth maxDepth config.pipelineDepth)
  else .ok ()

/-- The number of pipeline slots in use; without fast mode there is one. -/
def slotCount (config : Config) : Nat :=
  if config.fastMode then config.pipelineDepth else 1

theorem validate_eq_ok_iff {config : Config} :
    config.validate = .ok () ↔ 0 < config.pipelineDepth ∧ config.pipelineDepth ≤ maxDepth := by
  unfold validate
  split
  · rename_i outside
    constructor
    · intro accepted; cases accepted
    · intro inside; omega
  · rename_i inside
    constructor
    · intro; omega
    · intro; rfl

end Config

end VideoAccel
