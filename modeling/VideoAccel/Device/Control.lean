import VideoAccel.Action
import VideoAccel.Memory.LineBuffer
import VideoAccel.Register.PatchTable

/-!
What the library asks of an accelerator.

A `Device` takes register sections and two tables, starts a task on command, and can be waited
for. It works through its tasks one after the other; a poll waits for the oldest one.
-/

namespace VideoAccel

class Device (δ : Type) where
  /-- Writes bytes into the registers from a byte offset on. -/
  writeRegisters (offset : Nat) (data : Bytes) : Action δ Unit
  /-- Reads `length` bytes of the registers from a byte offset on. -/
  readRegisters (offset length : Nat) : Action δ Bytes
  /-- Hands over the table of line buffers. -/
  announceLineBuffers (entries : List LineBufferEntry) : Action δ Unit
  /-- Hands over the patches of the address registers. -/
  announcePatches (table : PatchTable) : Action δ Unit
  /-- Starts the task described by the registers and tables. -/
  send : Action δ Unit
  /-- Waits until the oldest started task is complete. -/
  poll : Action δ Unit

/-- A request as a device records it. -/
inductive DeviceRequest where
  | writeRegisters (offset length : Nat)
  | readRegisters (offset length : Nat)
  | lineBuffers (entries : List LineBufferEntry)
  | patches (entries : List Patch)
  | send
  | poll
deriving DecidableEq, Repr

def DeviceRequest.isWrite : DeviceRequest → Bool
  | writeRegisters _ _ => true
  | _ => false

def DeviceRequest.isPoll : DeviceRequest → Bool
  | poll => true
  | _ => false

end VideoAccel
