import VideoAccel.Device.Control
import VideoAccel.Register.Status

/-!
A device in software.

The simulated device keeps a register space and the list of all requests it accepted. Sending a
task takes the next scripted completion, or the usual one when the script is used up, and queues
it; a poll takes the oldest queued completion and writes it into the registers. A poll is on
record even if it is refused; any other refused request is not.
-/

namespace VideoAccel

structure SimulatedDevice where
  registers : Bytes
  /-- The requests so far, oldest first. -/
  requests : Array DeviceRequest
  /-- The completion of tasks that the script does not cover. -/
  usual : Completion
  /-- Completions of the tasks to come, in order. -/
  script : List Completion
  /-- Completions of started tasks, oldest first. -/
  inFlight : List Completion
  /-- Refuse every poll. -/
  failPolls : Bool
deriving DecidableEq, Repr

namespace SimulatedDevice

/-- The size of the register space, in bytes. -/
def registerSpace : Nat := 4096

/-- A device at rest with zeroed registers. -/
def idle (usual : Completion) : SimulatedDevice :=
  { registers := Bytes.zeros registerSpace
    requests := #[]
    usual
    script := []
    inFlight := []
    failPolls := false }

/-- Adds a completion to the end of the script. -/
def pushCompletion (device : SimulatedDevice) (completion : Completion) : SimulatedDevice :=
  { device with script := device.script ++ [completion] }

/-- How many register writes are on record. -/
def writeCount (device : SimulatedDevice) : Nat :=
  device.requests.countP (·.isWrite)

/-- How many polls are on record. -/
def pollCount (device : SimulatedDevice) : Nat :=
  device.requests.countP (·.isPoll)

/-- The value of a register. -/
def register (device : SimulatedDevice) (reg : Nat) : BitVec 32 :=
  (Field.word reg).get device.registers

/-- Puts a request on record. -/
def record (device : SimulatedDevice) (request : DeviceRequest) : SimulatedDevice :=
  { device with requests := device.requests.push request }

def writeRegisters (offset : Nat) (data : Bytes) : Action SimulatedDevice Unit := fun device =>
  if offset + data.size ≤ registerSpace then
    .ok () <| record
      { device with registers := device.registers.overwrite offset data }
      (.writeRegisters offset data.size)
  else .error (.registerSpace offset data.size) device

def readRegisters (offset length : Nat) : Action SimulatedDevice Bytes := fun device =>
  if offset + length ≤ registerSpace then
    .ok (device.registers.extract offset (offset + length))
      (device.record (.readRegisters offset length))
  else .error (.registerSpace offset length) device

def send : Action SimulatedDevice Unit := fun device =>
  let (completion, script) :=
    match device.script with
    | [] => (device.usual, [])
    | next :: later => (next, later)
  .ok () <| record { device with script, inFlight := device.inFlight ++ [completion] } .send

def poll : Action SimulatedDevice Unit := fun device =>
  let device := device.record .poll
  if device.failPolls then .error .pollRefused device
  else
    match device.inFlight with
    | [] => .error .nothingInFlight device
    | completion :: later =>
        .ok () { device with registers := completion.apply device.registers, inFlight := later }

instance : Device SimulatedDevice where
  writeRegisters := writeRegisters
  readRegisters := readRegisters
  announceLineBuffers entries := fun device => .ok () (device.record (.lineBuffers entries))
  announcePatches table := fun device => .ok () (device.record (.patches table.entries))
  send := send
  poll := poll

end SimulatedDevice

end VideoAccel
