import VideoAccel.Device.Control
import VideoAccel.Memory.Allocator

/-!
Devices and allocators with failures switched in.

A wrapper stands in front of a device or an allocator and refuses calls before they get there.
Every kind of `Disturbance` has a countdown of its own: unset it lets everything pass, set to `n`
it lets `n` more calls pass and disturbs all later ones. One disturbance refuses nothing:
`shortAlloc` makes the allocator hand out buffers that are shorter than asked for.
-/

namespace VideoAccel

inductive Disturbance where
  | writeRegisters | readRegisters | announceLineBuffers | announcePatches | send | poll
  | alloc | sync | shortAlloc
deriving DecidableEq, Repr

namespace Disturbance

def all : List Disturbance :=
  [writeRegisters, readRegisters, announceLineBuffers, announcePatches, send, poll, alloc, sync,
    shortAlloc]

/-- What the disturbance calls itself. -/
def name : Disturbance → String
  | writeRegisters => "reg_write"
  | readRegisters => "reg_read"
  | announceLineBuffers => "set_rcb_info"
  | announcePatches => "set_reg_offsets"
  | send => "cmd_send"
  | poll => "cmd_poll"
  | alloc => "alloc"
  | sync => "sync"
  | shortAlloc => "short"

def ofName? (text : String) : Option Disturbance :=
  all.find? fun disturbance => disturbance.name == text

theorem ofName?_name (disturbance : Disturbance) : ofName? disturbance.name = some disturbance := by
  cases disturbance <;> rfl

/-- What a refused call answers. -/
def fault (disturbance : Disturbance) : Fault :=
  .reported .deviceIo ("inject " ++ disturbance.name)

end Disturbance

/-- How many more calls pass undisturbed; without a count, all of them. -/
structure Countdowns where
  remaining : Disturbance → Option Nat := fun _ => none

namespace Countdowns

/-- Sets one countdown, or takes it away. -/
def set (countdowns : Countdowns) (disturbance : Disturbance) (count : Option Nat) : Countdowns :=
  ⟨fun other => if other = disturbance then count else countdowns.remaining other⟩

/-- Whether the next call passes, and the countdowns after it. -/
def step (countdowns : Countdowns) (disturbance : Disturbance) : Bool × Countdowns :=
  match countdowns.remaining disturbance with
  | none => (true, countdowns)
  | some 0 => (false, countdowns)
  | some (count + 1) => (true, countdowns.set disturbance (some count))

/-- A call passes until its countdown has reached zero. -/
theorem step_passes_iff {countdowns : Countdowns} {disturbance : Disturbance} :
    (countdowns.step disturbance).1 = true ↔ countdowns.remaining disturbance ≠ some 0 := by
  unfold step
  split <;> simp_all

end Countdowns

/-- Something whose calls can be disturbed. -/
structure Disturbed (σ : Type) where
  /-- What stands behind the wrapper. -/
  inner : σ
  countdowns : Countdowns := {}
  /-- The most that a shortened allocation gets. -/
  shortSize : Nat := 0

namespace Disturbed

variable {σ : Type}

/-- Runs an action on what stands behind the wrapper. -/
def within {α : Type} (action : Action σ α) : Action (Disturbed σ) α :=
  Action.on (·.inner) (fun inner state => { state with inner }) action

/-- Counts a call down; answers whether it passes. -/
def count (disturbance : Disturbance) : Action (Disturbed σ) Bool := fun state =>
  let (passes, countdowns) := state.countdowns.step disturbance
  .ok passes { state with countdowns }

/-- Lets a call through if its countdown does. -/
def guarded {α : Type} (disturbance : Disturbance) (action : Action σ α) :
    Action (Disturbed σ) α := do
  if ← count disturbance then within action else throw disturbance.fault

instance [Device σ] : Device (Disturbed σ) where
  writeRegisters offset data := guarded .writeRegisters (Device.writeRegisters offset data)
  readRegisters offset length := guarded .readRegisters (Device.readRegisters offset length)
  announceLineBuffers entries := guarded .announceLineBuffers (Device.announceLineBuffers entries)
  announcePatches table := guarded .announcePatches (Device.announcePatches table)
  send := guarded .send Device.send
  poll := guarded .poll Device.poll

/-- The size that an allocation of `size` bytes asks for behind the wrapper. -/
def granted (size : Nat) : Action (Disturbed σ) Nat := do
  if ← count .shortAlloc then return size
  return min size (← get).shortSize

instance [Allocator σ] : Allocator (Disturbed σ) where
  alloc size := do
    if ← count .alloc then within (Allocator.alloc (← granted size))
    else throw Disturbance.alloc.fault
  release buffer state := { state with inner := Allocator.release buffer state.inner }
  sync buffer := guarded .sync (Allocator.sync buffer)

end Disturbed

end VideoAccel
