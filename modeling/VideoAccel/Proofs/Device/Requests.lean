import VideoAccel.Proofs.Device.Simulated

/-!
Requests that a device gets together.

A task is handed over with eight requests: five sections of registers are written, then come the
patches, the rows of line buffers and the order to start. When the device answers a poll, the interrupt
status is read. After a task was handed over the sections that were written show its register file, and
no other bit of the registers has changed (`SimulatedDevice.submits_taking`).
-/

namespace VideoAccel

/-- Requests that a device always gets together. -/
inductive RequestBlock where
  /-- A slot is handed over. -/
  | submission (content : SlotContent)
  /-- The device is polled; if it answers, the interrupt status is read. -/
  | poll (answered : Bool)

namespace RequestBlock

def requests : RequestBlock → List DeviceRequest
  | submission content =>
      (Layout.written.map fun sec => .writeRegisters sec.offset sec.size) ++
        [.patches content.patches.entries, .lineBuffers content.lineBuffers, .send]
  | poll true =>
      [.poll, .readRegisters Layout.interruptStatus.offset Layout.interruptStatus.size]
  | poll false => [.poll]

variable {block : RequestBlock}

/-- Only sections that are sent are written. -/
theorem section_of_mem_requests {offset length : Nat}
    (member : .writeRegisters offset length ∈ block.requests) :
    ∃ sec ∈ Layout.written, offset = sec.offset ∧ length = sec.size := by
  cases block with
  | submission content =>
      rcases List.mem_append.mp member with write | other
      · obtain ⟨sec, sent, same⟩ := List.mem_map.mp write
        injection same with start size
        exact ⟨sec, sent, start.symm, size.symm⟩
      · simp at other
  | poll answered => cases answered <;> simp [requests] at member

theorem patches_of_mem_requests {entries : List Patch} (member : .patches entries ∈ block.requests) :
    ∃ content, block = submission content ∧ entries = content.patches.entries := by
  cases block with
  | submission content => exact ⟨content, rfl, by simpa [requests] using member⟩
  | poll answered => cases answered <;> simp [requests] at member

theorem lineBuffers_of_mem_requests {rows : List LineBufferEntry}
    (member : .lineBuffers rows ∈ block.requests) :
    ∃ content, block = submission content ∧ rows = content.lineBuffers := by
  cases block with
  | submission content => exact ⟨content, rfl, by simpa [requests] using member⟩
  | poll answered => cases answered <;> simp [requests] at member

end RequestBlock

namespace SimulatedDevice

variable {before after : SimulatedDevice}

/-! ### Handing over a task -/

/-- The device has taken the content of a slot: the sections that are sent show its register file,
and no other bit of the registers has changed. -/
structure Submits (content : SlotContent) (before after : SimulatedDevice) : Prop where
  requests : after.requests.toList =
    before.requests.toList ++ (RequestBlock.submission content).requests
  shown : ∀ sec ∈ Layout.written, sec.view after.registers = sec.view content.file
  others : ∀ i, (∀ sec ∈ Layout.written, ¬ sec.Covers i) →
    after.registers.bitAt i = before.registers.bitAt i
  status : Layout.interruptStatus.view after.registers =
    Layout.interruptStatus.view before.registers

theorem submission_of_full {content : SlotContent}
    (full : content.file.size = Layout.fileBytes) :
    submission content = (RequestBlock.submission content).requests := by
  have known : ∀ sec ∈ Layout.written, sec.stop ≤ content.file.size := by
    rw [full]
    decide
  unfold submission writes RequestBlock.requests
  rw [List.map_congr_left fun sec member => by rw [Section.size_view (known sec member)]]

/-- A device with all its registers takes a full register file as it is. -/
theorem submits_taking {content : SlotContent} (full : content.file.size = Layout.fileBytes)
    {device : SimulatedDevice} (space : device.registers.size = registerSpace) :
    Submits content device (device.taking content) := by
  have known : ∀ sec ∈ Layout.written, sec.stop ≤ content.file.size := by
    rw [full]
    decide
  have fits : ∀ sec ∈ Layout.written, sec.stop ≤ device.registers.size := by
    rw [space]
    decide
  refine ⟨?_, ?_, ?_, ?_⟩
  · rw [requests_taking, ← submission_of_full full, Array.toList_append]
  · rw [registers_taking]
    exact fun sec member => Section.view_copyAll known fits member
  · rw [registers_taking]
    exact fun i apart => Section.bitAt_copyAll_of_apart _ apart
  · rw [registers_taking]
    exact (Section.Agree.copyAll Layout.written_apart _ _).view

/-! ### Polling -/

/-- The device has a task in flight and was not told to refuse its polls. -/
def answers (device : SimulatedDevice) : Bool :=
  !device.failPolls && !device.inFlight.isEmpty

theorem answers_of_collects {completion : Completion}
    (collects : Collects completion before after) : before.answers = true := by
  rw [answers, collects.answers, collects.waiting]
  rfl

theorem answers_of_silent (silent : before.failPolls = true ∨ before.inFlight = []) :
    before.answers = false := by
  rcases silent with refuses | nothing
  · rw [answers, refuses]
    rfl
  · rw [answers, nothing]
    exact Bool.and_false _

end SimulatedDevice

end VideoAccel
