import VideoAccel.Device.Simulated
import VideoAccel.Proofs.Pipeline.Calls
import VideoAccel.Proofs.Register.Bits

/-!
What the simulated device does with a task.

Sending a task never fails on the simulated device. It writes the sections that are sent into the
registers (`SimulatedDevice.transmit_eq`), takes the next completion of the script and leaves the
interrupt status alone (`SimulatedDevice.transmit_run`). A poll that answers applies the
oldest completion that waits, and nothing else touches the interrupt status
(`SimulatedDevice.collect_eq_ok`); a poll that is refused leaves the completions where they are
(`SimulatedDevice.collect_eq_error`).
-/

namespace VideoAccel

/-! ### Files that agree in a section -/

/-- The files have one size and the same bits in the section. -/
structure Section.Agree (sec : Section) (a b : Bytes) : Prop where
  size : a.size = b.size
  bits : ∀ i, sec.Covers i → a.bitAt i = b.bitAt i

namespace Section

variable {sec : Section} {a b c : Bytes}

theorem Agree.refl (sec : Section) (a : Bytes) : sec.Agree a a :=
  ⟨rfl, fun _ _ => rfl⟩

theorem Agree.trans (first : sec.Agree a b) (second : sec.Agree b c) : sec.Agree a c :=
  ⟨first.size.trans second.size, fun i covers =>
    (first.bits i covers).trans (second.bits i covers)⟩

/-- Sections that have no bit in common with this one can be copied without changing it. -/
theorem Agree.copyAll {sections : List Section}
    (apart : ∀ other ∈ sections, ∀ i, sec.Covers i → ¬ other.Covers i) (from' file : Bytes) :
    sec.Agree (Section.copyAll sections from' file) file where
  size := size_copyAll ..
  bits i covers := bitAt_copyAll_of_apart file fun other member => apart other member i covers

/-- A completion does the same to files that agree. -/
theorem Agree.apply (agree : sec.Agree a b) (completion : Completion) :
    sec.Agree (completion.apply a) (completion.apply b) := by
  unfold Completion.apply
  induction completion generalizing a b with
  | nil => exact agree
  | cons write rest ih =>
      rw [List.foldl_cons, List.foldl_cons]
      apply ih
      refine ⟨by rw [Field.size_set, Field.size_set, agree.size], ?_⟩
      intro i covers
      rw [Field.bitAt_set, Field.bitAt_set, Field.lies_congr agree.size, agree.bits i covers]

/-- Files that agree in a section show the same bytes there. -/
theorem Agree.view (agree : sec.Agree a b) : sec.view a = sec.view b := by
  refine view_congr ?_ agree.bits
  unfold Section.view
  rw [Array.size_extract, Array.size_extract, agree.size]

end Section

/-- No register of the interrupt status is sent on submission. -/
theorem Layout.written_apart : ∀ sec ∈ written, ∀ i, interruptStatus.Covers i → ¬ sec.Covers i := by
  have apart : ∀ sec ∈ written, sec.first + sec.count ≤ interruptStatus.first ∨
      interruptStatus.first + interruptStatus.count ≤ sec.first := by decide
  intro sec member i mine own
  have either := apart sec member
  unfold Section.Covers at mine own
  omega

namespace SimulatedDevice

/-- The completion that the next task will get. -/
def nextCompletion (device : SimulatedDevice) : Completion :=
  device.script.headD device.usual

/-! ### Sending a task -/

/-- The device has taken one more task. -/
structure Sends (before after : SimulatedDevice) : Prop where
  status : Layout.interruptStatus.Agree after.registers before.registers
  usual : after.usual = before.usual
  script : after.script = before.script.tail
  inFlight : after.inFlight = before.inFlight ++ [before.nextCompletion]
  failPolls : after.failPolls = before.failPolls

/-- The requests that write sections of a register file. -/
def writes (sections : List Section) (file : Bytes) : List DeviceRequest :=
  sections.map fun sec => .writeRegisters sec.offset (sec.view file).size

/-- The sections sent on submission are taken and put on record, one after the other. -/
theorem writeSections_run {sections : List Section}
    (inside : ∀ sec ∈ sections, sec.stop ≤ registerSpace) (file : Bytes) (device : SimulatedDevice) :
    (sections.forM fun sec =>
        (Device.writeRegisters sec.offset (sec.view file) : Action SimulatedDevice Unit)) device =
      .ok () { device with
        registers := Section.copyAll sections file device.registers
        requests := device.requests ++ (writes sections file).toArray } := by
  induction sections generalizing device with
  | nil =>
      show EStateM.Result.ok () device = .ok () { device with requests := device.requests ++ #[] }
      rw [Array.append_empty]
  | cons sec rest ih =>
      have length := sec.size_view_le file
      have below : sec.offset + sec.size ≤ registerSpace := inside sec List.mem_cons_self
      let first := record { device with registers := sec.store (sec.view file) device.registers }
        (.writeRegisters sec.offset (sec.view file).size)
      have wrote : (Device.writeRegisters sec.offset (sec.view file) : Action SimulatedDevice Unit)
          device = .ok () first := if_pos (by omega)
      have recorded : first.requests ++ (writes rest file).toArray =
          device.requests ++ (writes (sec :: rest) file).toArray := List.push_append_toArray ..
      show (Device.writeRegisters sec.offset (sec.view file) >>= fun _ =>
        rest.forM fun sec => Device.writeRegisters sec.offset (sec.view file)) device = _
      rw [Action.bind_of_ok wrote, ih fun other member => inside other (List.mem_cons_of_mem _ member),
        recorded]
      rfl

/-- A task that is sent gets the next completion of the script. -/
theorem send_run (device : SimulatedDevice) :
    send device = .ok () (record
      { device with
        script := device.script.tail, inFlight := device.inFlight ++ [device.nextCompletion] }
      .send) := by
  unfold send nextCompletion
  cases device.script <;> rfl

/-- The requests that hand over the content of a slot. -/
def submission (content : SlotContent) : List DeviceRequest :=
  writes Layout.written content.file ++
    [.patches content.patches.entries, .lineBuffers content.lineBuffers, .send]

/-- The device once it has taken the content of a slot. -/
def taking (device : SimulatedDevice) (content : SlotContent) : SimulatedDevice :=
  { device with
    registers := Section.copyAll Layout.written content.file device.registers
    requests := device.requests ++ (submission content).toArray
    script := device.script.tail
    inFlight := device.inFlight ++ [device.nextCompletion] }

theorem registers_taking (device : SimulatedDevice) (content : SlotContent) :
    (device.taking content).registers =
      Section.copyAll Layout.written content.file device.registers := by
  simp only [taking]

theorem requests_taking (device : SimulatedDevice) (content : SlotContent) :
    (device.taking content).requests = device.requests ++ (submission content).toArray := by
  simp only [taking]

/-- The device takes every task. -/
theorem transmit_eq (content : SlotContent) (device : SimulatedDevice) :
    Session.transmit content device = .ok () (device.taking content) := by
  have inside : ∀ sec ∈ Layout.written, sec.stop ≤ registerSpace := by decide
  have wrote := writeSections_run inside content.file device
  have recorded : (((device.requests ++ (writes Layout.written content.file).toArray).push
      (.patches content.patches.entries)).push (.lineBuffers content.lineBuffers)).push .send =
        device.requests ++ (submission content).toArray := by
    simp [submission]
  generalize same : ({ device with
    registers := Section.copyAll Layout.written content.file device.registers
    requests := device.requests ++ (writes Layout.written content.file).toArray } :
      SimulatedDevice) = written at wrote
  have sent : Session.transmit content device = send ((written.record
      (.patches content.patches.entries)).record (.lineBuffers content.lineBuffers)) := by
    unfold Session.transmit
    rw [Action.bind_of_ok wrote]
    rfl
  subst same
  rw [sent, send_run]
  unfold record taking nextCompletion
  simp only [recorded]

theorem eq_taking {content : SlotContent} {device after : SimulatedDevice}
    (sent : Session.transmit content device = .ok () after) : after = device.taking content := by
  injection sent.symm.trans (transmit_eq content device)

/-- A task that was handed to the device gets the next completion, and the interrupt status stays as
it was. -/
theorem transmit_run (content : SlotContent) (device : SimulatedDevice) :
    ∃ after, Session.transmit content device = .ok () after ∧ Sends device after := by
  have status := Section.Agree.copyAll Layout.written_apart content.file device.registers
  rw [← registers_taking] at status
  exact ⟨_, transmit_eq content device, status, by simp only [taking], by simp only [taking],
    by simp only [taking], by simp only [taking]⟩

/-! ### Waiting for a task -/

/-- The device has reported the oldest task, which had the given completion. -/
structure Collects (completion : Completion) (before after : SimulatedDevice) : Prop where
  answers : before.failPolls = false
  waiting : before.inFlight = completion :: after.inFlight
  registers : after.registers = completion.apply before.registers
  usual : after.usual = before.usual
  script : after.script = before.script
  failPolls : after.failPolls = before.failPolls

theorem size_view_interruptStatus {file : Bytes} (full : file.size = Layout.fileBytes) :
    (Layout.interruptStatus.view file).size = Layout.interruptStatus.size := by
  unfold Section.view
  rw [Array.size_extract, full]
  decide

/-- A device that was told to refuse its polls refuses them. -/
theorem poll_of_refusing {device : SimulatedDevice} (refuses : device.failPolls = true) :
    poll device = .error .pollRefused (device.record .poll) := by
  unfold poll
  simp only [record, refuses, if_true]

/-- A device with no task in flight refuses to be polled. -/
theorem poll_of_nothing {device : SimulatedDevice} (answers : device.failPolls = false)
    (nothing : device.inFlight = []) :
    poll device = .error .nothingInFlight (device.record .poll) := by
  unfold poll
  simp only [record, answers, nothing, Bool.false_eq_true, if_false]

/-- A poll that is answered applies the completion of the oldest task in flight. -/
theorem poll_of_waiting {device : SimulatedDevice} {completion : Completion}
    {later : List Completion} (waiting : device.inFlight = completion :: later)
    (answers : device.failPolls = false) :
    poll device = .ok () { device.record .poll with
      registers := completion.apply device.registers, inFlight := later } := by
  unfold poll
  simp only [record, answers, waiting, Bool.false_eq_true, if_false]

/-- A device with a task in flight answers, unless it was told to refuse. -/
theorem collect_run {file : Bytes} (full : file.size = Layout.fileBytes) {device : SimulatedDevice}
    {completion : Completion} {later : List Completion}
    (waiting : device.inFlight = completion :: later) (answers : device.failPolls = false) :
    ∃ after, Session.collect file device =
        .ok (Layout.interruptStatus.view (completion.apply device.registers)) after ∧
      Collects completion device after := by
  let polled : SimulatedDevice := { device.record .poll with
    registers := completion.apply device.registers, inFlight := later }
  have first : (Device.poll : Action SimulatedDevice Unit) device = .ok () polled :=
    poll_of_waiting waiting answers
  have read : (Device.readRegisters Layout.interruptStatus.offset Layout.interruptStatus.size :
      Action SimulatedDevice Bytes) polled =
        .ok (Layout.interruptStatus.view (completion.apply device.registers)) (polled.record
          (.readRegisters Layout.interruptStatus.offset Layout.interruptStatus.size)) := by
    show readRegisters _ _ polled = _
    unfold readRegisters
    rw [if_pos (by decide), Section.view, Section.stop]
  refine ⟨polled.record (.readRegisters Layout.interruptStatus.offset Layout.interruptStatus.size), ?_,
    answers, waiting, rfl, rfl, rfl, rfl⟩
  unfold Session.collect
  rw [Action.bind_of_ok first, size_view_interruptStatus full, read]

/-- A device that was told to refuse its polls has no answer. -/
theorem collect_of_refusing {device : SimulatedDevice} (refuses : device.failPolls = true)
    (file : Bytes) :
    Session.collect file device = .error .pollRefused (device.record .poll) := by
  unfold Session.collect
  exact Action.bind_of_error (poll_of_refusing refuses) _

/-- A device with no task in flight has no answer. -/
theorem collect_of_nothing {device : SimulatedDevice} (answers : device.failPolls = false)
    (nothing : device.inFlight = []) (file : Bytes) :
    Session.collect file device = .error .nothingInFlight (device.record .poll) := by
  unfold Session.collect
  exact Action.bind_of_error (poll_of_nothing answers nothing) _

/-- An answer comes from the oldest task in flight. -/
theorem collect_eq_ok {file : Bytes} (full : file.size = Layout.fileBytes)
    {device after : SimulatedDevice} {status : Bytes}
    (ran : Session.collect file device = .ok status after) :
    ∃ completion, Collects completion device after ∧
      status = Layout.interruptStatus.view (completion.apply device.registers) := by
  cases answers : device.failPolls with
  | true => cases (collect_of_refusing answers file).symm.trans ran
  | false =>
      cases waiting : device.inFlight with
      | nil => cases (collect_of_nothing answers waiting file).symm.trans ran
      | cons completion later =>
          obtain ⟨other, collected, collects⟩ := collect_run full waiting answers
          rw [collected] at ran
          injection ran with shown left
          exact ⟨completion, left ▸ collects, shown.symm⟩

/-- There is no answer when the device was told to refuse or has no task in flight. Either is a
failure of the device, and it keeps the tasks in flight. -/
theorem collect_eq_error {file : Bytes} (full : file.size = Layout.fileBytes)
    {device after : SimulatedDevice} {fault : Fault}
    (ran : Session.collect file device = .error fault after) :
    (device.failPolls = true ∨ device.inFlight = []) ∧ fault.kind = .deviceIo ∧
      after = device.record .poll := by
  cases answers : device.failPolls with
  | true =>
      cases (collect_of_refusing answers file).symm.trans ran
      exact ⟨.inl rfl, rfl, rfl⟩
  | false =>
      cases waiting : device.inFlight with
      | nil =>
          cases (collect_of_nothing answers waiting file).symm.trans ran
          exact ⟨.inr rfl, rfl, rfl⟩
      | cons completion later =>
          obtain ⟨other, collected, -⟩ := collect_run full waiting answers
          cases collected.symm.trans ran

/-! ### Requests on record -/

theorem requests_poll {device after : SimulatedDevice} {done : Unit}
    (polled : poll device = .ok done after) : after.requests = device.requests.push .poll := by
  unfold poll at polled
  simp only at polled
  split at polled
  · cases polled
  · split at polled
    · cases polled
    · cases polled
      rfl

theorem requests_readRegisters {offset length : Nat} {device after : SimulatedDevice} {bytes : Bytes}
    (read : readRegisters offset length device = .ok bytes after) :
    after.requests = device.requests.push (.readRegisters offset length) := by
  unfold readRegisters at read
  split at read
  · cases read
    rfl
  · cases read

/-- Waiting for a task takes a poll and one look at the interrupt status. -/
theorem requests_collect {file status : Bytes} {device after : SimulatedDevice}
    (ran : Session.collect file device = .ok status after) :
    after.requests = device.requests ++ [DeviceRequest.poll, .readRegisters
      Layout.interruptStatus.offset (Layout.interruptStatus.view file).size].toArray := by
  obtain ⟨done, middle, polled, read⟩ := Action.bind_eq_ok_iff.mp ran
  rw [requests_readRegisters read, requests_poll polled]
  rfl

theorem writeCount_of_requests {device after : SimulatedDevice} {requests : List DeviceRequest}
    (recorded : after.requests = device.requests ++ requests.toArray) :
    after.writeCount = device.writeCount + requests.countP (·.isWrite) := by
  unfold writeCount
  rw [recorded, Array.countP_append]
  exact congrArg _ (List.countP_toArray ..)

/-- Sending a task takes one write for each section that is sent. -/
theorem writeCount_transmit {content : SlotContent} {device after : SimulatedDevice}
    (sent : Session.transmit content device = .ok () after) :
    after.writeCount = device.writeCount + Layout.written.length := by
  have every : (submission content).countP (·.isWrite) = Layout.written.length := rfl
  rw [eq_taking sent, ← every]
  exact writeCount_of_requests (requests_taking device content)

/-- Waiting for a task takes none. -/
theorem writeCount_collect {file status : Bytes} {device after : SimulatedDevice}
    (ran : Session.collect file device = .ok status after) :
    after.writeCount = device.writeCount :=
  writeCount_of_requests (requests_collect ran)

end SimulatedDevice

end VideoAccel
