import VideoAccel.Proofs.Device.Simulated

/-!
What a completion says about its task.

An `Ending` stands for a completion that sets the main status word and the two secondary words. It
sets everything a verdict looks at, so that the register file a report is made from tells this ending
and nothing of the tasks before, whatever they left in the registers (`Ending.status_readBack`,
`Ending.isHardError_readBack`).
-/

namespace VideoAccel

namespace StatusWord

/-- A word meets two others together when it meets one of them. -/
theorem meets_or (word a b : BitVec 32) : meets word (a ||| b) = (meets word a || meets word b) := by
  unfold meets
  rw [BitVec.and_or_distrib_left, Bool.eq_iff_iff, Bool.or_eq_true, bne_iff_ne, bne_iff_ne,
    bne_iff_ne, show (0 : BitVec 32) = 0#32 from rfl, ne_eq, BitVec.or_eq_zero_iff,
    Decidable.not_and_iff_or_not]

end StatusWord

/-- How a device ends a task: the main status word, and what the two secondary words say. -/
structure Ending where
  word : BitVec 32
  entropyError : Bool
  motionError : Bool
deriving DecidableEq, Repr

namespace Ending

/-- What the device writes into its registers. -/
def completion (ending : Ending) : Completion :=
  .ofStatus ending.word ending.entropyError ending.motionError

/-- A picture that was decoded without error. -/
def done : Ending :=
  ⟨StatusWord.interrupt ||| StatusWord.ready, false, false⟩

/-- A picture that the watchdog ended. -/
def timedOut : Ending :=
  ⟨StatusWord.interrupt ||| StatusWord.ready ||| StatusWord.timeout, false, false⟩

/-- What the device writes says how the task ended. -/
theorem completion_injective {a b : Ending} (same : a.completion = b.completion) : a = b := by
  obtain ⟨word, entropy, motion⟩ := a
  obtain ⟨word', entropy', motion'⟩ := b
  simp only [completion, Completion.ofStatus, List.cons.injEq, Prod.mk.injEq, true_and,
    and_true] at same
  obtain ⟨rfl, entropies, motions⟩ := same
  have flag : ∀ {a b : Bool}, (if a then 1 else 0 : BitVec 32) = (if b then 1 else 0) → a = b := by
    decide
  rw [flag entropies, flag motions]

/-- The task failed: an error bit stands in the main status word, the picture is not ready, the
stream ran out, or a secondary word is set. -/
def isHardError (ending : Ending) : Bool :=
  StatusWord.meets ending.word StatusWord.busError ||
  StatusWord.meets ending.word StatusWord.decodeError ||
  StatusWord.meets ending.word StatusWord.timeout ||
  !StatusWord.meets ending.word StatusWord.ready ||
  StatusWord.meets ending.word StatusWord.streamEmpty ||
  ending.entropyError || ending.motionError

end Ending

/-- The report tells the main status word of the ending, and whether that was a hardware error. -/
structure Report.Tells (report : Report) (ending : Ending) : Prop where
  status : report.status = ending.word
  hardError : report.hardError = ending.isHardError

/-! ### From the device to the register file -/

/-- A task's register file once the device has written the completion into its registers and the
interrupt status was read back. -/
def Completion.readBack (completion : Completion) (registers file : Bytes) : Bytes :=
  Layout.interruptStatus.store (Layout.interruptStatus.view (completion.apply registers)) file

namespace Ending

variable (ending : Ending) {registers file : Bytes}

/-- What the registers say once the device has ended a task. -/
theorem get_apply (space : registers.size = SimulatedDevice.registerSpace) :
    Layout.status.get (ending.completion.apply registers) = ending.word ∧
    (Layout.entropyError.get (ending.completion.apply registers) != 0) = ending.entropyError ∧
    (Layout.motionError.get (ending.completion.apply registers) != 0) = ending.motionError := by
  have lies : ∀ reg < 1024, ∀ file : Bytes, file.size = registers.size →
      (Field.word reg).lies file = true := by
    intro reg low file size
    have placed : (Field.word reg).Addressable :=
      Field.addressable_of_lt (Nat.lt_trans low (by decide))
    have place : (Field.word reg).byteOffset = 4 * reg := Field.byteOffset_eq placed
    rw [Field.lies_iff, size, space, place, SimulatedDevice.registerSpace]
    omega
  let first := Layout.status.set ending.word registers
  let second := (Field.word Layout.entropyError.reg).set
    (if ending.entropyError then 1 else 0) first
  have written : ending.completion.apply registers = (Field.word Layout.motionError.reg).set
      (if ending.motionError then 1 else 0) second := rfl
  have size : first.size = registers.size := Field.size_set ..
  have size' : second.size = registers.size := (Field.size_set ..).trans size
  rw [written]
  refine ⟨?_, ?_, Field.get_flag_set rfl rfl (lies 226 (by decide) second size') _⟩
  · rw [Field.get_set_of_apart (Field.apart_of_reg_ne (by decide) (by decide) (by decide)),
      Field.get_set_of_apart (Field.apart_of_reg_ne (by decide) (by decide) (by decide))]
    exact Field.get_word_set (lies 224 (by decide) registers rfl) _
  · rw [Field.get_set_of_apart (Field.apart_of_reg_ne (by decide) (by decide) (by decide))]
    exact Field.get_flag_set rfl rfl (lies 225 (by decide) first size) _

/-- The register file shows the main status word. -/
theorem status_readBack (space : registers.size = SimulatedDevice.registerSpace)
    (full : file.size = Layout.fileBytes) :
    Layout.status.get (ending.completion.readBack registers file) = ending.word := by
  rw [Completion.readBack, Section.get_store_view (by decide) (by decide)
    (by rw [Completion.size_apply, space]; decide) (by rw [full]; decide)]
  exact (ending.get_apply space).1

/-- The register file shows a hardware error exactly when the ending is one. -/
theorem isHardError_readBack (space : registers.size = SimulatedDevice.registerSpace)
    (full : file.size = Layout.fileBytes) :
    (Verdict.ofFile (ending.completion.readBack registers file)).isHardError =
      ending.isHardError := by
  have shown : ∀ {field : Field}, Layout.interruptStatus.contains field.reg = true →
      field.get (ending.completion.readBack registers file) =
        field.get (ending.completion.apply registers) := by
    intro field inside
    have low : field.reg < 228 := (Section.contains_iff.mp inside).2
    exact Section.get_store_view inside (Field.addressable_of_lt (Nat.lt_trans low (by decide)))
      (by rw [Completion.size_apply, space]; decide) (by rw [full]; decide)
  obtain ⟨status, entropy, motion⟩ := ending.get_apply space
  unfold Verdict.isHardError Verdict.ofFile
  simp only
  rw [shown (by decide), shown (by decide), shown (by decide), status, entropy, motion,
    StatusWord.failures, StatusWord.meets_or, StatusWord.meets_or]
  rfl

/-- The report made from the register file tells the ending. -/
theorem tells_of_readBack (space : registers.size = SimulatedDevice.registerSpace)
    (full : file.size = Layout.fileBytes) (task : Task) {final : Bytes}
    (shown : final = ending.completion.readBack registers file) :
    (Session.finalReport task final (Verdict.ofFile final).isHardError).Tells ending where
  status := (congrArg Layout.status.get shown).trans (ending.status_readBack space full)
  hardError := (congrArg (fun file => (Verdict.ofFile file).isHardError) shown).trans
    (ending.isHardError_readBack space full)

end Ending

end VideoAccel
