import VideoAccel.Register.Layout

/-!
What the interrupt status says about a finished task.

The main status word has six meaningful bits. A task counts as a hardware error when one of the
three error bits stands in it, when the engine did not report the picture as ready, when the
stream ran out, or when one of the two secondary words names an error. `Verdict` keeps these five
causes apart. A `Completion` is what a device writes into its registers when it finishes a task.
-/

namespace VideoAccel

namespace StatusWord

/-- An interrupt was raised. -/
def interrupt : BitVec 32 := 0x01
/-- The picture is decoded. -/
def ready : BitVec 32 := 0x02
def busError : BitVec 32 := 0x04
def decodeError : BitVec 32 := 0x08
/-- The watchdog expired. -/
def timeout : BitVec 32 := 0x10
/-- The stream ran out. -/
def streamEmpty : BitVec 32 := 0x20

/-- The bits that each make the task a failed decode. -/
def failures : BitVec 32 := busError ||| decodeError ||| timeout

/-- Whether the two words have a bit in common. -/
def meets (a b : BitVec 32) : Bool :=
  a &&& b != 0

end StatusWord

structure Verdict where
  decodeError : Bool
  notReady : Bool
  streamEmpty : Bool
  entropyError : Bool
  motionError : Bool
deriving DecidableEq, Repr

namespace Verdict

/-- Reads the verdict out of a register file. -/
def ofFile (file : Bytes) : Verdict :=
  let word := Layout.status.get file
  { decodeError := StatusWord.meets word StatusWord.failures
    notReady := !StatusWord.meets word StatusWord.ready
    streamEmpty := StatusWord.meets word StatusWord.streamEmpty
    entropyError := Layout.entropyError.get file != 0
    motionError := Layout.motionError.get file != 0 }

/-- Whether any cause of a hardware error is present. -/
def isHardError (verdict : Verdict) : Bool :=
  verdict.decodeError || verdict.notReady || verdict.streamEmpty || verdict.entropyError ||
    verdict.motionError

/-- The verdict as log records spell it. -/
def text (verdict : Verdict) : String :=
  "HwStatus \x7b " ++ ", ".intercalate
    [s!"decode_error: {verdict.decodeError}", s!"not_ready: {verdict.notReady}",
      s!"buf_empty: {verdict.streamEmpty}", s!"strmd_error: {verdict.entropyError}",
      s!"colmv_ref_error: {verdict.motionError}"] ++ " \x7d"

end Verdict

/-- Registers and the values they take when a task completes, in writing order. -/
abbrev Completion := List (Nat × BitVec 32)

namespace Completion

/-- A completion that sets the main status word and the two secondary words. -/
def ofStatus (word : BitVec 32) (entropyError motionError : Bool) : Completion :=
  [(Layout.status.reg, word),
    (Layout.entropyError.reg, if entropyError then 1 else 0),
    (Layout.motionError.reg, if motionError then 1 else 0)]

/-- A picture that was decoded without error. -/
def done : Completion :=
  ofStatus (StatusWord.interrupt ||| StatusWord.ready) false false

/-- Writes the completion into a register file. Registers that the file does not have are
passed over. -/
def apply (completion : Completion) (file : Bytes) : Bytes :=
  completion.foldl (fun file write => (Field.word write.1).set write.2 file) file

theorem size_apply (completion : Completion) (file : Bytes) :
    (completion.apply file).size = file.size := by
  unfold apply
  induction completion generalizing file with
  | nil => rfl
  | cons write rest ih => rw [List.foldl_cons, ih, Field.size_set]

end Completion

end VideoAccel
