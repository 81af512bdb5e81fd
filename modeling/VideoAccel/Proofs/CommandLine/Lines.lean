import Mathlib.Data.List.Forall2
import VideoAccel.CommandLine.Run
import VideoAccel.Proofs.Json.Objects

/-!
What the lines of a trial run tell.

The lines of a report are its record and, if registers are to be printed, one line for each register of a
written section that is not zero. `Options.Shows` says so of any lines, without the functions that print
them: a record in JSON is what a reader makes of it (`Report.RecordedBy`), and one in words has its
numbers in columns (`Fills`). The totals have one line (`Totals.ToldBy`).
-/

namespace VideoAccel

/-! ### Columns -/

namespace Numeral

/-- The column holds the text at its right end and is filled up to its width on the left. A text that is
too long widens the column. -/
def Fills (fill : Char) (width : Nat) (text column : String) : Prop :=
  ∃ front, column = String.ofList (List.replicate front fill) ++ text ∧
    column.length = max width text.length

theorem fills_padLeft (fill : Char) (width : Nat) (text : String) :
    Fills fill width text (padLeft fill width text) := by
  refine ⟨width - text.length, rfl, ?_⟩
  rw [padLeft, String.length_append, String.length_ofList, List.length_replicate]
  omega

/-- Text is put into a line as it is. -/
theorem toString_text (text : String) : toString text = text := rfl

end Numeral

open Numeral (Fills fills_padLeft toString_text)

namespace Report

/-- The line is the record of the report, as JSON or in words. -/
def RecordedBy (report : Report) (json : Bool) (line : String) : Prop :=
  match json with
  | true =>
      Json.ofText? line = some (.object
        [(some "task_id", .number false report.task true),
          (some "output_slot", .number false report.outputSlot true),
          (some "hard_err", .bool report.hardError),
          (some "skipped", .bool report.skipped),
          (some "status", .number false report.status.toNat true)])
  | false =>
      ∃ task slot status verdict,
        Fills ' ' 4 (toString report.task) task ∧
        Fills ' ' 2 (toString report.outputSlot) slot ∧
        Fills '0' 4 (String.ofList (Nat.toDigits 16 report.status.toNat)) status ∧
        (report.skipped = true → verdict = "跳过") ∧
        (report.skipped = false → report.hardError = true → verdict = "硬件错误") ∧
        (report.skipped = false → report.hardError = false → verdict = "完成") ∧
        line = "任务 " ++ task ++ ": 槽位 " ++ slot ++ " " ++ verdict ++ " (status=0x" ++ status ++ ")"

/-- The line tells the value of a register in a section. -/
def DumpedBy (report : Report) (place : Section × Nat) (line : String) : Prop :=
  ∃ number value,
    Fills '0' 3 (toString place.2) number ∧
    Fills '0' 8 (String.ofList (Nat.toDigits 16 ((Field.word place.2).get report.file).toNat)) value ∧
    line = "  " ++ place.1.name ++ String.ofList (List.replicate (13 - place.1.name.length) ' ') ++
      " reg" ++ number ++ " = 0x" ++ value

/-- The registers of the written sections that are not zero, in their order. -/
def places (report : Report) : List (Section × Nat) :=
  (Layout.written.flatMap fun sec => (List.range' sec.first sec.count).map (sec, ·)).filter
    fun place => (Field.word place.2).get report.file ≠ 0

end Report

/-- The line tells the totals, as JSON or in words. -/
def CommandLine.Totals.ToldBy (totals : Totals) (json : Bool) (line : String) : Prop :=
  match json with
  | true =>
      Json.ofText? line = some (.object
        [(some "tasks", .number false totals.tasks true),
          (some "hard_errors", .number false totals.hardwareErrors true),
          (some "skipped", .number false totals.skipped true),
          (some "allocations", .number false totals.allocations true),
          (some "live_bytes", .number false totals.liveBytes true),
          (some "reg_writes", .number false totals.registerWrites true)])
  | false =>
      line = "共 " ++ toString totals.tasks ++ " 个任务: 硬件错误 " ++
        toString totals.hardwareErrors ++ ", 跳过 " ++ toString totals.skipped ++ "; 分配 " ++
        toString totals.allocations ++ " 次, 在用 " ++ toString totals.liveBytes ++
        " 字节, 寄存器写入 " ++ toString totals.registerWrites ++ " 次"

namespace CommandLine

/-- The lines are those of the report: its record, and then the registers if they are to be printed. -/
structure Options.Shows (options : Options) (report : Report) (lines : List String) : Prop where
  record : ∃ line, lines.head? = some line ∧ report.RecordedBy options.json line
  dump : List.Forall₂ report.DumpedBy (if options.dumpRegisters then report.places else [])
    lines.tail

/-! ### Records -/

/-- A record in JSON is an object of three numbers and two truth values. -/
theorem recordLine_json (report : Report) :
    recordLine report true = Json.objectText
      [("task_id", .natural report.task), ("output_slot", .natural report.outputSlot),
        ("hard_err", .truth report.hardError), ("skipped", .truth report.skipped),
        ("status", .natural report.status.toNat)] := by
  rw [← String.toList_inj]
  simp [recordLine, Json.objectText, Json.membersText, Json.memberText, Json.Scalar.text]

theorem recordedBy_recordLine (report : Report) (json : Bool) :
    report.RecordedBy json (recordLine report json) := by
  cases json with
  | true =>
      have plain : ∀ key ∈ ["task_id", "output_slot", "hard_err", "skipped", "status"],
          Json.Plain key.toList := by decide
      rw [Report.RecordedBy, recordLine_json]
      exact Json.ofText?_objectText (List.cons_ne_nil _ _) plain
  | false =>
      refine ⟨_, _, _, verdictText report, fills_padLeft _ _ _, fills_padLeft _ _ _,
        fills_padLeft _ _ _, ?_, ?_, ?_, ?_⟩
      · intro skipped
        simp [verdictText, skipped]
      · intro ran failed
        simp [verdictText, ran, failed]
      · intro ran fine
        simp [verdictText, ran, fine]
      · rw [← String.toList_inj]
        simp [recordLine, Numeral.prefixedHexPadded, Numeral.hexPadded, Numeral.hex, toString_text]

/-! ### Registers -/

/-- Keeping the elements with an image, and what is related to each of them. -/
theorem forall₂_filterMap {α β : Type} {related : α → β → Prop} {keep : α → Bool}
    {image : α → Option β} (dropped : ∀ a, keep a = false → image a = none)
    (kept : ∀ a, keep a = true → ∃ b, image a = some b ∧ related a b) (list : List α) :
    List.Forall₂ related (list.filter keep) (list.filterMap image) := by
  induction list with
  | nil => exact .nil
  | cons a list ih =>
      cases told : keep a with
      | false =>
          rw [List.filter_cons_of_neg (by rw [told]; decide),
            List.filterMap_cons_none (dropped a told)]
          exact ih
      | true =>
          obtain ⟨b, same, relates⟩ := kept a told
          rw [List.filter_cons_of_pos told, List.filterMap_cons_some same]
          exact .cons relates ih

theorem dumpedBy_sectionLines (report : Report) (sec : Section) :
    List.Forall₂ report.DumpedBy
      (((List.range' sec.first sec.count).map (sec, ·)).filter
        fun place => (Field.word place.2).get report.file ≠ 0)
      (sectionLines report.file sec) := by
  rw [List.range'_eq_map_range, List.map_map, List.filter_map, List.forall₂_map_left_iff]
  refine forall₂_filterMap (fun i zero => ?_) (fun i nonzero => ?_) _
  · simp only [Function.comp_apply, ne_eq, decide_not, Bool.not_eq_false', decide_eq_true_eq] at zero
    exact if_pos zero
  · simp only [Function.comp_apply, ne_eq, decide_not, Bool.not_eq_true', decide_eq_false_iff_not]
      at nonzero
    refine ⟨_, if_neg nonzero, _, _, fills_padLeft _ _ _, fills_padLeft _ _ _, ?_⟩
    rw [← String.toList_inj]
    simp [Numeral.padRight, Numeral.prefixedHexPadded, Numeral.hexPadded, Numeral.hex,
      toString_text]

/-- Every register of a written section that is not zero has its line. A report without a register file
has none. -/
theorem dumpedBy_dumpLines (report : Report) :
    List.Forall₂ report.DumpedBy report.places (dumpLines report) := by
  unfold dumpLines
  split
  next empty =>
    have outside : ∀ reg, (Field.word reg).lies report.file = false := by
      intro reg
      rw [Array.isEmpty_iff.mp empty]
      simp [Field.lies, registerBytes]
    have none : report.places = [] :=
      List.filter_eq_nil_iff.mpr fun place _ => by simp [Field.get_of_not_lies (outside place.2)]
    rw [none]
    exact .nil
  next =>
    unfold Report.places
    induction Layout.written with
    | nil => exact .nil
    | cons sec sections ih =>
        rw [List.flatMap_cons, List.flatMap_cons, List.filter_append]
        exact List.rel_append (dumpedBy_sectionLines report sec) ih

/-! ### Lines of a report -/

theorem shows_reportLines (options : Options) (report : Report) :
    options.Shows report (reportLines options report) where
  record := ⟨_, rfl, recordedBy_recordLine report options.json⟩
  dump := by
    unfold reportLines
    split
    · exact dumpedBy_dumpLines report
    · exact .nil

/-! ### Totals -/

theorem Totals.line_json (totals : Totals) :
    totals.line true = Json.objectText
      [("tasks", .natural totals.tasks), ("hard_errors", .natural totals.hardwareErrors),
        ("skipped", .natural totals.skipped), ("allocations", .natural totals.allocations),
        ("live_bytes", .natural totals.liveBytes),
        ("reg_writes", .natural totals.registerWrites)] := by
  rw [← String.toList_inj]
  simp [line, Json.objectText, Json.membersText, Json.memberText, Json.Scalar.text]

theorem Totals.toldBy_line (totals : Totals) (json : Bool) :
    totals.ToldBy json (totals.line json) := by
  cases json with
  | true =>
      have plain : ∀ key ∈ ["tasks", "hard_errors", "skipped", "allocations", "live_bytes",
          "reg_writes"], Json.Plain key.toList := by decide
      rw [ToldBy, line_json]
      exact Json.ofText?_objectText (List.cons_ne_nil _ _) plain
  | false =>
      rw [ToldBy, ← String.toList_inj]
      simp [line, toString_text]

end CommandLine

end VideoAccel
