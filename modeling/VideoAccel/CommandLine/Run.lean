import VideoAccel.CommandLine.Options
import VideoAccel.Config.Reader
import VideoAccel.Device.Simulated
import VideoAccel.Registry
import VideoAccel.Sequence

/-!
The trial run: a made-up sequence through the decoder on a simulated board.

The run keeps as many tasks in flight as the pipeline has slots and waits for the oldest one
before it starts another. Every report becomes a record as soon as a wait has returned; at the
end come the totals. A run that is refused somewhere keeps the lines it has printed.
-/

namespace VideoAccel.CommandLine

/-- The name under which the program goes. -/
def programName : String := "vhal-cli"

def version : String := "0.1.0"

/-- Slots of the picture store: sixteen references and the current picture. -/
def storeSlots : Nat := 17

/-- The handle of the stream buffer. -/
def streamHandle : Handle := ⟨1⟩

/-- The length of every task's stream, in bytes. -/
def streamLength : Nat := 64 * 1024

/-! ### Refusals -/

/-- Why a run ended early. -/
inductive RunError where
  /-- The settings file cannot be read. -/
  | unreadable (path reason : String)
  /-- The settings file does not hold settings. -/
  | malformed (path : String)
  | settings (fault : Fault)
  | unknownCodec (name : String)
  | noDecoder (codec : Codec) (fault : Fault)
  | initialisation (fault : Fault)
  | tooLarge (width height : Nat) (capability : Capability)
  | command (fault : Fault)
  | generation (task : Nat) (fault : Fault)
  | submission (task : Nat) (fault : Fault)
  | waiting (task : Nat) (fault : Fault)
deriving DecidableEq, Repr

/-- What the error line says behind its label. -/
def RunError.message : RunError → String
  | unreadable path reason => s!"读取配置文件失败, path={path}: {reason}"
  | malformed path => s!"解析配置文件失败, path={path}: JSON"
  | settings fault => s!"HAL 配置无效: {fault.message}"
  | unknownCodec name => s!"未知的编解码标准: {name}"
  | noDecoder codec fault => s!"创建 {codec.name} HAL 失败: {fault.message}"
  | initialisation fault => s!"HAL 初始化失败: {fault.message}"
  | tooLarge width height capability =>
      s!"尺寸 {width}x{height} 超出 {capability.name} 的上限 " ++
        s!"{capability.maxWidth}x{capability.maxHeight}"
  | command fault => fault.message
  | generation task fault => s!"任务 {task} 寄存器生成失败: {fault.message}"
  | submission task fault => s!"任务 {task} 提交失败: {fault.message}"
  | waiting task fault => s!"等待任务 {task} 失败: {fault.message}"

/-! ### Lines -/

/-- The totals of a run. -/
structure Totals where
  tasks : Nat := 0
  hardwareErrors : Nat := 0
  skipped : Nat := 0
  allocations : Nat := 0
  liveBytes : Nat := 0
  registerWrites : Nat := 0
deriving DecidableEq, Repr

namespace Totals

/-- Counts one report. -/
def count (totals : Totals) (report : Report) : Totals :=
  { totals with
    tasks := totals.tasks + 1
    hardwareErrors := totals.hardwareErrors + (report.hardError && !report.skipped).toNat
    skipped := totals.skipped + report.skipped.toNat }

/-- The totals in one line, as JSON or in words. -/
def line (totals : Totals) (json : Bool) : String :=
  if json then
    "\x7b\"tasks\":" ++ toString totals.tasks ++
      ",\"hard_errors\":" ++ toString totals.hardwareErrors ++
      ",\"skipped\":" ++ toString totals.skipped ++
      ",\"allocations\":" ++ toString totals.allocations ++
      ",\"live_bytes\":" ++ toString totals.liveBytes ++
      ",\"reg_writes\":" ++ toString totals.registerWrites ++ "\x7d"
  else
    s!"共 {totals.tasks} 个任务: 硬件错误 {totals.hardwareErrors}, 跳过 {totals.skipped}; " ++
      s!"分配 {totals.allocations} 次, 在用 {totals.liveBytes} 字节, " ++
      s!"寄存器写入 {totals.registerWrites} 次"

end Totals

/-- What became of a task, in one word. -/
def verdictText (report : Report) : String :=
  if report.skipped then "跳过" else if report.hardError then "硬件错误" else "完成"

/-- The record of one report, as JSON or in words. -/
def recordLine (report : Report) (json : Bool) : String :=
  if json then
    "\x7b\"task_id\":" ++ toString report.task ++
      ",\"output_slot\":" ++ toString report.outputSlot ++
      ",\"hard_err\":" ++ toString report.hardError ++
      ",\"skipped\":" ++ toString report.skipped ++
      ",\"status\":" ++ toString report.status.toNat ++ "\x7d"
  else
    let task := Numeral.padLeft ' ' 4 (toString report.task)
    let slot := Numeral.padLeft ' ' 2 (toString report.outputSlot)
    let status := Numeral.prefixedHexPadded 4 report.status.toNat
    s!"任务 {task}: 槽位 {slot} {verdictText report} (status={status})"

/-- The registers of a section that are not zero, a line to each. -/
def sectionLines (file : Bytes) (sec : Section) : List String :=
  (List.range sec.count).filterMap fun i =>
    let reg := sec.first + i
    let value := (Field.word reg).get file
    if value = 0 then none
    else
      let name := Numeral.padRight 13 sec.name
      let number := Numeral.padLeft '0' 3 (toString reg)
      some s!"  {name} reg{number} = {Numeral.prefixedHexPadded 8 value.toNat}"

/-- The registers that a task was submitted with, as far as they are not zero. -/
def dumpLines (report : Report) : List String :=
  if report.file.isEmpty then [] else Layout.written.flatMap (sectionLines report.file)

/-- All lines for one report. -/
def reportLines (options : Options) (report : Report) : List String :=
  recordLine report options.json :: if options.dumpRegisters then dumpLines report else []

/-! ### The run -/

abbrev TrialDecoder := Decoder SimulatedDevice Arena

/-- What a run has come to. -/
structure RunState where
  decoder : TrialDecoder
  /-- Tasks that were started and not waited for, oldest first. -/
  inFlight : List Task := []
  totals : Totals := {}
  /-- The lines printed so far. -/
  lines : Array String := #[]

abbrev Run (α : Type) := EStateM RunError RunState α

namespace Run

/-- Runs an action of the decoder; `explain` says what its refusal means for the run. -/
def onDecoder {α : Type} (explain : Fault → RunError) (action : Action TrialDecoder α) : Run α :=
  fun state =>
    match action state.decoder with
    | .ok value decoder => .ok value { state with decoder }
    | .error fault decoder => .error (explain fault) { state with decoder }

def print (line : String) : Run Unit :=
  modify fun state => { state with lines := state.lines.push line }

/-- Waits for a task. -/
def finish (task : Task) : Run Unit :=
  onDecoder (.waiting task.id) (Decoder.wait task)

/-- Prints and counts the reports that arrived, and takes them off the board. -/
def drain (options : Options) : Run Unit :=
  modify fun state =>
    let reports := state.decoder.board.reports
    { state with
      decoder := state.decoder.mapBoard fun board => { board with reports := #[] }
      totals := reports.foldl Totals.count state.totals
      lines := state.lines ++ reports.toList.flatMap (reportLines options) }

/-- Waits for the oldest task in flight, if there is one. -/
def finishOldest : Run Unit := do
  let state ← get
  match state.inFlight with
  | [] => pure ()
  | oldest :: later =>
      set { state with inFlight := later }
      finish oldest

/-- Waits for every task in flight. -/
def finishAll : List Task → Run Unit
  | [] => pure ()
  | oldest :: later => do
      modify fun state => { state with inFlight := later }
      finish oldest
      finishAll later

/-- The task of one frame. -/
def taskFor (options : Options) (sequence : Sequence) (index : Nat) : Task :=
  { id := index
    stream := streamHandle
    streamLength
    outputSlot := sequence.slotOf index
    flags := { parseError := options.parseErrors.contains index }
    coded := sequence.coded index }

/-- Sends one frame through the pipeline, after waiting for the oldest task if all `depth`
slots are taken. A skipped frame uses up no completion of the script. -/
def frame (options : Options) (sequence : Sequence) (depth index : Nat) : Run Unit := do
  let state ← get
  if depth ≤ state.inFlight.length then
    finishOldest
    drain options
  let task := taskFor options sequence index
  if options.hardwareErrors.contains index && !task.flags.hasError then
    let failed := Completion.ofStatus
      (StatusWord.interrupt ||| StatusWord.ready ||| StatusWord.decodeError) false false
    modify fun state =>
      { state with
        decoder := state.decoder.mapBoard fun board =>
          { board with device := board.device.pushCompletion failed } }
  let task ← onDecoder (.generation index) (Decoder.generate task)
  onDecoder (.submission index) (Decoder.start task)
  modify fun state => { state with inFlight := state.inFlight ++ [task] }

/-- Sends all frames through the pipeline and prints their records and the totals. -/
def sequence (options : Options) (config : Config) : Run Unit := do
  let capability ← onDecoder .initialisation (Decoder.initialise config true)
  if capability.maxWidth < options.width ∨ capability.maxHeight < options.height then
    throw (.tooLarge options.width options.height capability)
  onDecoder .command <| Decoder.control <| .setOutput
    { width := options.width
      height := options.height
      format := .nv12
      compressed := options.compressed }
  let sequence := Sequence.of options.width options.height options.fields storeSlots
  (List.range options.frames).forM (frame options sequence capability.pipelineDepth)
  finishAll (← get).inFlight
  drain options
  let state ← get
  let board := state.decoder.board
  onDecoder .command Decoder.release
  print <| Totals.line
    { state.totals with
      allocations := board.memory.allocCount
      liveBytes := board.memory.liveBytes
      registerWrites := board.device.writeCount }
    options.json

end Run

/-- What a run printed, and why it ended early if it did. -/
structure Outcome where
  lines : List String
  error : Option RunError
deriving DecidableEq, Repr

namespace Outcome

def exitCode (outcome : Outcome) : Nat :=
  if outcome.error.isSome then 1 else 0

/-- The line for the error channel. -/
def errorLine? (outcome : Outcome) : Option String :=
  outcome.error.map fun error => s!"错误: {error.message}"

end Outcome

/-- The settings of a run: those of the file, if one is named, with the command line's changes.
`fileText` is what reading that file comes to. -/
def settings (options : Options) (fileText : Except String String) : Except RunError Config := do
  let config : Config ←
    match options.config with
    | none => .ok {}
    | some path =>
        match fileText with
        | .error reason => .error (.unreadable path reason)
        | .ok text =>
            match Config.ofText? text with
            | some config => .ok config
            | none => .error (.malformed path)
  let config := match options.depth with
    | some depth => { config with pipelineDepth := depth }
    | none => config
  let config := if options.noFast then { config with fastMode := false } else config
  match config.validate with
  | .ok () => .ok config
  | .error fault => .error (.settings fault)

/-- The board of a trial run. -/
def trialBoard (options : Options) : Board SimulatedDevice Arena :=
  { device := .idle .done
    memory := {}
    frames :=
      { FramePool.ofSize storeSlots options.width options.height .nv12 with
        compressed := options.compressed } }

/-- Carries out what the command line asks for. -/
def execute (options : Options) (fileText : Except String String) : Outcome :=
  let registry := Registry.standard
  if options.list then
    ⟨(registry.list Codec.all).map fun (codec, name) => s!"{codec.name} {name}", none⟩
  else
    let ready : Except RunError Config := do
      let config ← settings options fileText
      match Codec.ofName? options.codec with
      | none => .error (.unknownCodec options.codec)
      | some codec =>
          match registry.create codec with
          | .error fault => .error (.noDecoder codec fault)
          | .ok _ => .ok config
    match ready with
    | .error error => ⟨[], some error⟩
    | .ok config =>
        match Run.sequence options config { decoder := .idle (trialBoard options) } with
        | .ok () state => ⟨state.lines.toList, none⟩
        | .error error state => ⟨state.lines.toList, some error⟩

end VideoAccel.CommandLine
