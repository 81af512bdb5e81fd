import VideoAccel.Fault
import VideoAccel.Frame.Format
import VideoAccel.Frame.Stride
import VideoAccel.Memory.LineBuffer
import VideoAccel.Register.Status

/-!
What the library puts on record while it works.

An `Event` is a fact worth logging, with the values it is about; `level` says how important it
is and `message` words it. A `Journal` is the events so far, oldest first.
-/

namespace VideoAccel

inductive LogLevel where
  | warning | debug | trace
deriving DecidableEq, Repr

def LogLevel.text : LogLevel → String
  | warning => "WARN"
  | debug => "DEBUG"
  | trace => "TRACE"

/-- Errors the stream parser found before the task reached the accelerator. -/
structure TaskFlags where
  /-- The stream could not be parsed. -/
  parseError : Bool := false
  /-- A reference picture is missing or damaged. -/
  referenceError : Bool := false
deriving DecidableEq, Repr

namespace TaskFlags

def hasError (flags : TaskFlags) : Bool :=
  flags.parseError || flags.referenceError

/-- The flags as log records spell them. -/
def text (flags : TaskFlags) : String :=
  "TaskFlags \x7b " ++
    s!"parse_err: {flags.parseError}, ref_err: {flags.referenceError}" ++ " \x7d"

end TaskFlags

inductive Event where
  | lineBuffersPlaced (key : ShapeKey) (compressed : Bool) (size : Nat)
  | motionPoolRebuilt (slots size : Nat)
  | referencesResolved (presence : BitVec 16) (concealSlot : Nat)
  | scratchReady (size regions : Nat)
  | lineBuffersReady (size : Nat)
  /-- The registers of a task are generated; `full` says whether its parameter sets were
  serialised anew. -/
  | registersReady (task slot : Nat) (full : Bool)
  | compressionSwitched (on : Bool)
  | initialisationFailed (fault : Fault)
  | initialised (fastMode : Bool) (slots : Nat)
  | releasedWithTasks (count : Nat)
  | released
  | generationSkipped (task : Nat) (flags : TaskFlags)
  | submissionSkipped (task : Nat)
  | submissionFailed (task : Nat) (fault : Fault)
  | hardwareError (task : Nat) (status : BitVec 32) (verdict : Verdict)
  | pollFailed (task : Nat) (fault : Fault)
  | resetRequested
  | flushRequested
  | outputSized (width height : Nat) (format : FrameFormat) (stride : StrideRule)
  | outputFormatted (format : FrameFormat)
  | commandIgnored (id : Nat)
deriving DecidableEq, Repr

/-- The name of the decoder, which most messages start with. -/
def decoderName : String := "vdpu-h264"

namespace Event

def level : Event → LogLevel
  | referencesResolved _ _ => .trace
  | initialisationFailed _ | releasedWithTasks _ | submissionFailed _ _ | hardwareError _ _ _
  | pollFailed _ _ => .warning
  | _ => .debug

/-- A message of the decoder. -/
def named (text : String) : String :=
  s!"{decoderName}: {text}"

def message : Event → String
  | lineBuffersPlaced key compressed size =>
      s!"RCB 重新分配: {key.width}x{key.height} depth={key.bitDepth} chroma={key.chroma} " ++
        s!"field={key.fieldCoding} fbc={compressed} -> {size} 字节"
  | motionPoolRebuilt slots size => s!"colmv 缓冲池重建: {slots} 个槽位, 每块 {size} 字节"
  | referencesResolved presence concealSlot =>
      s!"参考解析: 有效位图 {Numeral.prefixedHexPadded 4 presence.toNat}, " ++
        s!"替换参考槽位 {concealSlot}"
  | scratchReady size regions => named s!"暂存缓冲区 {size} 字节, {regions} 个区域"
  | lineBuffersReady size => named s!"RCB 缓冲区 {size} 字节"
  | registersReady task slot full =>
      named (s!"任务 {task} 使用槽位 {slot}, 参数集" ++ if full then "完整序列化" else "复用")
  | compressionSwitched on => named ("FBC 输出 " ++ if on then "开启" else "关闭")
  | initialisationFailed fault => named s!"初始化失败: {fault.message}"
  | initialised fastMode slots => named s!"初始化完成, fast_mode={fastMode}, 槽位 {slots}"
  | releasedWithTasks count => named s!"释放时仍有 {count} 个任务在途"
  | released => named "资源已释放"
  | generationSkipped task flags =>
      named s!"任务 {task} 带上游错误标志 {flags.text}, 跳过寄存器生成"
  | submissionSkipped task => named s!"任务 {task} 带错误标志, 不提交硬件"
  | submissionFailed task fault => named s!"任务 {task} 提交失败: {fault.message}"
  | hardwareError task status verdict =>
      named s!"任务 {task} 硬件错误: status={Numeral.prefixedHex status.toNat} {verdict.text}"
  | pollFailed task fault => named s!"任务 {task} 轮询失败: {fault.message}"
  | resetRequested => named "reset"
  | flushRequested => named "flush"
  | outputSized width height format stride =>
      named s!"输出 {width}x{height} {format.name}, 步长对齐 {stride.text}"
  | outputFormatted format => named s!"输出格式 {format.name}"
  | commandIgnored id => named s!"忽略控制命令 {Numeral.prefixedHex id}"

/-- The line a log shows for the event. -/
def line (event : Event) : String :=
  s!"{event.level.text} {event.message}"

end Event

/-- Events in the order in which they happened. -/
abbrev Journal := Array Event

end VideoAccel
