import VideoAccel.Codec
import VideoAccel.Numeral
import VideoAccel.Pipeline.Stage

/-!
What can go wrong, as causes rather than as text.

Every refusal of the library is a `Fault`. A fault has a `kind`, which callers branch on, and a
`detail`, which says what was wrong; `message` joins the two. The wording lives here only.
`reported` carries the words of a collaborator outside this library.

Damaged streams and hardware errors are no faults: the first arrive as flags of a task, the
second leave in its completion report.
-/

namespace VideoAccel

inductive FaultKind where
  | invalidArgument
  | unsupported
  | allocationFailure
  | deviceIo
  | io
  | notFound
  | invalidState
  | resourceBusy
  | internal
deriving DecidableEq, Repr

namespace FaultKind

/-- Every kind, in declaration order. -/
def all : List FaultKind :=
  [invalidArgument, unsupported, allocationFailure, deviceIo, io, notFound, invalidState,
    resourceBusy, internal]

/-- The spelling of a kind stored as data. -/
def tag : FaultKind → String
  | invalidArgument => "InvalidArgument"
  | unsupported => "Unsupported"
  | allocationFailure => "AllocationFailure"
  | deviceIo => "DeviceIo"
  | io => "Io"
  | notFound => "HalNotFound"
  | invalidState => "InvalidState"
  | resourceBusy => "ResourceBusy"
  | internal => "Internal"

def ofTag? (text : String) : Option FaultKind :=
  all.find? fun kind => kind.tag == text

theorem ofTag?_tag (kind : FaultKind) : ofTag? kind.tag = some kind := by
  cases kind <;> rfl

/-- The words a message of this kind opens with. -/
def label : FaultKind → String
  | invalidArgument => "无效参数"
  | unsupported => "不支持的操作"
  | allocationFailure => "内存分配失败"
  | deviceIo => "设备 I/O 错误"
  | io => "I/O 错误"
  | notFound => "未找到 HAL"
  | invalidState => "状态错误"
  | resourceBusy => "资源繁忙"
  | internal => "内部错误"

end FaultKind

inductive Fault where
  /-- A collaborator's own refusal, in its own words. -/
  | reported (kind : FaultKind) (detail : String)
  /-- One read asked for more bits than a word holds. -/
  | readTooWide (count : Nat)
  /-- A read asked for more bits than are left. -/
  | readPastEnd (left count : Nat)
  /-- A skip went past the last bit. -/
  | skipPastEnd (left count : Nat)
  /-- The configured pipeline depth is zero or above `limit`. -/
  | pipelineDepth (limit depth : Nat)
  /-- A write does not lie inside its buffer. -/
  | bufferOverrun (offset length size : Nat)
  /-- A patch names a register whose index needs more than 32 bits. -/
  | patchRegister (reg : Nat)
  /-- A patch holds an offset that needs more than 32 bits. -/
  | patchOffset (offset : Nat)
  /-- A patch for a further register does not fit into a table of `limit` entries. -/
  | patchTableFull (limit reg : Nat)
  | noDecoderFor (codec : Codec)
  | noDecoderNamed (name : String)
  /-- A register access leaves the register space of the device. -/
  | registerSpace (offset length : Nat)
  /-- The device was told to fail its polls. -/
  | pollRefused
  /-- A poll found no submitted task. -/
  | nothingInFlight
  /-- The allocator was told to refuse. -/
  | allocationRefused (size : Nat)
  /-- A call needs a decoder that was initialised. -/
  | notInitialised
  /-- Every one of the pipeline's slots serves a task. -/
  | pipelineFull (slots : Nat)
  /-- Without pipelining, the one slot still serves the task before. -/
  | previousTaskPending
  /-- The task holds no slot. -/
  | registersMissing (task : Nat)
  /-- The task names a slot the pipeline does not have. -/
  | slotMissing (task slot : Nat)
  /-- The slot is free or serves another task. -/
  | slotForeign (slot task : Nat) (occupant : Option Nat)
  | slotStage (task slot : Nat) (actual needed : Stage)
  /-- The task already holds a slot. -/
  | slotHeld (task slot : Nat)
  /-- A slot index that the pipeline itself chose does not exist. -/
  | slotIndex (slot : Nat)
deriving DecidableEq, Repr

namespace Fault

def kind : Fault → FaultKind
  | reported kind _ => kind
  | readTooWide _ | readPastEnd _ _ | skipPastEnd _ _ | pipelineDepth _ _ | bufferOverrun _ _ _
  | patchRegister _ | patchOffset _ | patchTableFull _ _ => .invalidArgument
  | noDecoderFor _ | noDecoderNamed _ => .notFound
  | registerSpace _ _ | pollRefused | nothingInFlight => .deviceIo
  | allocationRefused _ => .allocationFailure
  | notInitialised | registersMissing _ | slotMissing _ _ | slotForeign _ _ _ | slotStage _ _ _ _
  | slotHeld _ _ => .invalidState
  | pipelineFull _ | previousTaskPending => .resourceBusy
  | slotIndex _ => .internal

/-- A task number that may be absent, as details spell it. -/
def optionalText : Option Nat → String
  | none => "None"
  | some task => s!"Some({task})"

def detail : Fault → String
  | reported _ detail => detail
  | readTooWide count => s!"BitReader: 单次最多读取 64 位, n={count}"
  | readPastEnd left count => s!"BitReader: 剩余 {left} 位, 不足 {count} 位"
  | skipPastEnd left count => s!"BitReader: 剩余 {left} 位, 无法跳过 {count} 位"
  | pipelineDepth limit depth => s!"流水线深度必须在 1..={limit}, 实际为 {depth}"
  | bufferOverrun offset length size =>
      s!"缓冲区写入越界: offset={offset}, len={length}, size={size}"
  | patchRegister reg => s!"寄存器索引过大: {reg}"
  | patchOffset offset => s!"寄存器偏移过大: {offset}"
  | patchTableFull limit reg => s!"寄存器偏移补丁表已满 ({limit} 项), reg={reg}"
  | noDecoderFor codec => s!"未找到 {codec.name} 的 HAL"
  | noDecoderNamed name => s!"未找到名为 {name} 的 HAL"
  | registerSpace offset length =>
      s!"寄存器访问越界: offset={Numeral.prefixedHex offset}, len={length}"
  | pollRefused => "轮询失败 (注入)"
  | nothingInFlight => "没有在途任务可轮询"
  | allocationRefused size => s!"模拟分配失败: {size} 字节"
  | notInitialised => "HAL 未初始化"
  | pipelineFull slots => s!"流水线槽位已全部在用 ({slots} 个)"
  | previousTaskPending => "上一个任务尚未 wait, 槽位 0 不可复用"
  | registersMissing task => s!"任务 {task} 尚未生成寄存器"
  | slotMissing task slot => s!"任务 {task} 的槽位 {slot} 不存在"
  | slotForeign slot task occupant =>
      s!"槽位 {slot} 不属于任务 {task} (当前 {optionalText occupant})"
  | slotStage task slot actual needed =>
      s!"任务 {task} 的槽位 {slot} 处于 {actual.text}, 需要 {needed.text}"
  | slotHeld task slot => s!"任务 {task} 已持有槽位 {slot}, 需先 wait"
  | slotIndex slot => s!"槽位索引越界: {slot}"

/-- The whole message: what kind of refusal, then what was wrong. -/
def message (fault : Fault) : String :=
  fault.kind.label ++ ": " ++ fault.detail

theorem kind_reported (kind : FaultKind) (detail : String) : (reported kind detail).kind = kind :=
  rfl

end Fault

end VideoAccel
