import VideoAccel.Register.Field

/-!
The register file of the H.264 decoding engine.

The file has 264 registers in six sections. Five of them are written when a task is submitted;
the sixth, the interrupt status, is only read back. Names of fields say what the hardware does
with them; strides and plane sizes are in units of 16 bytes.
-/

namespace VideoAccel.Layout

/-- How many reference frames one picture can name. -/
def referenceCount : Nat := 16

/-- How many line buffers the engine has. -/
def lineBufferCount : Nat := 9

/-- The number of registers. -/
def registerCount : Nat := 264

def common : Section := ⟨"common", 8, 24⟩
def codecParameters : Section := ⟨"codec_params", 64, 48⟩
def commonAddresses : Section := ⟨"common_addr", 128, 16⟩
def codecAddresses : Section := ⟨"codec_addr", 160, 40⟩
def interruptStatus : Section := ⟨"irq_status", 224, 4⟩
def statistics : Section := ⟨"statistics", 256, 8⟩

/-- The sections sent to the device on submission, in sending order. -/
def written : List Section :=
  [common, codecParameters, commonAddresses, codecAddresses, statistics]

/-! ### Common fields -/

/-- Selects the codec. -/
def engineMode : Field := { reg := 9, bit := 0, width := 10 }
/-- After an error, fill in the headers. -/
def fillHeaders : Field := { reg := 10, bit := 0, width := 1 }
/-- After an error, fill in the motion vectors. -/
def fillMotion : Field := { reg := 10, bit := 1, width := 1 }
def concealErrors : Field := { reg := 10, bit := 2, width := 1 }
/-- Conceal damaged macroblocks by intra prediction. -/
def concealIntra : Field := { reg := 10, bit := 3, width := 1 }
/-- Report a stream that ran out. -/
def reportEmpty : Field := { reg := 10, bit := 4, width := 1 }
def gateClocks : Field := { reg := 11, bit := 0, width := 1 }
/-- Align writes to memory bursts. -/
def alignWrites : Field := { reg := 11, bit := 2, width := 1 }
/-- Write the picture compressed. -/
def compressOutput : Field := { reg := 12, bit := 0, width := 1 }
/-- The watchdog's limit, in cycles. -/
def watchdog : Field := .word 13
/-- The length of the stream, in bytes. -/
def streamLength : Field := .word 16
def lumaStride : Field := { reg := 18, bit := 0, width := 16 }
def chromaStride : Field := { reg := 19, bit := 0, width := 16 }
/-- The size of the luma plane. -/
def lumaSize : Field := { reg := 20, bit := 0, width := 28 }
/-- Where the payload of a compressed picture starts. -/
def payloadOffset : Field := { reg := 21, bit := 0, width := 28 }

/-! ### Fields of the current picture -/

def topOrder : Field := .word 64
def bottomOrder : Field := .word 65

/-- The order count of one field of reference `i`. -/
def referenceOrder (i : Nat) (bottom : Bool) : Field :=
  .word (66 + 2 * i + bottom.toNat)

/-- Bit `i` is set when reference `i` was coded as fields. -/
def referenceIsField : Field := { reg := 98, bit := 0, width := 16 }
def referenceTopUsed : Field := { reg := 99, bit := 0, width := 16 }
def referenceBottomUsed : Field := { reg := 100, bit := 0, width := 16 }
/-- Bit `i` is set when the motion vectors of reference `i` may be used. -/
def referenceMotionUsed : Field := { reg := 101, bit := 0, width := 16 }
def isField : Field := { reg := 103, bit := 0, width := 1 }
def isBottomField : Field := { reg := 103, bit := 1, width := 1 }
/-- Frame and field macroblocks are mixed. -/
def isAdaptive : Field := { reg := 103, bit := 2, width := 1 }
def isInstantRefresh : Field := { reg := 103, bit := 3, width := 1 }

/-! ### Addresses -/

def streamBase : Field := .word 128
def outputBase : Field := .word 129
/-- Where the current picture's motion vectors go. -/
def motionBase : Field := .word 130
/-- The picture that stands in for damaged areas. -/
def concealBase : Field := .word 131

/-- The address registers of the line buffers. -/
def lineBufferRegisters : List Nat :=
  (List.range lineBufferCount).map (132 + ·)

def parameterBase : Field := .word 160
def listBase : Field := .word 161
def scalingBase : Field := .word 162
/-- The table of entropy decoder start values. -/
def entropyBase : Field := .word 163
/-- An area for error details, which is not used. -/
def errorInfoBase : Field := .word 164

/-- The picture of reference `i`. -/
def referenceBase (i : Nat) : Field :=
  .word (165 + i)

/-- The motion vectors of reference `i`. -/
def referenceMotionBase (i : Nat) : Field :=
  .word (165 + referenceCount + i)

/-! ### Interrupt status -/

/-- The main status word. -/
def status : Field := .word 224
/-- The entropy decoder met an error. -/
def entropyError : Field := { reg := 225, bit := 0, width := 1 }
/-- A reference's motion vectors were wrong. -/
def motionError : Field := { reg := 226, bit := 0, width := 1 }

/-- No two sections share a register: in order of position each ends before the next begins. -/
theorem sections_apart :
    [common, codecParameters, commonAddresses, codecAddresses, interruptStatus,
      statistics].Pairwise fun a b => a.first + a.count ≤ b.first := by
  decide

/-- The last section ends where the file ends. -/
theorem statistics_ends : statistics.first + statistics.count = registerCount := rfl

end VideoAccel.Layout
