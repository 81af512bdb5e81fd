import VideoAccel.Codec
import VideoAccel.Config
import VideoAccel.Memory.LineBufferCache
import VideoAccel.Memory.MotionPool
import VideoAccel.Memory.Scratch
import VideoAccel.Picture.Blob
import VideoAccel.Picture.EntropyTable
import VideoAccel.Picture.References
import VideoAccel.Register.PatchTable

/-!
Turning one picture into what the hardware reads.

`Job` is all a task's registers depend on; `Draft` is what building them works on: the register
file of a pipeline slot, its patch table, the parameter cache of its scratch region and the
scratch buffer. `Draft.build` first clears every section but the common one, then writes the
three blobs into scratch memory, and then fills the registers. Address registers receive handles;
offsets into the buffers behind them go into the patch table. A refusal ends the build and leaves
what was done.
-/

namespace VideoAccel

/-- The areas of the scratch buffer for H.264. -/
def scratchSizes : ScratchSizes :=
  { entropy := EntropyTable.byteCount
    errorInfo := 0
    parameters := parameterEntryCount * parameterEntryBytes
    lists := listBytes
    scaling := ScalingLists.byteCount }

/-- Values for fields, in the order in which they are stored. -/
abbrev Assignment := List (Field × BitVec 32)

namespace Assignment

/-- Stores the values in a register file. -/
def store (assignment : Assignment) (file : Bytes) : Bytes :=
  assignment.foldl (fun file (field, value) => field.set value file) file

theorem size_store (assignment : Assignment) (file : Bytes) :
    (assignment.store file).size = file.size := by
  unfold store
  induction assignment generalizing file with
  | nil => rfl
  | cons entry rest ih => rw [List.foldl_cons, ih, Field.size_set]

end Assignment

/-- The value of a flag. -/
def flagValue (flag : Bool) : BitVec 32 :=
  if flag then 1 else 0

/-- The common registers, which are set once for every slot. -/
def commonAssignment (config : Config) : Assignment :=
  [(Layout.engineMode, BitVec.ofNat 32 Codec.h264.engineMode),
    (Layout.fillHeaders, flagValue config.concealErrors),
    (Layout.fillMotion, flagValue config.concealErrors),
    (Layout.concealErrors, flagValue config.concealErrors),
    (Layout.concealIntra, flagValue config.concealErrors),
    (Layout.reportEmpty, 1),
    (Layout.gateClocks, flagValue config.gateClocks),
    (Layout.alignWrites, 1),
    (Layout.watchdog, BitVec.ofNat 32 config.watchdogCycles)]

/-- A register file with only the common registers set. -/
def freshFile (config : Config) : Bytes :=
  (commonAssignment config).store (Bytes.zeros (Layout.registerCount * registerBytes))

/-- Everything the registers of a task depend on. -/
structure Job where
  coded : CodedPicture
  references : ReferenceBlock
  /-- The picture store, asked by slot. -/
  frame? : Nat → Option FrameBuffer
  stream : Handle
  streamLength : Nat
  outputSlot : Nat
  region : ScratchRegion
  motion : MotionPool
  lines : LineBufferCache
  /-- Write the picture compressed. -/
  compressed : Bool
  /-- Serialise the parameter sets whatever the cache holds. -/
  serialiseAll : Bool

namespace Job

/-- What the address register of a picture in the given slot holds; zero for an unknown slot. -/
def frameValue (job : Job) (slot : Nat) : BitVec 32 :=
  ((job.frame? slot).map (·.handle.registerValue)).getD 0

/-- Strides and sizes of the output. Compressed output has a header of one unit for 64 pixels
and a payload that starts on a page. Without an output buffer everything is zero. -/
def geometry (job : Job) : Assignment :=
  let values (luma chroma size payload : Nat) : Assignment :=
    [(Layout.lumaStride, BitVec.ofNat 32 luma), (Layout.chromaStride, BitVec.ofNat 32 chroma),
      (Layout.lumaSize, BitVec.ofNat 32 size), (Layout.payloadOffset, BitVec.ofNat 32 payload)]
  (Layout.compressOutput, flagValue job.compressed) ::
    match job.frame? job.outputSlot with
    | none => values 0 0 0 0
    | some output =>
        if job.compressed then
          let header := alignUp output.width 64
          let payload := alignPage (header * alignUp output.planeLines 64 / 16)
          values (header / 64) (header / 64) 0 (payload / 16)
        else
          let line := output.lineStride
          let chroma := if job.coded.picture.sequence.chroma = 3 then line * 2 else line
          values (line / 16) (chroma / 16) (line * output.planeLines / 16) 0

/-- The registers that describe the current picture and its references. -/
def pictureFields (job : Job) : Assignment :=
  let picture := job.coded.picture
  [(Layout.topOrder, BitVec.ofInt 32 picture.topOrder),
      (Layout.bottomOrder, BitVec.ofInt 32 picture.bottomOrder)] ++
    (job.references.slots.zipIdx.flatMap fun (reference, i) =>
      [(Layout.referenceOrder i false, BitVec.ofInt 32 reference.topOrder),
        (Layout.referenceOrder i true, BitVec.ofInt 32 reference.bottomOrder)]) ++
    [(Layout.referenceIsField, job.references.fieldBitmap),
      (Layout.referenceTopUsed, job.references.topBitmap),
      (Layout.referenceBottomUsed, job.references.bottomBitmap),
      (Layout.referenceMotionUsed, job.references.motionBitmap),
      (Layout.isField, flagValue picture.isField),
      (Layout.isBottomField, flagValue (picture.isField && picture.isBottomField)),
      (Layout.isAdaptive, flagValue picture.isAdaptive),
      (Layout.isInstantRefresh, flagValue picture.isInstantRefresh)]

/-- The addresses of the stream, the output, its motion vectors and the stand-in for damaged
areas. -/
def pictureAddresses (job : Job) : Assignment :=
  [(Layout.streamBase, job.stream.registerValue),
    (Layout.outputBase, job.frameValue job.outputSlot),
    (Layout.motionBase, (job.motion.handle job.coded.picture.slot).registerValue),
    (Layout.concealBase, job.frameValue job.references.concealSlot)]

/-- The addresses of the references and their motion vectors. -/
def referenceAddresses (job : Job) : Assignment :=
  job.references.slots.zipIdx.flatMap fun (reference, i) =>
    [(Layout.referenceBase i, job.frameValue reference.slot),
      (Layout.referenceMotionBase i, (job.motion.handle reference.slot).registerValue)]

/-- The line buffers in use: address register, handle and offset. -/
def lineBufferPointers (job : Job) : List (Field × BitVec 32 × Nat) :=
  (job.lines.buffers.filter fun buffer => buffer.size ≠ 0).map fun buffer =>
    (.word buffer.reg, job.lines.handle.registerValue, buffer.offset)

/-- The areas of scratch memory: address register, handle and offset. -/
def scratchPointers (job : Job) (scratch : Handle) : List (Field × BitVec 32 × Nat) :=
  [(Layout.parameterBase, scratch.registerValue, job.region.parameters),
    (Layout.listBase, scratch.registerValue, job.region.lists),
    (Layout.scalingBase, scratch.registerValue, job.region.scaling),
    (Layout.entropyBase, scratch.registerValue, 0)]

end Job

/-- What building the registers of a task works on. -/
structure Draft where
  file : Bytes
  patches : PatchTable
  cache : ParameterCache
  scratch : Buffer

namespace Draft

/-- Stores values in the register file. -/
def assign (assignment : Assignment) : Action Draft Unit := fun draft =>
  .ok () { draft with file := assignment.store draft.file }

/-- Stores a handle in each address register and records the offset behind it. -/
def point : List (Field × BitVec 32 × Nat) → Action Draft Unit
  | [] => pure ()
  | (field, value, offset) :: rest => do
      assign [(field, value)]
      fun draft =>
        match draft.patches.push field.reg offset with
        | .ok patches => .ok () { draft with patches }
        | .error fault => .error fault draft
      point rest

/-- Runs an action on the scratch buffer. -/
def onScratch {α : Type} (action : Action Buffer α) : Action Draft α :=
  Action.on (·.scratch) (fun scratch draft => { draft with scratch }) action

/-- Clears what earlier tasks left behind: all sections but the common one, and the patches. -/
def clear : Action Draft Unit := fun draft =>
  let sections := [Layout.codecParameters, Layout.commonAddresses, Layout.codecAddresses,
    Layout.interruptStatus, Layout.statistics]
  .ok () { draft with
    file := sections.foldl (fun file sec => sec.clear file) draft.file
    patches := .empty }

/-- Serialises the parameter sets and stores all copies of their entry. Answers whether the
header was serialised anew. -/
def writeParameters (job : Job) : Action Draft Bool := do
  let draft ← get
  let picture := job.coded.picture
  let full := draft.cache.mustSerialise picture job.serialiseAll
  let cache := draft.cache.update picture full
  set { draft with cache }
  onScratch (Buffer.writeAll (Blob.parameterCopies job.region.parameters cache.entry))
  return full

/-- Builds the registers and blobs of a task. Answers whether the parameter sets were serialised
anew. -/
def build (job : Job) : Action Draft Bool := do
  clear
  let full ← writeParameters job
  onScratch (Buffer.write job.region.lists (Blob.referenceLists job.coded))
  onScratch (Buffer.write job.region.scaling job.coded.picture.scalingLists.toBytes)
  assign [(Layout.streamLength, BitVec.ofNat 32 job.streamLength)]
  assign job.geometry
  assign job.pictureFields
  assign job.pictureAddresses
  point job.lineBufferPointers
  let draft ← get
  point (job.scratchPointers draft.scratch.handle)
  assign [(Layout.errorInfoBase, 0)]
  assign job.referenceAddresses
  return full

end Draft

end VideoAccel
