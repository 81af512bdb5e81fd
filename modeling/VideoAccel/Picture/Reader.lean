import VideoAccel.Bytes.Text
import VideoAccel.Json.Value
import VideoAccel.Picture.Parameters

/-!
Pictures from JSON.

A picture is an object whose members are called after the syntax elements of the standard. What
is left out or null keeps its default, so an empty object is the default picture. A member of
another type, or a number outside its type, refuses the whole picture.

Three members are read on top of others. `size` sets the size in pixels and the macroblock counts
together. A row of `refs` names its place in the table by `i`. An item of `lists` either names a
row by `ref` and takes the slot from there, or spells all of its entry out.
-/

namespace VideoAccel

/-- The members of an entry that indexes the table hold eight bits. -/
def byteLimit : Nat := 256

namespace SequenceParameters

/-- The members that stand for one parameter each. -/
def ofMembers? (json : Json) : Option SequenceParameters := do
  let base : SequenceParameters := {}
  return {
    id := ← json.wordOr "sps_id" base.id
    profile := (← json.indexOr "profile_idc" base.profile) % byteLimit
    constraintSet3 := ← json.boolOr "constraint_set3" base.constraintSet3
    chroma := ← json.wordOr "chroma_format_idc" base.chroma
    lumaDepth := ← json.wordOr "bit_depth_luma" base.lumaDepth
    chromaDepth := ← json.wordOr "bit_depth_chroma" base.chromaDepth
    lossless := ← json.boolOr "qpprime_y_zero_transform_bypass" base.lossless
    frameNumberBits := ← json.wordOr "log2_max_frame_num_minus4" base.frameNumberBits
    referenceLimit := ← json.wordOr "max_num_ref_frames" base.referenceLimit
    orderCountType := ← json.wordOr "pic_order_cnt_type" base.orderCountType
    orderCountBits := ← json.wordOr "log2_max_poc_lsb_minus4" base.orderCountBits
    orderDeltaZero := ← json.boolOr "delta_pic_order_always_zero" base.orderDeltaZero
    width := ← json.wordOr "width" base.width
    height := ← json.wordOr "height" base.height
    widthInMacroblocks := ← json.wordOr "pic_width_in_mbs" base.widthInMacroblocks
    heightInMapUnits := ← json.wordOr "pic_height_in_map_units" base.heightInMapUnits
    framesOnly := ← json.boolOr "frame_mbs_only" base.framesOnly
    adaptiveFields := ← json.boolOr "mb_adaptive_frame_field" base.adaptiveFields
    directInference8x8 := ← json.boolOr "direct_8x8_inference" base.directInference8x8 }

def ofJson? (json : Json) : Option SequenceParameters := do
  let sequence ← ofMembers? json
  match ← json.listOr "size" Json.word32? with
  | [] => return sequence
  | [width, height] => return sequence.withSize width height
  | _ => none

end SequenceParameters

namespace PictureParameterSet

def ofJson? (json : Json) : Option PictureParameterSet := do
  let base : PictureParameterSet := {}
  return {
    id := ← json.wordOr "pps_id" base.id
    arithmeticCoding := ← json.boolOr "entropy_coding_mode" base.arithmeticCoding
    fieldOrderPresent :=
      ← json.boolOr "bottom_field_pic_order_in_frame_present" base.fieldOrderPresent
    defaultLength0 := ← json.wordOr "num_ref_idx_l0_default_active_minus1" base.defaultLength0
    defaultLength1 := ← json.wordOr "num_ref_idx_l1_default_active_minus1" base.defaultLength1
    weightedPrediction := ← json.boolOr "weighted_pred" base.weightedPrediction
    weightedBiprediction := ← json.wordOr "weighted_bipred_idc" base.weightedBiprediction
    initialQp := ← json.signedOr "pic_init_qp_minus26" base.initialQp
    initialQs := ← json.signedOr "pic_init_qs_minus26" base.initialQs
    chromaQpOffset := ← json.signedOr "chroma_qp_index_offset" base.chromaQpOffset
    deblockingControl :=
      ← json.boolOr "deblocking_filter_control_present" base.deblockingControl
    constrainedIntra := ← json.boolOr "constrained_intra_pred" base.constrainedIntra
    redundantPictures := ← json.boolOr "redundant_pic_cnt_present" base.redundantPictures
    transform8x8 := ← json.boolOr "transform_8x8_mode" base.transform8x8
    secondChromaQpOffset :=
      ← json.signedOr "second_chroma_qp_index_offset" base.secondChromaQpOffset
    scalingPresent := ← json.boolOr "scaling_matrix_present" base.scalingPresent }

end PictureParameterSet

namespace ScalingLists

/-- A row of coefficients in hexadecimal digits, of the right length. -/
def row? (n : Nat) (json : Json) : Option (Vector Byte n) := do
  let bytes ← json.string?.bind Bytes.ofHex?
  if sized : bytes.size = n then return ⟨bytes, sized⟩ else none

/-- The given rows in place of the first ones of a set. -/
def replaceRows {n k : Nat} (rows : List (Vector Byte n)) (base : Vector (Vector Byte n) k) :
    Vector (Vector Byte n) k :=
  base.mapIdx fun index row => rows.getD index row

def ofJson? (json : Json) : Option ScalingLists := do
  return {
    small := replaceRows (← json.listOr "l4" (row? 16)) flat.small
    large := replaceRows (← json.listOr "l8" (row? 64)) flat.large }

end ScalingLists

namespace ReferenceFrame

/-- A row of the table; without members it is present. -/
def ofJson? (json : Json) : Option ReferenceFrame := do
  return {
    present := ← json.boolOr "present" true
    slot := ← json.indexOr "dpb_slot" 0
    longTerm := ← json.boolOr "long_term" false
    frameNumber := ← json.wordOr "frame_num" 0
    isField := ← json.boolOr "field_pic" false
    topUsed := ← json.boolOr "top_used" false
    bottomUsed := ← json.boolOr "bottom_used" false
    motionUsed := ← json.boolOr "colmv_used" false
    topOrder := ← json.signedOr "top_poc" 0
    bottomOrder := ← json.signedOr "bottom_poc" 0 }

end ReferenceFrame

namespace Picture

/-- Stores a row at its place in the table, if there is such a place. -/
def storeReference? (table : Vector ReferenceFrame Layout.referenceCount) (json : Json) :
    Option (Vector ReferenceFrame Layout.referenceCount) := do
  let index ← (← json.member? "i").word64?
  let frame ← ReferenceFrame.ofJson? json
  if inside : index < Layout.referenceCount then return table.set index frame else none

def ofJson? (json : Json) : Option Picture := do
  let base : Picture := {}
  return {
    sequence := ← json.memberOr "sps" SequenceParameters.ofJson? base.sequence
    parameters := ← json.memberOr "pps" PictureParameterSet.ofJson? base.parameters
    slot := ← json.indexOr "curr_slot" base.slot
    frameNumber := ← json.wordOr "frame_num" base.frameNumber
    isField := ← json.boolOr "field_pic" base.isField
    isBottomField := ← json.boolOr "bottom_field" base.isBottomField
    isInstantRefresh := ← json.boolOr "idr" base.isInstantRefresh
    topOrder := ← json.signedOr "cur_top_poc" base.topOrder
    bottomOrder := ← json.signedOr "cur_bottom_poc" base.bottomOrder
    references := ← (← json.listOr "refs" some).foldlM storeReference? base.references
    parametersUpdated := ← json.boolOr "param_set_update" base.parametersUpdated
    scaling := ← json.memberOr "scaling" (fun lists => some <$> ScalingLists.ofJson? lists)
      base.scaling }

/-- An entry of a reference list of this picture. -/
def entryOfJson? (picture : Picture) (json : Json) : Option ListEntry := do
  let bottom ← json.boolOr "bottom" false
  match json.member? "ref" with
  | some row => return picture.listEntry ((← row.word64?) % byteLimit) bottom
  | none => return {
      present := ← json.boolOr "present" true
      index := (← json.indexOr "ref_index" 0) % byteLimit
      slot := ← json.indexOr "dpb_slot" 0
      bottom }

end Picture

namespace CodedPicture

/-- A picture with at most two reference lists. -/
def ofJson? (json : Json) : Option CodedPicture := do
  let picture ← Picture.ofJson? json
  match ← json.listOr "lists" (Json.list? picture.entryOfJson?) with
  | [] => return { picture }
  | [list0] => return { picture, lists := { list0 } }
  | [list0, list1] => return { picture, lists := { list0, list1 } }
  | _ => none

/-- An object without members is the default picture. -/
theorem ofJson?_empty : ofJson? (.object []) = some {} :=
  rfl

end CodedPicture

end VideoAccel
