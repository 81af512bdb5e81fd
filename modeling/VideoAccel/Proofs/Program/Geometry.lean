import VideoAccel.Proofs.Bits.Alignment
import VideoAccel.Proofs.Frame.Stride
import VideoAccel.Proofs.Program.References
import VideoAccel.Proofs.Register.Lens

/-!
How a built register file shows the strides of the output.

The fields of the output geometry are cut to 16 and 28 bits and count in units of 16 or 64 bytes. A
build stores each of them once, so that they read back what was stored, less the bits that do not fit
(`Job.toNat_get_geometry`). Where everything fits, no unit cuts anything off either, as all strides are
multiples of it: the registers show the strides of the picture buffer, with compression
(`Job.showsCompressed_image`) and without (`Job.showsPlain_image`). Pictures of at most 4096 by 2304
pixels fit in any format (`FramePool.fitsPlain`, `FramePool.fitsCompressed`).
-/

namespace VideoAccel

/-! ### Pictures whose strides fit -/

/-- The values for an output without compression fit their fields before they are kept to 32 bits. What
is left of a value that was cut may well fit its field, but does not describe the output. -/
structure FramePool.FitsPlain (pool : FramePool) (chroma : Nat) : Prop where
  chromaStride : (if chroma = 3 then pool.lineStride * 2 else pool.lineStride) / 16 < 2 ^ 16
  lumaSize : pool.lineStride * pool.planeLines / 16 < 2 ^ 28

/-- The values for an output with compression fit their fields before they are kept to 32 bits. -/
structure FrameBuffer.FitsCompressed (buffer : FrameBuffer) : Prop where
  lumaStride : alignUp buffer.width 64 / 64 < 2 ^ 16
  payloadOffset :
    alignPage (alignUp buffer.width 64 * alignUp buffer.planeLines 64 / 16) / 16 < 2 ^ 28

namespace FramePool

variable {pool : FramePool} {slot chroma : Nat} {buffer : FrameBuffer}

theorem FitsPlain.lineStride_lt (fits : pool.FitsPlain chroma) :
    pool.lineStride / 16 < 2 ^ 16 := by
  have chromaStride := fits.chromaStride
  split at chromaStride
  · omega
  · exact chromaStride

/-- A stride that fits is not cut. -/
theorem FitsPlain.lineStride_eq (fits : pool.FitsPlain chroma)
    (found : pool.frame? slot = some buffer) : buffer.lineStride = pool.lineStride := by
  obtain ⟨-, stride, -⟩ := frame?_eq_some found
  have small := fits.lineStride_lt
  rw [stride, Numeral.bound32]
  exact Nat.mod_eq_of_lt (by omega)

/-- Neither are the lines of a plane, unless they are empty. -/
theorem FitsPlain.planeLines_eq (fits : pool.FitsPlain chroma)
    (found : pool.frame? slot = some buffer) (filled : pool.lineStride ≠ 0) :
    buffer.planeLines = pool.planeLines := by
  obtain ⟨-, -, lines⟩ := frame?_eq_some found
  obtain ⟨units, stride⟩ : 16 ∣ pool.lineStride := StrideRule.dvd_apply ..
  have small := fits.lumaSize
  rw [stride, Nat.mul_assoc, Nat.mul_div_cancel_left _ (by decide)] at small
  have positive : 0 < units := by omega
  have least := Nat.le_mul_of_pos_left pool.planeLines positive
  rw [lines, Numeral.bound32]
  exact Nat.mod_eq_of_lt (by omega)

/-- Whatever the chroma format, pictures of at most 4096 by 2304 pixels fit. -/
theorem fitsPlain (width : pool.width ≤ 4096) (height : pool.height ≤ 2304) (chroma : Nat) :
    pool.FitsPlain chroma := by
  have stride : pool.lineStride ≤ (2 * 10 + 1) * 256 :=
    StrideRule.apply_le_of_le _ (Nat.le_trans (pool.format.lineBytes_le width) (by decide))
  have lines : pool.planeLines ≤ 144 * 16 := (@alignUp_le_iff 16 (by decide) _ 144).mpr height
  have plane : pool.lineStride * pool.planeLines ≤ (2 * 10 + 1) * 256 * (144 * 16) :=
    Nat.mul_le_mul stride lines
  constructor
  · split
    · omega
    · omega
  · omega

theorem fitsCompressed (width : pool.width ≤ 4096) (height : pool.height ≤ 2304)
    (found : pool.frame? slot = some buffer) : buffer.FitsCompressed := by
  obtain ⟨⟨same, -⟩, -, lines⟩ := frame?_eq_some found
  rw [← same] at width
  have header : alignUp buffer.width 64 ≤ 64 * 64 :=
    (@alignUp_le_iff 64 (by decide) _ 64).mpr width
  have plane : pool.planeLines ≤ 144 * 16 := (@alignUp_le_iff 16 (by decide) _ 144).mpr height
  have kept : buffer.planeLines ≤ 36 * 64 := by
    rw [lines]
    exact Nat.le_trans (Nat.mod_le ..) plane
  have rows : alignUp buffer.planeLines 64 ≤ 36 * 64 :=
    (@alignUp_le_iff 64 (by decide) _ 36).mpr kept
  have payload : alignUp buffer.width 64 * alignUp buffer.planeLines 64 ≤ 64 * 64 * (36 * 64) :=
    Nat.mul_le_mul header rows
  have page : alignPage (alignUp buffer.width 64 * alignUp buffer.planeLines 64 / 16) ≤ 144 * 4096 :=
    (@alignUp_le_iff 4096 (by decide) _ 144).mpr (by omega)
  exact ⟨by omega, by omega⟩

end FramePool

/-! ### What the registers show -/

namespace Layout

/-- The registers describe an output that is not there. -/
structure ShowsNoOutput (file : Bytes) : Prop where
  luma : lumaStride.get file = 0
  chroma : chromaStride.get file = 0
  size : lumaSize.get file = 0
  payload : payloadOffset.get file = 0

/-- The registers describe the lines of a picture buffer that is written as it is: luma and chroma
strides and the size of the luma plane, all in units of 16 bytes. The lines have room for the picture. -/
structure ShowsPlain (buffer : FrameBuffer) (chroma : Nat) (file : Bytes) : Prop where
  luma : 16 * (lumaStride.get file).toNat = buffer.lineStride
  line : buffer.format.lineBytes buffer.width ≤ buffer.lineStride
  chroma : 16 * (chromaStride.get file).toNat =
    if chroma = 3 then 2 * buffer.lineStride else buffer.lineStride
  size : 16 * (lumaSize.get file).toNat = buffer.lineStride * buffer.planeLines
  plane : buffer.lineStride * buffer.height ≤ 16 * (lumaSize.get file).toNat
  payload : payloadOffset.get file = 0

/-- The registers describe a picture that is written compressed: the header has as many units as 64
pixels need, and the payload starts on a page behind the headers of all lines. -/
structure ShowsCompressed (buffer : FrameBuffer) (file : Bytes) : Prop where
  luma : IsLeast {pixels | 64 ∣ pixels ∧ buffer.width ≤ pixels} (64 * (lumaStride.get file).toNat)
  chroma : (chromaStride.get file).toNat = (lumaStride.get file).toNat
  size : lumaSize.get file = 0
  page : 4096 ∣ 16 * (payloadOffset.get file).toNat
  payload : 64 * (lumaStride.get file).toNat * alignUp buffer.planeLines 64 / 16 ≤
    16 * (payloadOffset.get file).toNat

end Layout

/-- Only values that fit before they are cut can describe the output: the registers are too narrow for
others. -/
theorem FramePool.fitsPlain_of_shows {pool : FramePool} {slot chroma : Nat} {buffer : FrameBuffer}
    {file : Bytes} (found : pool.frame? slot = some buffer)
    (shows : Layout.ShowsPlain buffer chroma file) : pool.FitsPlain chroma := by
  obtain ⟨⟨width, height, format⟩, stride, lines⟩ := frame?_eq_some found
  have luma_lt : (Layout.lumaStride.get file).toNat < 2 ^ 16 := Field.toNat_get_lt _ file
  have chroma_lt : (Layout.chromaStride.get file).toNat < 2 ^ 16 := Field.toNat_get_lt _ file
  have size_lt : (Layout.lumaSize.get file).toNat < 2 ^ 28 := Field.toNat_get_lt _ file
  obtain ⟨luma, line, chromaStride, size, plane, -⟩ := shows
  -- The line fits a stride that was not cut, so that its own stride was not cut.
  have uncut : buffer.lineStride = pool.lineStride := by
    have short : pool.lineStride ≤ (2 * 2048 + 1) * 256 := by
      apply StrideRule.apply_le_of_le
      rw [← width, ← format]
      omega
    rw [stride, Numeral.bound32]
    exact Nat.mod_eq_of_lt (by omega)
  have units : 16 ∣ pool.lineStride := StrideRule.dvd_apply ..
  rw [uncut] at luma chromaStride size plane
  constructor
  · split at chromaStride
    · simp only [*, if_true]
      omega
    · simp only [*, if_false]
      omega
  · rcases Nat.eq_zero_or_pos pool.lineStride with empty | filled
    · simp [empty]
    · have few : 16 * buffer.height ≤ pool.lineStride * buffer.height :=
        Nat.mul_le_mul_right _ (Nat.le_of_dvd filled units)
      have whole : pool.planeLines ≤ 2 ^ 24 * 16 := by
        refine (@alignUp_le_iff 16 (by decide) _ (2 ^ 24)).mpr ?_
        rw [← height]
        omega
      have same : buffer.planeLines = pool.planeLines := by
        rw [lines, Numeral.bound32]
        exact Nat.mod_eq_of_lt (by omega)
      rw [← same, ← size]
      omega

theorem FrameBuffer.fitsCompressed_of_shows {buffer : FrameBuffer} {file : Bytes}
    (shows : Layout.ShowsCompressed buffer file) : buffer.FitsCompressed := by
  have luma_lt : (Layout.lumaStride.get file).toNat < 2 ^ 16 := Field.toNat_get_lt _ file
  have payload_lt : (Layout.payloadOffset.get file).toNat < 2 ^ 28 := Field.toNat_get_lt _ file
  obtain ⟨luma, -, -, page, payload⟩ := shows
  have header := (Writer.isLeast_alignUp (by decide) buffer.width).unique luma
  constructor
  · rw [header]
    omega
  · rw [← header] at payload
    have room := (alignUp_le_iff_of_dvd (by decide) page _).mpr payload
    unfold alignPage pageSize
    omega

namespace Job

variable {job : Job} {scratch : Handle} {entry : Field × BitVec 32}

/-- The values for the fields of the output geometry. -/
def geometryRow (compressed : Bool) (luma chroma size payload : Nat) : Assignment :=
  [(Layout.compressOutput, flagValue compressed), (Layout.lumaStride, BitVec.ofNat 32 luma),
    (Layout.chromaStride, BitVec.ofNat 32 chroma), (Layout.lumaSize, BitVec.ofNat 32 size),
    (Layout.payloadOffset, BitVec.ofNat 32 payload)]

theorem mem_of_mem_geometry (member : entry ∈ job.geometry) (scratch : Handle) :
    entry ∈ job.assignment scratch := by
  simp only [assignment, List.mem_append]
  exact .inl (.inl (.inl (.inl (.inl (.inr member)))))

/-- Nothing else that a build stores goes to one of these registers. -/
theorem mem_geometry_of_mem (sound : job.Sound) (member : entry ∈ job.assignment scratch)
    (own : ∃ field ∈ Layout.geometryFields, entry.1.reg = field.reg) : entry ∈ job.geometry := by
  obtain ⟨field, known, same⟩ := own
  rcases mem_assignment_cases sound member with geometry | references | lines | once
  · exact geometry
  · have apart : ∀ field ∈ Layout.geometryFields, field.reg ∉ Layout.referenceRegisters := by decide
    have among := List.mem_map_of_mem (f := fun entry => entry.1.reg) references
    rw [map_reg_referenceFields sound, same] at among
    exact absurd among (apart field known)
  · have apart : ∀ field ∈ Layout.geometryFields, field.reg ∉ Layout.lineBufferRegisters := by decide
    exact absurd (same ▸ lines) (apart field known)
  · have apart : ∀ field ∈ Layout.geometryFields, ∀ other ∈ Layout.single, other.reg ≠ field.reg := by
      decide
    exact absurd same (apart field known _ once)

/-- After a build a field of the output geometry has the value stored, less the bits it has no room
for. -/
theorem toNat_get_geometry (sound : job.Sound) {draft : Draft}
    (full : draft.file.size = Layout.fileBytes) {field : Field} {value : Nat}
    (member : (field, BitVec.ofNat 32 value) ∈ job.geometry) :
    (field.get (Draft.image job draft)).toNat = value % 2 ^ field.width := by
  have known := mem_geometryFields member
  have distinct : (job.geometry.map (·.1.reg)).Nodup := by
    obtain ⟨luma, chroma, size, payload, eq⟩ := job.geometry_eq
    have fields : (Layout.geometryFields.map (·.reg)).Nodup := by decide
    rw [eq]
    exact fields
  have stored := mem_of_mem_geometry member draft.scratch.handle
  have value_eq : (BitVec.ofNat 32 value).toNat % 2 ^ field.width = value % 2 ^ field.width := by
    have narrow := field.fits
    rw [BitVec.toNat_ofNat]
    exact Nat.mod_mod_of_dvd value (Nat.pow_dvd_pow 2 (by omega))
  rw [← value_eq]
  refine Field.toNat_get_of_bits fun k small => getLsbD_get_image_of_only sound full stored ?_ small
  intro entry among same
  exact List.inj_on_of_nodup_map distinct (mem_geometry_of_mem sound among ⟨field, known, same⟩)
    member same

/-- A build shows the values of the output geometry. -/
theorem get_geometryRow (sound : job.Sound) {draft : Draft}
    (full : draft.file.size = Layout.fileBytes) {luma chroma size payload : Nat}
    (row : job.geometry = geometryRow job.compressed luma chroma size payload) :
    (Layout.lumaStride.get (Draft.image job draft)).toNat = luma % 2 ^ 16 ∧
      (Layout.chromaStride.get (Draft.image job draft)).toNat = chroma % 2 ^ 16 ∧
      (Layout.lumaSize.get (Draft.image job draft)).toNat = size % 2 ^ 28 ∧
      (Layout.payloadOffset.get (Draft.image job draft)).toNat = payload % 2 ^ 28 := by
  have shown : ∀ {field : Field} {value : Nat},
      (field, BitVec.ofNat 32 value) ∈ geometryRow job.compressed luma chroma size payload →
      (field.get (Draft.image job draft)).toNat = value % 2 ^ field.width :=
    fun member => toNat_get_geometry sound full (row ▸ member)
  exact ⟨shown (.tail _ (.head _)), shown (.tail _ (.tail _ (.head _))),
    shown (.tail _ (.tail _ (.tail _ (.head _)))),
    shown (.tail _ (.tail _ (.tail _ (.tail _ (.head _)))))⟩

/-- Without an output buffer all values are zero. -/
theorem showsNoOutput_image (sound : job.Sound) {draft : Draft}
    (full : draft.file.size = Layout.fileBytes) (missing : job.frame? job.outputSlot = none) :
    Layout.ShowsNoOutput (Draft.image job draft) := by
  have row : job.geometry = geometryRow job.compressed 0 0 0 0 := by
    unfold geometry
    rw [missing]
    rfl
  obtain ⟨luma, chroma, size, payload⟩ := get_geometryRow sound full row
  exact ⟨BitVec.eq_of_toNat_eq luma, BitVec.eq_of_toNat_eq chroma, BitVec.eq_of_toNat_eq size,
    BitVec.eq_of_toNat_eq payload⟩

/-- Where the strides of a pool fit, an output that is written as it is has its strides shown. -/
theorem showsPlain_image (sound : job.Sound) {draft : Draft}
    (full : draft.file.size = Layout.fileBytes) {pool : FramePool} {buffer : FrameBuffer}
    (pictures : job.frame? = pool.frame?) (found : pool.frame? job.outputSlot = some buffer)
    (plain : job.compressed = false) (fits : pool.FitsPlain job.coded.picture.sequence.chroma) :
    Layout.ShowsPlain buffer job.coded.picture.sequence.chroma (Draft.image job draft) := by
  have stride := fits.lineStride_eq found
  obtain ⟨⟨width, height, format⟩, -, -⟩ := FramePool.frame?_eq_some found
  obtain ⟨units, whole⟩ : 16 ∣ pool.lineStride := StrideRule.dvd_apply ..
  have row : job.geometry = geometryRow job.compressed (buffer.lineStride / 16)
      ((if job.coded.picture.sequence.chroma = 3 then buffer.lineStride * 2
        else buffer.lineStride) / 16) (buffer.lineStride * buffer.planeLines / 16) 0 := by
    unfold geometry
    rw [pictures, found]
    simp only [plain]
    rfl
  obtain ⟨luma, chroma, size, payload⟩ := get_geometryRow sound full row
  have size_lt : buffer.lineStride * buffer.planeLines / 16 < 2 ^ 28 := by
    by_cases empty : pool.lineStride = 0
    · simp [stride, empty]
    · rw [stride, fits.planeLines_eq found empty]
      exact fits.lumaSize
  have size_eq : 16 * (Layout.lumaSize.get (Draft.image job draft)).toNat =
      buffer.lineStride * buffer.planeLines := by
    rw [size, Nat.mod_eq_of_lt size_lt]
    refine Nat.mul_div_cancel' ?_
    rw [stride, whole]
    exact Nat.dvd_mul_right_of_dvd (Nat.dvd_mul_right ..) _
  rw [stride] at luma chroma
  rw [Nat.mod_eq_of_lt fits.lineStride_lt] at luma
  rw [Nat.mod_eq_of_lt fits.chromaStride] at chroma
  refine ⟨?_, ?_, ?_, size_eq, ?_, BitVec.eq_of_toNat_eq payload⟩
  · rw [luma, stride]
    omega
  · rw [stride, width, format]
    exact StrideRule.le_apply ..
  · rw [chroma, stride]
    split
    · omega
    · omega
  · rw [size_eq]
    by_cases empty : pool.lineStride = 0
    · simp [stride, empty]
    · rw [fits.planeLines_eq found empty, height]
      exact Nat.mul_le_mul_left _ (le_alignUp pool.height 16)

/-- Where header and payload fit, an output that is written compressed has them shown. -/
theorem showsCompressed_image (sound : job.Sound) {draft : Draft}
    (full : draft.file.size = Layout.fileBytes) {buffer : FrameBuffer}
    (found : job.frame? job.outputSlot = some buffer) (compressed : job.compressed = true)
    (fits : buffer.FitsCompressed) : Layout.ShowsCompressed buffer (Draft.image job draft) := by
  let header := alignUp buffer.width 64
  let payload := alignPage (header * alignUp buffer.planeLines 64 / 16)
  have row : job.geometry =
      geometryRow job.compressed (header / 64) (header / 64) 0 (payload / 16) := by
    unfold geometry
    rw [found]
    simp only [compressed, if_true]
    rfl
  obtain ⟨luma, chroma, size, offset⟩ := get_geometryRow sound full row
  rw [Nat.mod_eq_of_lt fits.lumaStride] at luma chroma
  rw [Nat.mod_eq_of_lt fits.payloadOffset] at offset
  have header_eq : 64 * (header / 64) = header := Nat.mul_div_cancel' (dvd_alignUp (by decide) _)
  have page : 4096 ∣ payload := dvd_alignUp (by decide) _
  have payload_eq : 16 * (payload / 16) = payload :=
    Nat.mul_div_cancel' (Nat.dvd_trans (by decide) page)
  refine ⟨?_, chroma.trans luma.symm, BitVec.eq_of_toNat_eq size, ?_, ?_⟩
  · rw [luma, header_eq]
    exact Writer.isLeast_alignUp (by decide) buffer.width
  · rw [offset, payload_eq]
    exact page
  · rw [luma, offset, header_eq, payload_eq]
    exact le_alignUp _ pageSize

end Job

end VideoAccel
