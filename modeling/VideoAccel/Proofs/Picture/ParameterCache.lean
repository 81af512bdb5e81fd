import VideoAccel.Proofs.Picture.ParameterSets
import Mathlib.Data.List.Chain

/-!
The parameter cache after any history of pictures.

The cache stands for the header of one picture, `ParameterCache.Holds`: the last one whose header was
serialised, which need not be the last one served. Bringing it up to date with a picture keeps that
header or replaces it (`Picture.headerAfter`), and the words are then the header in use, the bitmaps
of the picture itself and zeros, whatever stood there before (`ParameterCache.Holds.update`). As long
as every change of the parameter sets is announced the header in use is the picture's own
(`ParameterCache.Holds.update_announced`).
-/

namespace VideoAccel

namespace Picture

/-- The bits of a header. -/
def headerLength : Nat := 125

/-- The zeros behind the bitmaps of an entry. -/
def paddingLength : Nat := 227

theorem widths_header (picture : Picture) :
    (picture.headerFields.map (·.2)).sum = headerLength := by
  simp [headerFields, SequenceParameters.fields, PictureParameterSet.fields, headerLength]

theorem widths_bitmaps (picture : Picture) : (picture.bitmapFields.map (·.2)).sum = 32 := by
  simp [bitmapFields]

theorem length_header (picture : Picture) :
    (Writer.string picture.headerFields).length = headerLength :=
  (Writer.length_string _).trans picture.widths_header

theorem length_bitmaps (picture : Picture) : (Writer.string picture.bitmapFields).length = 32 :=
  (Writer.length_string _).trans picture.widths_bitmaps

theorem narrow_header (picture : Picture) : ∀ field ∈ picture.headerFields, field.2 ≤ 64 := by
  simp [headerFields, SequenceParameters.fields, PictureParameterSet.fields]

theorem narrow_bitmaps (picture : Picture) : ∀ field ∈ picture.bitmapFields, field.2 ≤ 64 := by
  simp [bitmapFields]

/-- The bits of an entry that has the header of one picture and the bitmaps of another. -/
def entryBits (header picture : Picture) : List Bool :=
  Writer.string (header.headerFields ++ picture.bitmapFields) ++
    List.replicate paddingLength false

/-- The picture whose header is in use once a picture was served, `header` being the one whose
header was in use before. -/
def headerAfter (header : Option Picture) (picture : Picture) (demanded : Bool) : Picture :=
  if demanded || picture.parametersUpdated ||
      header.map (·.parameterKey) != some picture.parameterKey then picture
  else header.getD picture

/-- After the picture `before`, the parser tells when the parameter sets are others: their numbers
are, or it announces a change. -/
def Announces (before picture : Picture) : Prop :=
  before.parameterKey ≠ picture.parameterKey ∨ picture.parametersUpdated = true ∨
    (before.sequence = picture.sequence ∧ before.parameters = picture.parameters)

/-- After an announced change, or none, the header in use is the picture's own, if the header before
was that of the picture before. -/
theorem headerAfter_announced {header before : Option Picture} {picture : Picture}
    (fields : header.map headerFields = before.map headerFields)
    (key : header.map parameterKey = before.map parameterKey)
    (announced : ∀ earlier ∈ before, earlier.Announces picture) (demanded : Bool) :
    (headerAfter header picture demanded).headerFields = picture.headerFields ∧
      (headerAfter header picture demanded).parameterKey = picture.parameterKey := by
  unfold headerAfter
  split
  · exact ⟨rfl, rfl⟩
  · rename_i kept
    simp only [Bool.or_eq_true, bne_iff_ne, ne_eq, not_or, not_not] at kept
    cases header with
    | none => exact ⟨rfl, rfl⟩
    | some header =>
        cases before with
        | none => cases key
        | some earlier =>
            have sameKey := Option.some.inj kept.2
            have sameFields := Option.some.inj fields
            have earlierKey := Option.some.inj key
            rcases announced earlier rfl with other | updated | ⟨sequence, parameters⟩
            · exact absurd (earlierKey.symm.trans sameKey) other
            · exact absurd updated kept.1.2
            · refine ⟨sameFields.trans ?_, sameKey⟩
              rw [headerFields, headerFields, sequence, parameters]

/-- The picture whose header is in use after pictures that were served in turn, none of which was to
be serialised anew on demand. -/
def headerOf (pictures : List Picture) : Option Picture :=
  pictures.foldl (fun header picture => some (headerAfter header picture false)) none

theorem headerOf_concat (pictures : List Picture) (picture : Picture) :
    headerOf (pictures ++ [picture]) = some (headerAfter (headerOf pictures) picture false) := by
  rw [headerOf, List.foldl_concat, headerOf]

/-- As long as every change is announced, the header in use is that of the last picture. -/
theorem headerOf_announced {pictures : List Picture} (announced : pictures.IsChain Announces) :
    (headerOf pictures).map headerFields = pictures.getLast?.map headerFields ∧
      (headerOf pictures).map parameterKey = pictures.getLast?.map parameterKey := by
  induction pictures using List.reverseRecOn with
  | nil => exact ⟨rfl, rfl⟩
  | append_singleton pictures picture ih =>
      obtain ⟨earlier, -, last⟩ := List.isChain_append.mp announced
      obtain ⟨fields, key⟩ := ih earlier
      obtain ⟨ownFields, ownKey⟩ := headerAfter_announced fields key
        (fun before among => last before among picture rfl) false
      rw [headerOf_concat, List.getLast?_concat, Option.map_some, Option.map_some, Option.map_some,
        Option.map_some, ownFields, ownKey]
      exact ⟨rfl, rfl⟩

/-- The entry of a picture whose parameter sets are serialised from scratch. -/
def freshEntry (picture : Picture) : Bytes :=
  (({} : ParameterCache).update picture true).entry

/-- Entries with the same bitmaps are the same exactly if the headers are. -/
theorem entryBits_inj {picture header other : Picture} :
    entryBits header picture = entryBits other picture ↔
      Writer.string header.headerFields = Writer.string other.headerFields := by
  have split : ∀ header : Picture, entryBits header picture = Writer.string header.headerFields ++
      (Writer.string picture.bitmapFields ++ List.replicate paddingLength false) := by
    intro header
    rw [entryBits, Writer.string_append, List.append_assoc]
  rw [split, split]
  exact List.append_left_inj _

end Picture

namespace ParameterCache

/-- The cache stands for the header of this picture; before the first one it stands for none. -/
structure Holds (cache : ParameterCache) (header : Option Picture) : Prop where
  size : cache.words.size = parameterEntryBytes / 8
  key : cache.key = header.map (·.parameterKey)
  position : ∀ picture ∈ header, cache.headerBits = Picture.headerLength
  bits : ∀ picture ∈ header, (Words.toBits cache.words.toList).take Picture.headerLength =
    Writer.string picture.headerFields

theorem holds_empty : Holds {} none where
  size := Array.size_replicate
  key := rfl
  position := fun _ impossible => absurd impossible (Option.not_mem_none _)
  bits := fun _ impossible => absurd impossible (Option.not_mem_none _)

variable {cache : ParameterCache} {header : Option Picture}

/-- Which of two pictures with the same header it stands for is all the same. -/
theorem Holds.of_same {header picture : Picture} (holds : cache.Holds (some header))
    (key : header.parameterKey = picture.parameterKey)
    (bits : Writer.string header.headerFields = Writer.string picture.headerFields) :
    cache.Holds (some picture) where
  size := holds.size
  key := holds.key.trans (congrArg some key)
  position := by
    rintro _ ⟨⟩
    exact holds.position _ rfl
  bits := by
    rintro _ ⟨⟩
    exact (holds.bits _ rfl).trans bits

@[simp] theorem key_update (cache : ParameterCache) (picture : Picture) (full : Bool) :
    (cache.update picture full).key = some picture.parameterKey := rfl

/-- A cache with the bits of an entry has as many words as one. -/
theorem size_of_bits {header picture : Picture}
    (bits : Words.toBits cache.words.toList = Picture.entryBits header picture) :
    cache.words.size = parameterEntryBytes / 8 := by
  have length := congrArg List.length bits
  rw [Words.length_toBits, Array.length_toList, Picture.entryBits, List.length_append,
    Writer.string_append, List.length_append, header.length_header, picture.length_bitmaps,
    List.length_replicate] at length
  exact Nat.eq_of_mul_eq_mul_left (show 0 < 64 by decide) length

/-- A cache whose words start with a header stands for it. -/
theorem Holds.of_bits {header picture : Picture}
    (bits : Words.toBits cache.words.toList = Picture.entryBits header picture)
    (key : cache.key = some header.parameterKey)
    (position : cache.headerBits = Picture.headerLength) : cache.Holds (some header) where
  size := size_of_bits bits
  key := key
  position := by
    rintro _ ⟨⟩
    exact position
  bits := by
    rintro _ ⟨⟩
    rw [bits, Picture.entryBits, Writer.string_append, List.append_assoc,
      List.take_left' header.length_header]

/-! ### Bringing the cache up to date -/

/-- Serialising the header leaves nothing of what the cache held. -/
theorem update_full (size : cache.words.size = parameterEntryBytes / 8) (picture : Picture) :
    (cache.update picture true).headerBits = Picture.headerLength ∧
      Words.toBits (cache.update picture true).words.toList =
        Picture.entryBits picture picture := by
  have narrow : ∀ field ∈ picture.headerFields ++ picture.bitmapFields, field.2 ≤ 64 :=
    List.forall_mem_append.mpr ⟨picture.narrow_header, picture.narrow_bitmaps⟩
  have sum : ((picture.headerFields ++ picture.bitmapFields).map (·.2)).sum =
      Picture.headerLength + 32 := by
    rw [List.map_append, List.sum_append, picture.widths_header, picture.widths_bitmaps]
  constructor
  · have sound : (Writer.ofWords cache.words).Sound := Writer.sound_ofWords _
    have capacity : (Writer.ofWords cache.words).capacity = 6 := (Nat.min_self _).trans size
    have start : (Writer.ofWords cache.words).position = 0 := rfl
    simp only [update, if_true, sound.position_putAll picture.narrow_header, capacity,
      picture.widths_header, start]
    decide
  · have words : (cache.update picture true).words =
        ((Writer.ofWords cache.words).putAll
          (picture.headerFields ++ picture.bitmapFields)).words := by
      rw [Writer.putAll, List.foldl_append]
      exact Writer.words_align_zero _ _
    rw [words, Writer.toBits_ofWords_putAll narrow (by rw [sum, size]; decide), sum, size]
    rfl

/-- A writer that goes on behind the header holds the header and zeros. -/
theorem toBits_resume {header : Picture} (holds : cache.Holds (some header)) :
    (Writer.resume cache.words cache.headerBits).toBits.take Picture.headerLength =
      Writer.string header.headerFields := by
  have owned : (⟨cache.words, cache.words.size, 0, false⟩ : Writer).capacity ≤
      cache.words.size := Nat.le_refl _
  have whole : (⟨cache.words, cache.words.size, 0, false⟩ : Writer).toBits =
      Words.toBits cache.words.toList := by
    rw [Writer.toBits_eq, ← Array.length_toList, List.take_length]
  rw [Writer.resume, Writer.toBits_seek owned, holds.position header rfl, whole,
    holds.bits header rfl, Writer.takeD_of_length_le, List.take_left' header.length_header]
  have room : Picture.headerLength ≤ 64 * cache.words.size := by
    rw [holds.size]
    decide
  rwa [header.length_header]

/-- Without serialising it the header stays, and everything behind it is replaced. -/
theorem update_reuse {header : Picture} (holds : cache.Holds (some header)) (picture : Picture) :
    (cache.update picture false).headerBits = Picture.headerLength ∧
      Words.toBits (cache.update picture false).words.toList =
        Picture.entryBits header picture := by
  refine ⟨holds.position header rfl, ?_⟩
  have words : (cache.update picture false).words =
      ((Writer.resume cache.words cache.headerBits).putAll picture.bitmapFields).words :=
    Writer.words_align_zero _ _
  have kept := toBits_resume holds
  have capacity : (Writer.resume cache.words cache.headerBits).capacity = 6 :=
    (Writer.capacity_seek _ _).trans holds.size
  have length : (Writer.resume cache.words cache.headerBits).words.size = 6 :=
    (Writer.size_seek _ _).trans holds.size
  have behind : (Writer.resume cache.words cache.headerBits).position = Picture.headerLength := by
    rw [Writer.resume, Writer.position_seek, holds.size, holds.position header rfl]
    rfl
  have sound : (Writer.resume cache.words cache.headerBits).Sound := .seek (Nat.le_refl _) _
  obtain ⟨-, whole, size, written⟩ := sound.putAll picture.narrow_bitmaps
  have fits : (Writer.string (header.headerFields ++ picture.bitmapFields)).length = 157 := by
    rw [Writer.string_append, List.length_append, header.length_header, picture.length_bitmaps]
    rfl
  -- What was kept of the words ends where the bitmaps start, so nothing older is left.
  rw [length] at size
  rw [capacity] at whole written
  rw [behind, kept, ← Writer.string_append,
    Writer.takeD_of_length_le (by rw [fits]; decide), fits, Writer.toBits_eq, whole,
    List.take_of_length_le (Nat.le_of_eq size)] at written
  rw [words, written]
  rfl

/-- What the cache stands for, and its words, once it is brought up to date with a picture. -/
theorem Holds.update (holds : cache.Holds header) (picture : Picture) (demanded : Bool) :
    let next := cache.update picture (cache.mustSerialise picture demanded)
    next.Holds (some (.headerAfter header picture demanded)) ∧
      Words.toBits next.words.toList =
        Picture.entryBits (.headerAfter header picture demanded) picture := by
  intro next
  have same : cache.mustSerialise picture demanded = (demanded || picture.parametersUpdated ||
      header.map (·.parameterKey) != some picture.parameterKey) := by
    rw [mustSerialise, holds.key]
  by_cases full : cache.mustSerialise picture demanded = true
  · obtain ⟨position, bits⟩ := update_full holds.size picture
    have own : Picture.headerAfter header picture demanded = picture := if_pos (same ▸ full)
    rw [own]
    rw [← full] at position bits
    exact ⟨.of_bits bits rfl position, bits⟩
  · have kept : header.map (·.parameterKey) = some picture.parameterKey := by
      simp only [same, Bool.or_eq_true, bne_iff_ne, not_or, not_not] at full
      exact full.2
    cases header with
    | none => cases kept
    | some header =>
        have own : Picture.headerAfter (some header) picture demanded = header :=
          if_neg (same ▸ full)
        obtain ⟨position, bits⟩ := update_reuse holds picture
        rw [own]
        rw [← Bool.eq_false_iff.mpr full] at position bits
        exact ⟨.of_bits bits kept.symm position, bits⟩

/-- After an announced change, or none, the cache stands for the picture itself. -/
theorem Holds.update_announced {before : Option Picture} (holds : cache.Holds before)
    {picture : Picture} (announced : ∀ earlier ∈ before, earlier.Announces picture)
    (demanded : Bool) :
    let next := cache.update picture (cache.mustSerialise picture demanded)
    next.Holds (some picture) ∧
      Words.toBits next.words.toList = Picture.entryBits picture picture := by
  intro next
  obtain ⟨header, key⟩ := Picture.headerAfter_announced rfl rfl announced demanded
  obtain ⟨held, bits⟩ := holds.update picture demanded
  refine ⟨held.of_same key (congrArg Writer.string header), bits.trans ?_⟩
  rw [Picture.entryBits, Picture.entryBits, Writer.string_append, header, ← Writer.string_append]

/-- In the words of the cache there is an entry, and zeros behind it. -/
theorem entry_reads {header picture : Picture}
    (bits : Words.toBits cache.words.toList = Picture.entryBits header picture) :
    ∃ next, ParameterEntry.read (.ofWords cache.words) =
        .ok ((ParameterEntry.of picture).withHeader header) next ∧
      next.ahead = List.replicate Picture.paddingLength false :=
  ParameterEntry.reads header picture _ _ bits

/-- The entry follows from the string of its words. -/
theorem entry_congr {other : ParameterCache}
    (same : Words.toBits cache.words.toList = Words.toBits other.words.toList) :
    cache.entry = other.entry := by
  have words : cache.words = other.words :=
    Array.toList_inj.mp (Words.toBits_injective same)
  rw [entry, entry, words]

end ParameterCache

end VideoAccel
