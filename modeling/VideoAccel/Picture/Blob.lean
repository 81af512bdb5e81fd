import VideoAccel.Bits.Writer
import VideoAccel.Picture.Parameters

/-!
The serialised parts of a picture that the hardware reads from scratch memory.

* The parameter sets: a header of the fields of both sets, then two bitmaps over the table of
  references, padded to 128 bits. A `ParameterCache` keeps the last header, so that a picture
  with the same parameter sets rewrites only what follows the header.
* The reference lists: sixteen frame numbers, then 32 entries for each of the two lists, seven
  bits to an entry, padded to 128 bits.
* The scaling matrices, byte by byte.
-/

namespace VideoAccel

/-- How often the parameter entry is repeated, once for every number a picture parameter set
can have. -/
def parameterEntryCount : Nat := 256

/-- The bytes of one parameter entry. -/
def parameterEntryBytes : Nat := 48

/-- The bytes of the serialised reference lists. -/
def listBytes : Nat := 128

/-- The parameter sets as they were last serialised. -/
structure ParameterCache where
  /-- The numbers of the sequence and picture parameter sets. -/
  key : Option (Nat × Nat) := none
  headerBits : Nat := 0
  words : Array Word := Array.replicate (parameterEntryBytes / 8) 0
deriving DecidableEq, Repr

namespace Picture

/-- The numbers under which the picture's parameter sets go. -/
def parameterKey (picture : Picture) : Nat × Nat :=
  (picture.sequence.id, picture.parameters.id)

/-- The fields of both parameter sets, in order. -/
def headerFields (picture : Picture) : List (Word × Nat) :=
  picture.sequence.fields ++ picture.parameters.fields

/-- The bitmaps that follow the header. -/
def bitmapFields (picture : Picture) : List (Word × Nat) :=
  [(picture.longTermBitmap.setWidth 64, 16), (picture.presenceBitmap.setWidth 64, 16)]

end Picture

namespace ParameterCache

/-- Whether the picture's header has to be serialised: on demand, when the parser announces a
change, or when the cache holds other parameter sets. -/
def mustSerialise (cache : ParameterCache) (picture : Picture) (demanded : Bool) : Bool :=
  demanded || picture.parametersUpdated || cache.key != some picture.parameterKey

/-- Brings the cache up to date with a picture. With `full` the header is serialised, otherwise
the header of the last picture stays. -/
def update (cache : ParameterCache) (picture : Picture) (full : Bool) : ParameterCache :=
  let header :=
    if full then (Writer.ofWords cache.words).putAll picture.headerFields
    else Writer.resume cache.words cache.headerBits
  let whole := (header.putAll picture.bitmapFields).align 128 0
  { key := some picture.parameterKey
    headerBits := if full then header.position else cache.headerBits
    words := whole.words }

/-- The parameter entry the cache stands for. -/
def entry (cache : ParameterCache) : Bytes :=
  Bytes.spread cache.words (Bytes.zeros parameterEntryBytes)

end ParameterCache

namespace Blob

/-- The parameter entry, repeated: where each copy goes, and its bytes. -/
def parameterCopies (start : Nat) (entry : Bytes) : List (Nat × Bytes) :=
  (List.range parameterEntryCount).map fun i => (start + i * parameterEntryBytes, entry)

/-- An entry of a reference list; an absent or missing one is zero. -/
def listEntryFields (entry : Option ListEntry) : List (Word × Nat) :=
  match entry.filter (·.present) with
  | some entry => [(BitVec.ofNat 64 entry.index, 5), (Word.ofBool entry.bottom, 1), (1, 1)]
  | none => [(0, 7)]

/-- The fields of one reference list. -/
def listFields (list : List ListEntry) : List (Word × Nat) :=
  (List.range ReferenceLists.maxLength).flatMap fun i => listEntryFields list[i]?

/-- The frame numbers of the table of references; an absent row counts as zero. -/
def frameNumberFields (picture : Picture) : List (Word × Nat) :=
  picture.references.toList.map fun frame =>
    (if frame.present then BitVec.ofNat 64 frame.frameNumber else 0, 16)

/-- The serialised reference lists. -/
def referenceLists (coded : CodedPicture) : Bytes :=
  let writer := (Writer.ofWords (Array.replicate (listBytes / 8) 0)).putAll
    (frameNumberFields coded.picture ++ listFields coded.lists.list0 ++
      listFields coded.lists.list1)
  Bytes.spread (writer.align 128 0).words (Bytes.zeros listBytes)

@[simp] theorem size_referenceLists (coded : CodedPicture) :
    (referenceLists coded).size = listBytes := by
  simp [referenceLists]

end Blob

theorem ParameterCache.size_entry (cache : ParameterCache) :
    cache.entry.size = parameterEntryBytes := by
  simp [ParameterCache.entry]

end VideoAccel
