import VideoAccel.Bytes

/-!
A writer that packs fields of any width into 64-bit words.

The first bit written is the most significant bit of the first word. The capacity is fixed when
the writer opens; what does not fit is dropped and remembered in `truncated`. A writer can move
back and go on from there: the bits before the new position stay, those after it are zero.
`Writer.toBits` reads the words up to the capacity as one string of bits.
-/

namespace VideoAccel

/-- The `count` lowest bits set, `count` being at most 64. -/
def Word.lowMask (count : Nat) : Word :=
  BitVec.allOnes 64 >>> (64 - count)

/-- The bits of a word, most significant first. -/
def Word.toBits (word : Word) : List Bool :=
  (List.range 64).map word.getMsbD

structure Writer where
  words : Array Word
  /-- How many of the words may be written. -/
  capacity : Nat
  /-- The number of bits before the write position. -/
  position : Nat
  /-- Whether some bit was dropped for lack of room. -/
  truncated : Bool
deriving DecidableEq, Repr

namespace Writer

/-- Zeroes everything up to the capacity and returns to the start. -/
def reset (writer : Writer) : Writer :=
  { writer with
    words := writer.words.mapIdx fun i word => if i < writer.capacity then 0 else word
    position := 0
    truncated := false }

/-- Moves to `position`: keeps the bits before it and zeroes the rest. From the end of the
capacity on there is nothing to zero, and the writer stands at that end. -/
def seek (writer : Writer) (position : Nat) : Writer :=
  let index := position / 64
  if writer.capacity ≤ index then
    { writer with position := 64 * writer.capacity }
  else
    let kept := ~~~ Word.lowMask (64 - position % 64)
    { writer with
      words := writer.words.mapIdx fun i word =>
        if i < index then word
        else if i = index then word &&& kept
        else if i < writer.capacity then 0
        else word
      position := position }

/-- Opens a writer on zeroed words, of which at most `capacity` may be written. -/
def withCapacity (words : Array Word) (capacity : Nat) : Writer :=
  reset ⟨words, min capacity words.size, 0, false⟩

/-- Opens a writer on zeroed words, all of which may be written. -/
def ofWords (words : Array Word) : Writer :=
  withCapacity words words.size

/-- Opens a writer that goes on behind the first `position` bits of what `words` hold. -/
def resume (words : Array Word) (position : Nat) : Writer :=
  seek ⟨words, words.size, 0, false⟩ position

/-- How many words were touched, the one that is only partly filled included. -/
def wordsUsed (writer : Writer) : Nat :=
  min ((writer.position + 63) / 64) writer.capacity

/-- Appends the low `width` bits of `value`, at most 64, most significant first. What does not
fit behind the last word is dropped. -/
def put (writer : Writer) (value : Word) (width : Nat) : Writer :=
  let width := min width 64
  if width = 0 then writer
  else
    let index := writer.position / 64
    if writer.capacity ≤ index then { writer with truncated := true }
    else
      let value := value &&& Word.lowMask width
      let room := 64 - writer.position % 64
      if width < room then
        { writer with
          words := writer.words.modify index (· ||| value <<< (room - width))
          position := writer.position + width }
      else
        let rest := width - room
        let words := writer.words.modify index (· ||| value >>> rest)
        if rest = 0 then
          { writer with words, position := writer.position + room }
        else if writer.capacity ≤ index + 1 then
          { writer with words, position := writer.position + room, truncated := true }
        else
          { writer with
            words := words.modify (index + 1) (· ||| value <<< (64 - rest))
            position := writer.position + width }

/-- Appends fields in order, each a value with its width. -/
def putAll (writer : Writer) (fields : List (Word × Nat)) : Writer :=
  fields.foldl (fun writer field => writer.put field.1 field.2) writer

/-- Appends `count` bits of a constant pattern, a word at a time, and stops after the first
word that finds the writer truncated. -/
def pad (writer : Writer) (count : Nat) (pattern : Word) : Writer :=
  if count = 0 then writer
  else
    let chunk := min count 64
    let padded := writer.put pattern chunk
    if padded.truncated then padded else padded.pad (count - chunk) pattern
termination_by count

/-- Fills up with copies of the lowest bit of `fill` to a multiple of `unit` bits. A unit of
zero asks for nothing. -/
def align (writer : Writer) (unit fill : Nat) : Writer :=
  if unit = 0 then writer
  else
    let missing := (unit - writer.position % unit) % unit
    writer.pad missing (if fill % 2 = 1 then BitVec.allOnes 64 else 0)

/-- The words up to the capacity as one string of bits, most significant first. -/
def toBits (writer : Writer) : List Bool :=
  (writer.words.toList.take writer.capacity).flatMap Word.toBits

end Writer

end VideoAccel
