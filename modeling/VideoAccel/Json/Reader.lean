import VideoAccel.Json.Value
import VideoAccel.Numeral

/-!
Reading JSON text.

The reader accepts exactly the JSON grammar: blanks are space, tab, line feed and carriage
return; a number has no leading zeros; control characters do not stand in strings. Every step
takes characters from the front of the text and answers with the rest. `value` descends into
arrays and objects with a bound on the remaining steps; `Json.ofText?` gives it one step for
every character and one more, which no text can use up.
-/

namespace VideoAccel.Json

namespace Reader

/-- The text without the blanks at its front. -/
def skipBlanks : List Char → List Char
  | c :: rest => if c = ' ' ∨ c = '\t' ∨ c = '\n' ∨ c = '\r' then skipBlanks rest else c :: rest
  | [] => []

/-- The text behind a word it starts with. -/
def dropWord : List Char → List Char → Option (List Char)
  | [], text => some text
  | _ :: _, [] => none
  | w :: word, c :: text => if w = c then dropWord word text else none

/-- The digits at the front, and the text behind them. -/
def digits : List Char → List Char × List Char
  | c :: rest =>
      if c.isDigit then
        let (more, rest) := digits rest
        (c :: more, rest)
      else ([], c :: rest)
  | [] => ([], [])

/-- The number that a run of digits writes. -/
def wholeOf (text : List Char) : Nat :=
  text.foldl (fun value c => value * 10 + (c.toNat - '0'.toNat)) 0

/-- Skips a fraction, if there is one. Answers whether there was. -/
def fraction : List Char → Option (Bool × List Char)
  | '.' :: rest =>
      match digits rest with
      | ([], _) => none
      | (_ :: _, rest) => some (true, rest)
  | text => some (false, text)

/-- Skips an exponent, if there is one. Answers whether there was. -/
def exponent (text : List Char) : Option (Bool × List Char) :=
  match text with
  | c :: rest =>
      if c = 'e' ∨ c = 'E' then
        let unsigned := match rest with
          | '+' :: rest => rest
          | '-' :: rest => rest
          | rest => rest
        match digits unsigned with
        | ([], _) => none
        | (_ :: _, rest) => some (true, rest)
      else some (false, text)
  | [] => some (false, [])

/-- Reads a number. -/
def number (text : List Char) : Option (Json × List Char) :=
  let (negative, unsigned) := match text with
    | '-' :: rest => (true, rest)
    | rest => (false, rest)
  match digits unsigned with
  | ([], _) => none
  | (first :: more, rest) =>
      if first = '0' ∧ more ≠ [] then none
      else do
        let (fractional, rest) ← fraction rest
        let (scaled, rest) ← exponent rest
        return (.number negative (wholeOf (first :: more)) (!fractional && !scaled), rest)

/-- Reads the four digits of a numbered escape. -/
def hex4 : List Char → Option (Nat × List Char)
  | a :: b :: c :: d :: rest => do
      let high := (← Numeral.hexDigit? a) * 16 + (← Numeral.hexDigit? b)
      let low := (← Numeral.hexDigit? c) * 16 + (← Numeral.hexDigit? d)
      return (high * 256 + low, rest)
  | _ => none

/-- The character an escape of one letter stands for. -/
def shortEscape : Char → Option Char
  | '"' => some '"'
  | '\\' => some '\\'
  | '/' => some '/'
  | 'b' => some '\x08'
  | 'f' => some '\x0c'
  | 'n' => some '\n'
  | 'r' => some '\r'
  | 't' => some '\t'
  | _ => none

/-- Reads the 16-bit units of a string up to its closing quote. A character outside the units'
range stands for itself as a whole. -/
def units : Nat → List Char → Option (List (Char ⊕ Nat) × List Char)
  | 0, _ => none
  | _, [] => none
  | _, '"' :: rest => some ([], rest)
  | steps + 1, '\\' :: 'u' :: rest => do
      let (unit, rest) ← hex4 rest
      let (more, rest) ← units steps rest
      return (.inr unit :: more, rest)
  | steps + 1, '\\' :: c :: rest => do
      let meant ← shortEscape c
      let (more, rest) ← units steps rest
      return (.inl meant :: more, rest)
  | steps + 1, c :: rest =>
      if c.toNat < 0x20 ∨ c = '\\' then none
      else do
        let (more, rest) ← units steps rest
        return (.inl c :: more, rest)

def isHighSurrogate (unit : Nat) : Bool :=
  0xd800 ≤ unit && unit < 0xdc00

def isLowSurrogate (unit : Nat) : Bool :=
  0xdc00 ≤ unit && unit < 0xe000

/-- The characters that the units of a string spell. Numbered escapes may spell one character as
a pair of surrogates; a surrogate on its own spells none. -/
def spell : List (Char ⊕ Nat) → Option (List Char)
  | [] => some []
  | .inl c :: rest => (spell rest).map (c :: ·)
  | .inr high :: .inr low :: rest =>
      if isHighSurrogate high then
        if isLowSurrogate low then
          (spell rest).map
            (Char.ofNat (0x10000 + (high - 0xd800) * 0x400 + (low - 0xdc00)) :: ·)
        else none
      else if isLowSurrogate high then none
      else (spell (.inr low :: rest)).map (Char.ofNat high :: ·)
  | .inr unit :: rest =>
      if isHighSurrogate unit || isLowSurrogate unit then none
      else (spell rest).map (Char.ofNat unit :: ·)

/-- Reads a string behind its opening quote. -/
def string (text : List Char) : Option (Option String × List Char) := do
  let (found, rest) ← units (text.length + 1) text
  return ((spell found).map String.ofList, rest)

mutual

/-- Reads a value. -/
def value : Nat → List Char → Option (Json × List Char)
  | 0, _ => none
  | steps + 1, text =>
      match skipBlanks text with
      | '"' :: rest => (string rest).map fun (text, rest) => (.string text, rest)
      | '[' :: rest =>
          match skipBlanks rest with
          | ']' :: rest => some (.array [], rest)
          | rest => (items steps rest).map fun (items, rest) => (.array items, rest)
      | '\x7b' :: rest =>
          match skipBlanks rest with
          | '\x7d' :: rest => some (.object [], rest)
          | rest => (members steps rest).map fun (members, rest) => (.object members, rest)
      | 'n' :: rest => (dropWord ['u', 'l', 'l'] rest).map fun rest => (.null, rest)
      | 't' :: rest => (dropWord ['r', 'u', 'e'] rest).map fun rest => (.bool true, rest)
      | 'f' :: rest => (dropWord ['a', 'l', 's', 'e'] rest).map fun rest => (.bool false, rest)
      | text => number text

/-- Reads the items of an array up to its closing bracket. -/
def items : Nat → List Char → Option (List Json × List Char)
  | 0, _ => none
  | steps + 1, text => do
      let (item, rest) ← value steps text
      match skipBlanks rest with
      | ',' :: rest =>
          let (more, rest) ← items steps rest
          return (item :: more, rest)
      | ']' :: rest => return ([item], rest)
      | _ => none

/-- Reads the members of an object up to its closing brace. -/
def members : Nat → List Char → Option (List (Option String × Json) × List Char)
  | 0, _ => none
  | steps + 1, text =>
      match skipBlanks text with
      | '"' :: rest => do
          let (key, rest) ← string rest
          match skipBlanks rest with
          | ':' :: rest =>
              let (item, rest) ← value steps rest
              match skipBlanks rest with
              | ',' :: rest =>
                  let (more, rest) ← members steps rest
                  return ((key, item) :: more, rest)
              | '\x7d' :: rest => return ([(key, item)], rest)
              | _ => none
          | _ => none
      | _ => none

end

end Reader

/-- The value that a text writes; nothing but blanks may follow it. -/
def ofText? (text : String) : Option Json :=
  let chars := text.toList
  match Reader.value (chars.length + 1) chars with
  | some (value, rest) => if Reader.skipBlanks rest = [] then some value else none
  | none => none

end VideoAccel.Json
