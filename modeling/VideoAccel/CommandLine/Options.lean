import VideoAccel.Numeral

/-!
The command line of the trial run.

Arguments are read from left to right, and the first one that cannot be accepted, or that asks
for the version or for help, ends the reading. A setting takes its value from the same argument,
behind an equals sign or, for a short name, at once, or else from the next argument, which then
must not look like an option. Settings with one value may be given once, as may switches;
`-v` counts, and the lists of failing frames grow with every mention.
-/

namespace VideoAccel.CommandLine

/-- What the command line asks for. -/
structure Options where
  codec : String := "h264"
  frames : Nat := 8
  width : Nat := 1920
  height : Nat := 1080
  fields : Bool := false
  compressed : Bool := false
  /-- Takes the place of the configured pipeline depth. -/
  depth : Option Nat := none
  noFast : Bool := false
  /-- The file with the decoder's settings. -/
  config : Option String := none
  /-- Frames whose stream is damaged. -/
  parseErrors : List Nat := []
  /-- Frames on which the hardware fails. -/
  hardwareErrors : List Nat := []
  dumpRegisters : Bool := false
  json : Bool := false
  list : Bool := false
  verbosity : Nat := 0
deriving DecidableEq, Repr

inductive OptionName where
  | codec | frames | width | height | fields | compressed | depth | noFast | config
  | parseErrors | hardwareErrors | dumpRegisters | json | list | verbose | version | help
deriving DecidableEq, Repr

namespace OptionName

/-- The option of a long name, written behind two dashes. -/
def ofLong? : String → Option OptionName
  | "codec" => some codec
  | "frames" => some frames
  | "width" => some width
  | "height" => some height
  | "field" => some fields
  | "fbc" => some compressed
  | "depth" => some depth
  | "no-fast" => some noFast
  | "config" => some config
  | "parse-error" => some parseErrors
  | "hw-error" => some hardwareErrors
  | "dump-regs" => some dumpRegisters
  | "json" => some json
  | "list" => some list
  | "verbose" => some verbose
  | "version" => some version
  | "help" => some help
  | _ => none

/-- The option of a short name, written behind one dash. -/
def ofShort? : Char → Option OptionName
  | 'n' => some frames
  | 'v' => some verbose
  | 'V' => some version
  | 'h' => some help
  | _ => none

def takesValue : OptionName → Bool
  | codec | frames | width | height | depth | config | parseErrors | hardwareErrors => true
  | _ => false

/-- Whether the option may be given more than once. -/
def repeats : OptionName → Bool
  | parseErrors | hardwareErrors | verbose => true
  | _ => false

end OptionName

/-- Why reading ended before the last argument. -/
inductive Stop where
  | version
  | help
  /-- An argument cannot be accepted. -/
  | rejected
deriving DecidableEq, Repr

/-! ### Values -/

/-- A number of decimal digits, below `bound`. A plus sign may stand before it. -/
def natural? (bound : Nat) (text : String) : Option Nat :=
  let digits := match text.toList with
    | '+' :: rest => rest
    | chars => chars
  if digits ≠ [] ∧ digits.all Char.isDigit then
    let value := digits.foldl (fun value c => value * 10 + (c.toNat - '0'.toNat)) 0
    if value < bound then some value else none
  else none

/-- A number as `natural?` reads it, or zero behind a minus sign. -/
def signed? (bound : Nat) (text : String) : Option Nat :=
  match text.toList with
  | '-' :: rest =>
      if rest ≠ [] ∧ rest.all (· == '0') then some 0 else none
  | _ => natural? bound text

/-- Numbers separated by commas. -/
def naturals? (bound : Nat) (text : String) : Option (List Nat) :=
  (text.splitOn ",").mapM (natural? bound)

/-! ### Arguments -/

/-- What was read so far. -/
structure Progress where
  options : Options := {}
  /-- The options that were given. -/
  given : List OptionName := []
  /-- An option that waits for its value. -/
  pending : Option OptionName := none
  /-- Only plain arguments may follow. -/
  plainOnly : Bool := false
deriving DecidableEq, Repr

namespace Progress

/-- Notes that an option was given; one that must not be repeated is rejected. -/
def mention (progress : Progress) (option : OptionName) : Except Stop Progress :=
  if option ∈ progress.given ∧ !option.repeats then .error .rejected
  else .ok { progress with given := option :: progress.given }

/-- Stores the value of an option. -/
def store (progress : Progress) (option : OptionName) (value : String) : Except Stop Progress := do
  let progress ← progress.mention option
  let options := progress.options
  let changed : Option Options :=
    match option with
    | .codec => some { options with codec := value }
    | .frames => (natural? Numeral.bound64 value).map fun frames => { options with frames }
    | .width => (signed? Numeral.bound32 value).map fun width => { options with width }
    | .height => (signed? Numeral.bound32 value).map fun height => { options with height }
    | .depth => (natural? Numeral.bound64 value).map fun depth =>
        { options with depth := some depth }
    | .config => if value.isEmpty then none else some { options with config := some value }
    | .parseErrors => (naturals? Numeral.bound64 value).map fun frames =>
        { options with parseErrors := options.parseErrors ++ frames }
    | .hardwareErrors => (naturals? Numeral.bound64 value).map fun frames =>
        { options with hardwareErrors := options.hardwareErrors ++ frames }
    | _ => none
  match changed with
  | some options => .ok { progress with options }
  | none => .error .rejected

/-- Sets a switch. -/
def switch (progress : Progress) (option : OptionName) : Except Stop Progress := do
  let progress ← progress.mention option
  let options := progress.options
  match option with
  | .fields => .ok { progress with options := { options with fields := true } }
  | .compressed => .ok { progress with options := { options with compressed := true } }
  | .noFast => .ok { progress with options := { options with noFast := true } }
  | .dumpRegisters => .ok { progress with options := { options with dumpRegisters := true } }
  | .json => .ok { progress with options := { options with json := true } }
  | .list => .ok { progress with options := { options with list := true } }
  | .verbose =>
      .ok { progress with options := { options with verbosity := options.verbosity + 1 } }
  | .version => .error .version
  | .help => .error .help
  | _ => .error .rejected

/-- Reads a long option: its name, and its value if one is attached. -/
def long (progress : Progress) (name : String) (attached : Option String) :
    Except Stop Progress :=
  match OptionName.ofLong? name, attached with
  | none, _ => .error .rejected
  | some option, some value =>
      if option.takesValue then progress.store option value else .error .rejected
  | some option, none =>
      if option.takesValue then .ok { progress with pending := some option }
      else progress.switch option

/-- Reads short options written in one argument. The first that takes a value takes the rest of
the argument, less an equals sign. -/
def short (progress : Progress) : List Char → Except Stop Progress
  | [] => .ok progress
  | c :: rest =>
      match OptionName.ofShort? c with
      | none => .error .rejected
      | some option =>
          if option.takesValue then
            match rest with
            | [] => .ok { progress with pending := some option }
            | '=' :: value => progress.store option (String.ofList value)
            | value => progress.store option (String.ofList value)
          else do
            let progress ← progress.switch option
            progress.short rest

/-- The name of a long option and its attached value, split at the first equals sign. -/
def splitLong (text : List Char) : String × Option String :=
  let name := text.takeWhile (· ≠ '=')
  match text.dropWhile (· ≠ '=') with
  | [] => (String.ofList name, none)
  | _ :: value => (String.ofList name, some (String.ofList value))

/-- Reads one argument. -/
def argument (progress : Progress) (text : String) : Except Stop Progress :=
  let plain : Except Stop Progress :=
    match progress.pending with
    | some option => { progress with pending := none }.store option text
    | none => .error .rejected
  if progress.plainOnly then .error .rejected
  else
    match text.toList with
    | ['-', '-'] =>
        if progress.pending.isSome then .error .rejected
        else .ok { progress with plainOnly := true }
    | '-' :: '-' :: rest =>
        if progress.pending.isSome then .error .rejected
        else
          let (name, attached) := splitLong rest
          progress.long name attached
    | '-' :: c :: rest =>
        if progress.pending.isSome then .error .rejected else progress.short (c :: rest)
    | _ => plain

end Progress

namespace Options

/-- Reads the arguments of the command line. -/
def ofArguments (arguments : List String) : Except Stop Options := do
  let progress ← arguments.foldlM Progress.argument {}
  match progress.pending with
  | some _ => .error .rejected
  | none => .ok progress.options

end Options

end VideoAccel.CommandLine
