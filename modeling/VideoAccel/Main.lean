import VideoAccel.CommandLine.Run

/-!
The trial run as a program.
-/

open VideoAccel.CommandLine

/-- Reads the settings file that the options name. -/
def settingsText (options : Options) : IO (Except String String) := do
  match options.config with
  | none => return .error "no file"
  | some path =>
      try
        return .ok (← IO.FS.readFile path)
      catch error =>
        return .error (toString error)

def usage : String :=
  s!"Usage: {programName} [OPTIONS]"

def main (arguments : List String) : IO UInt32 := do
  match Options.ofArguments arguments with
  | .error .version =>
      IO.println s!"{programName} {version}"
      return 0
  | .error .help =>
      IO.println usage
      return 0
  | .error .rejected =>
      IO.eprintln usage
      return 2
  | .ok options =>
      let outcome := execute options (← settingsText options)
      for line in outcome.lines do
        IO.println line
      match outcome.errorLine? with
      | some line => IO.eprintln line
      | none => pure ()
      return outcome.exitCode.toUInt32
