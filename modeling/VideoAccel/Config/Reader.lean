import VideoAccel.Config
import VideoAccel.Json.Reader

/-!
Reading settings from JSON.

Settings are written as an object, in which unknown members are ignored and no setting may stand
twice, or as an array of at most five values in the order of `SettingName.all`. A setting that is
not written keeps its default.
-/

namespace VideoAccel

inductive SettingName where
  | fastMode | pipelineDepth | concealErrors | watchdogCycles | gateClocks
deriving DecidableEq, Repr

namespace SettingName

/-- The settings in the order in which an array gives them. -/
def all : List SettingName :=
  [fastMode, pipelineDepth, concealErrors, watchdogCycles, gateClocks]

def ofKey? : String → Option SettingName
  | "fast_mode" => some fastMode
  | "pipeline_depth" => some pipelineDepth
  | "error_conceal" => some concealErrors
  | "watchdog_cycles" => some watchdogCycles
  | "clock_gating" => some gateClocks
  | _ => none

/-- Reads one setting. The depth may need 64 bits, the watchdog's limit 32. -/
def read (setting : SettingName) (value : Json) (config : Config) : Option Config :=
  match setting with
  | fastMode => value.bool?.map fun fastMode => { config with fastMode }
  | pipelineDepth => value.word64?.map fun pipelineDepth => { config with pipelineDepth }
  | concealErrors => value.bool?.map fun concealErrors => { config with concealErrors }
  | watchdogCycles => value.word32?.map fun watchdogCycles => { config with watchdogCycles }
  | gateClocks => value.bool?.map fun gateClocks => { config with gateClocks }

end SettingName

namespace Config

/-- Reads the members of an object; `seen` are the settings that were already written. -/
def ofMembers? (config : Config) (seen : List SettingName) :
    List (Option String × Json) → Option Config
  | [] => some config
  | (none, _) :: _ => none
  | (some key, value) :: rest =>
      match SettingName.ofKey? key with
      | none => ofMembers? config seen rest
      | some setting =>
          if setting ∈ seen then none
          else do
            let config ← setting.read value config
            ofMembers? config (setting :: seen) rest

/-- Reads the items of an array as the settings of the given names. -/
def ofItems? (config : Config) : List SettingName → List Json → Option Config
  | _, [] => some config
  | [], _ :: _ => none
  | setting :: settings, value :: rest => do
      let config ← setting.read value config
      ofItems? config settings rest

def ofJson? : Json → Option Config
  | .object members => ofMembers? {} [] members
  | .array items => ofItems? {} SettingName.all items
  | _ => none

/-- Reads settings from text. -/
def ofText? (text : String) : Option Config :=
  (Json.ofText? text).bind ofJson?

end Config

end VideoAccel
