import FieldSchema.Cache.Basic
import FieldSchema.Number.Reading
import FieldSchema.Text.Casing

/-!
# Settings

The bounds of the default cache and the logging are set by environment variables, whose names are
matched in any letter case.  Every setting has a default; texts that do not state a value of its
kind are reported together.  They are read by pydantic-settings: which texts state a value, that the
last variable of a name counts and in which order faults are reported is assumed of it.

* `Settings.read`: the settings of an environment.
* `Settings.cacheLimits`: the bounds of the default cache.
-/

namespace FieldSchema

/-- The settings of a process. -/
structure Settings where
  /-- The greatest number of entries of the default cache. -/
  cacheSize : Int := 512
  /-- How long the entries of the default cache live, none when they live for ever. -/
  cacheLifetime : Option Binary64 := none
  logLevel : String := "INFO"
  /-- Whether logs are written in JSON. -/
  logJson : Bool := false
  deriving DecidableEq, Repr, Inhabited

/-- A setting whose text states no value of its kind. -/
structure SettingFault where
  setting : String
  /-- The name of the kind of failure. -/
  kind : String
  text : String
  deriving DecidableEq, Repr, Inhabited

/-- The variables of a process with their texts; the last one of a name counts. -/
abbrev Environment := List (String × String)

namespace Environment

/-- What the names of all variables start with, in lower case. -/
def nameStart : String := "dualschema_"

/-- The text of a setting. -/
def text? (environment : Environment) (setting : String) : Option String :=
  (environment.reverse.find? fun entry =>
    Text.lowercase entry.1 == nameStart ++ Text.lowercase setting).map (·.2)

end Environment

namespace Settings

/-- The truth value that a text states. -/
def readTruth? (text : String) : Option Bool :=
  let name := String.ofList (text.toList.map Binary64.lowerAscii)
  if ["1", "on", "t", "true", "y", "yes"].contains name then some true
  else if ["0", "off", "f", "false", "n", "no"].contains name then some false
  else none

/-- A setting: its default, the value that its text states, or what is wrong with the text. -/
def readSetting {α : Type} (environment : Environment) (setting kind : String) (default : α)
    (read? : String → Option α) : Except SettingFault α :=
  match environment.text? setting with
  | none => .ok default
  | some text =>
    match read? text with
    | some a => .ok a
    | none => .error ⟨setting, kind, text⟩

/-- The fault of a setting, if it has one. -/
def fault? {α : Type} : Except SettingFault α → Option SettingFault
  | .ok _ => none
  | .error fault => some fault

/-- The settings of an environment, or all faults in the order of the settings. -/
def read (environment : Environment) : Except (List SettingFault) Settings :=
  let size := readSetting environment "SCHEMA_CACHE_MAX_SIZE" "int_parsing" 512 Number.readInt?
  let lifetime := readSetting environment "SCHEMA_CACHE_TTL_SECONDS" "float_parsing" none
    fun text => (Binary64.read? text).map some
  let level := (environment.text? "LOG_LEVEL").getD "INFO"
  let json := readSetting environment "LOG_JSON" "bool_parsing" false readTruth?
  match size, lifetime, json with
  | .ok size, .ok lifetime, .ok json => .ok ⟨size, lifetime, level, json⟩
  | size, lifetime, json =>
    .error ((fault? size).toList ++ (fault? lifetime).toList ++ (fault? json).toList)

/-- The lifetime as a value. -/
def lifetimeValue (settings : Settings) : Value :=
  match settings.cacheLifetime with
  | some x => .float x
  | none => .null

/-- The bounds of the default cache. -/
def cacheLimits (settings : Settings) : Except Raised CacheLimits :=
  CacheLimits.read (.int settings.cacheSize) settings.lifetimeValue

@[simp] theorem read_nil : read [] = .ok {} := rfl

end Settings

end FieldSchema
