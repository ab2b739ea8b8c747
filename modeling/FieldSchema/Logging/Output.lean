import FieldSchema.LogEvent
import FieldSchema.Logging.Redaction
import FieldSchema.Logging.Template
import FieldSchema.Settings
import FieldSchema.Text.Decoding

/-!
# Log output

Logging is configured once, by arguments or else by settings.  A call of a logger is shown when
its level reaches the one of the logger; the record that is shown names the level, the logger and
the service, and holds no secrets.  A record whose keys have no form in JSON cannot be written.

Records go through structlog and the logging of the runtime.  That these fill templates, add the
parts of a record in this order and write one line for it is assumed of them.

* `LogConfig.make`: the configuration.
* `LogCall.isShown`: whether a call is shown.
* `LogCall.content`, `LogCall.record?`: what is known about a call, and its record in JSON.
* `LogOutput.ofCalls`: what calls leave.
-/

namespace FieldSchema

/-! ## Levels -/

namespace LogLevel

/-- How much a level matters. -/
def rank : LogLevel → Nat
  | .debug => 10
  | .info => 20
  | .warning => 30
  | .error => 40
  | .critical => 50

/-- The name of a level in a configuration. -/
def configName : LogLevel → String
  | .debug => "DEBUG"
  | .info => "INFO"
  | .warning => "WARNING"
  | .error => "ERROR"
  | .critical => "CRITICAL"

/-- The level of a method of loggers. -/
def ofMethod? (method : String) : Option LogLevel :=
  if method == "debug" then some .debug
  else if method == "info" then some .info
  else if method == "warning" || method == "warn" then some .warning
  else if method == "error" || method == "exception" then some .error
  else if method == "critical" || method == "fatal" then some .critical
  else none

end LogLevel

/-- The level that calls have to reach. -/
inductive Threshold where
  | everything
  | level (level : LogLevel)
  deriving DecidableEq, Repr, Inhabited

namespace Threshold

/-- The name of a threshold. -/
def name : Threshold → String
  | .everything => "NOTSET"
  | .level least => least.configName

/-- How much a call has to matter. -/
def rank : Threshold → Nat
  | .everything => 0
  | .level least => least.rank

/-- The layout of lines that are not configured, which has a name like those of levels. -/
def basicLayout : String := "%(levelname)s:%(name)s:%(message)s"

/-- The threshold of a name in capital letters; other names stand for information.  Two names are
taken by things that are no levels. -/
def ofName (name : String) : Except Raised Threshold :=
  if name == "NOTSET" then .ok .everything
  else if name == "DEBUG" then .ok (.level .debug)
  else if name == "WARNING" || name == "WARN" then .ok (.level .warning)
  else if name == "ERROR" then .ok (.level .error)
  else if name == "CRITICAL" || name == "FATAL" then .ok (.level .critical)
  else if name == "BASIC_FORMAT" then .error (.badValue ("Unknown level: '" ++ basicLayout ++ "'"))
  else if name == "_STYLES" then .error .wrongType
  else .ok (.level .info)

end Threshold

/-! ## Configuration -/

/-- How logs are written. -/
structure LogConfig where
  threshold : Threshold
  json : Bool
  deriving DecidableEq, Repr, Inhabited

namespace LogConfig

/-- A text in capital letters. -/
def capitals (text : String) : String :=
  String.ofList (text.toList.map fun c => Char.ofNat (Text.toUpper c.toNat))

/-- The configuration by arguments, or by settings where an argument is left out or empty. -/
def make (settings : Settings) (level : Option String) (json : Option Bool) :
    Except Raised LogConfig := do
  let stated := (level.filter fun name => !name.isEmpty).getD settings.logLevel
  pure ⟨← Threshold.ofName (capitals stated), json.getD settings.logJson⟩

/-- The threshold of the loggers of the database driver, which say more than others want. -/
def driverThreshold : Threshold := .level .warning

/-- Whether a logger belongs to the database driver. -/
def isDriver (logger : String) : Bool :=
  logger == "pymongo" || "pymongo.".toList.isPrefixOf logger.toList

/-- The threshold of a logger. -/
def thresholdOf (config : LogConfig) (logger : String) : Threshold :=
  if isDriver logger then driverThreshold else config.threshold

end LogConfig

/-! ## Records -/

/-- A call of a logger. -/
structure LogCall where
  logger : String
  level : LogLevel
  event : String
  arguments : List Value := []
  fields : Entries := []
  deriving Inhabited

namespace LogCall

/-- Whether a call is shown. -/
def isShown (config : LogConfig) (call : LogCall) : Bool :=
  (config.thresholdOf call.logger).rank ≤ call.level.rank

/-- The name of the logger; the one without a name is the root. -/
def shownLogger (call : LogCall) : String :=
  if call.logger.isEmpty then "root" else call.logger

/-- Entries with a value for a key that has none. -/
def withDefault (key : String) (v : Value) (entries : Entries) : Entries :=
  if (Entries.getText? entries key).isSome then entries else Entries.insert entries (.text key) v

/-- An event with the name and the version of the service, unless it has its own. -/
def withService (entries : Entries) : Entries :=
  withDefault "version" (.text "0.1.0") (withDefault "service" (.text "dualschema") entries)

/-- Entries with the values of top-level bytes as text. -/
def withDecodedBytes (entries : Entries) : Entries :=
  entries.map fun entry =>
    match entry.2 with
    | .bytes data => (entry.1, .text (Text.shownBytes data))
    | _ => entry

/-- Names that a call has for itself, so that no field can have them. -/
def reservedNames : List String := ["event", "self", "method_name"]

/-- Whether a key can name a field of a call. -/
def isFieldName (key : Value) : Bool :=
  key.asText?.any fun name => !reservedNames.contains name

/-- Names of fields that only steer the output, so that no record has them. -/
def steeringNames : List String :=
  ["exc_info", "stack_info", "positional_args", "timestamp", "_record", "_from_structlog"]

/-- Entries without those that steer the output. -/
def withoutSteering (entries : Entries) : Entries :=
  entries.filter fun entry => !(entry.1.asText?.any fun name => steeringNames.contains name)

/-- Everything that is known about a call, without secrets. -/
def content (call : LogCall) : Except Raised Entries := do
  if !call.fields.all fun entry => isFieldName entry.1 then throw .wrongType
  let event ← Template.fill call.event call.arguments
  let entries := Entries.insert (withoutSteering call.fields) (.text "event") (.text event)
  let entries := Entries.insert entries (.text "level") (.text call.level.name)
  let entries := Entries.insert entries (.text "logger") (.text call.shownLogger)
  match Redaction.ofEvent (.map (withService (withDecodedBytes entries))) with
  | .map entries => pure entries
  | _ => pure []

/-! ## JSON -/

/-- The name of a key in a record, if it has one. -/
def jsonName? : Value → Option String
  | .null => some "null"
  | .bool b => some (if b then "true" else "false")
  | .int n => some (toString n)
  | .float .notANumber => some "NaN"
  | .float (.infinite negative) => some (if negative then "-Infinity" else "Infinity")
  | .float x => some x.toText
  | v => v.asText?

mutual

/-- A value in a record: what JSON does not know is shown written, and what holds itself cannot be
written. -/
def jsonForm? : Value → Option Value
  | .null => some .null
  | .bool b => some (.bool b)
  | .int n => some (.int n)
  | .float x => some (.float x)
  | .text s => some (.text s)
  | .canonical t => some (.text t.label)
  | .list items => (jsonItems? items).map .list
  | .tuple items => (jsonItems? items).map .list
  | .map entries => (jsonEntries? entries).map fun entries => .map (Entries.ofPairs entries)
  | .enclosing _ _ => none
  | v => some (.text v.written)

/-- The items of a sequence in a record. -/
def jsonItems? : List Value → Option (List Value)
  | [] => some []
  | v :: rest =>
    match jsonForm? v, jsonItems? rest with
    | some form, some forms => some (form :: forms)
    | _, _ => none

/-- The entries of a mapping in a record. -/
def jsonEntries? : List (Value × Value) → Option (List (Value × Value))
  | [] => some []
  | (k, v) :: rest =>
    match jsonName? k, jsonForm? v, jsonEntries? rest with
    | some name, some form, some forms => some ((.text name, form) :: forms)
    | _, _, _ => none

end

/-- The record of what is known about a call, if it can be written. -/
def record? (content : Entries) : Option Entries := (jsonEntries? content).map Entries.ofPairs

/-- The number of lines that show what is known about a call in words: one, and one more for every
break in the name of the event. -/
def lineCount (content : Entries) : Nat :=
  ((content.getText "event").asText?.map fun event => event.toList.count '\n').getD 0 + 1

end LogCall

/-! ## Output -/

/-- What calls of loggers leave. -/
structure LogOutput where
  /-- The number of lines. -/
  lines : Nat
  /-- The records in JSON, if that is how they are written. -/
  records : List Entries
  deriving Inhabited

namespace LogOutput

/-- What calls leave under a configuration. -/
def ofCalls (config : LogConfig) (calls : List LogCall) : Except Raised LogOutput := do
  let contents ← calls.mapM LogCall.content
  let shown := ((calls.zip contents).filter fun call => call.1.isShown config).map (·.2)
  if config.json then
    let records := shown.filterMap LogCall.record?
    pure ⟨records.length, records⟩
  else pure ⟨shown.foldl (fun lines entries => lines + LogCall.lineCount entries) 0, []⟩

end LogOutput

end FieldSchema
