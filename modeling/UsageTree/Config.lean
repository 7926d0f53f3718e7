import UsageTree.Json
import UsageTree.Numeral
import UsageTree.Sorting
import UsageTree.Text.Normalization

/-!
# Configuration

Four fields configure the service. Each has a default; a value that is given may be of any kind and
is read as what the field needs, or refused.

## Main definitions

* `LogLevel` — how much is logged.
* `Config` — the configuration, and `Config.originList`, the origins it names.
* `Config.ofFields` — the configuration of given values, or what is wrong with each.
* `Origin.allowed?` — the origin that may read an answer.
-/

namespace UsageTree

/-! ## Log levels -/

/-- How much is logged, the least first. -/
inductive LogLevel where
  | critical
  | error
  | warning
  | info
  | debug
  deriving Repr, DecidableEq

namespace LogLevel

def all : List LogLevel := [critical, error, warning, info, debug]

def name : LogLevel → String
  | critical => "CRITICAL"
  | error => "ERROR"
  | warning => "WARNING"
  | info => "INFO"
  | debug => "DEBUG"

/-- The weight from which on messages are logged. -/
def weight : LogLevel → Nat
  | critical => 50
  | error => 40
  | warning => 30
  | info => 20
  | debug => 10

/-- The level of a name in letters of any case, with blanks around it. -/
def ofText? (text : Text) : Option LogLevel :=
  let name := Text.capitals (Text.trim Text.isBlank text)
  all.find? fun level => Text.ofString level.name == name

end LogLevel

/-! ## Fields -/

/-- The configuration of the service. -/
structure Config where
  logLevel : LogLevel
  /-- The largest number of records in a request. -/
  maxRecords : Int
  /-- The largest number of pieces in a path. -/
  maxPathDepth : Int
  /-- The origins that may read answers, divided by commas. -/
  origins : Text
  deriving Repr, DecidableEq

/-- A field of the configuration. -/
inductive ConfigField where
  | logLevel
  | maxRecords
  | maxPathDepth
  | origins
  deriving Repr, DecidableEq

/-- The name of a field. -/
def ConfigField.key : ConfigField → String
  | logLevel => "log_level"
  | maxRecords => "max_records"
  | maxPathDepth => "max_path_depth"
  | origins => "cors_origins"

/-- The name of the environment variable that sets a field. -/
def ConfigField.variableName : ConfigField → String
  | logLevel => "LOG_LEVEL"
  | maxRecords => "STORAGE_MAX_RECORDS"
  | maxPathDepth => "STORAGE_MAX_PATH_DEPTH"
  | origins => "CORS_ORIGINS"

/-! ## Errors -/

/-- Why a value is refused. -/
inductive ConfigError where
  | notText
  | unknownLevel
  | notInteger
  | notNumeral
  | tooLarge
  | fractional
  | notFinite
  deriving Repr, DecidableEq

namespace ConfigError

/-- The kind of an error in one word. -/
def kind : ConfigError → String
  | notText => "string_type"
  | unknownLevel => "value_error"
  | notInteger => "int_type"
  | notNumeral => "int_parsing"
  | tooLarge => "int_parsing_size"
  | fractional => "int_from_float"
  | notFinite => "finite_number"

/-- The wording of an error. -/
def message : ConfigError → String
  | notText => "Input should be a valid string"
  | unknownLevel => "Value error, log level must be one of " ++
      ", ".intercalate (LogLevel.all.map LogLevel.name)
  | notInteger => "Input should be a valid integer"
  | notNumeral => "Input should be a valid integer, unable to parse string as an integer"
  | tooLarge => "Unable to parse input string as an integer, exceeded maximum size"
  | fractional => "Input should be a valid integer, got a number with a fractional part"
  | notFinite => "Input should be a finite number"

end ConfigError

namespace Config

/-- What holds where nothing else is said. -/
def default : Config where
  logLevel := .info
  maxRecords := 200000
  maxPathDepth := 256
  origins := "*"

/-- The origins, without blanks around them and without empty ones. -/
def originList (c : Config) : List Text :=
  ((Text.cut ',' c.origins).map (Text.trim Text.isBlank)).filter (· ≠ [])

/-! ## Reading values -/

/-- A text. -/
def readText : Json → Except ConfigError Text
  | .text s => .ok s
  | _ => .error .notText

/-- A log level. -/
def readLevel (v : Json) : Except ConfigError LogLevel := do
  let s ← readText v
  match LogLevel.ofText? s with
  | some level => .ok level
  | none => .error .unknownLevel

/-- Why a text is refused as an integer. -/
def ofRefusal : Numeral.Refusal → ConfigError
  | .malformed => .notNumeral
  | .tooLong => .tooLarge

/-- The magnitude that floating-point numbers must stay below to be read as integers. -/
def integerLimit : Nat := 0x8000000000000000

/-- The integer that a floating-point number is. -/
def integerOfFloat (x : Binary64) : Except ConfigError Int :=
  if !x.isFinite then .error .notFinite
  else match x.toInt? with
    | none => .error .fractional
    | some n => if n.natAbs < integerLimit then .ok n else .error .tooLarge

/-- An integer: a number without a fraction, a truth value as 0 or 1, or the text of an
integer. -/
def readInteger : Json → Except ConfigError Int
  | .int n => .ok n
  | .bool b => .ok (if b then 1 else 0)
  | .float x => integerOfFloat x
  | .text s => (Numeral.read s).mapError ofRefusal
  | _ => .error .notInteger

/-! ## Reading the configuration -/

/-- A field that may be left out. -/
def read {α : Type} (fallback : α) (reader : Json → Except ConfigError α) :
    Option Json → Except ConfigError α
  | none => .ok fallback
  | some v => reader v

/-- The error of a field, if there is one. -/
def error? {α : Type} (field : ConfigField) :
    Except ConfigError α → Option (ConfigField × ConfigError)
  | .ok _ => none
  | .error e => some (field, e)

/-- The configuration of given values; fields left out have their defaults. The errors of all
fields are reported together. -/
def ofFields (given : ConfigField → Option Json) :
    Except (List (ConfigField × ConfigError)) Config :=
  let logLevel := read default.logLevel readLevel (given .logLevel)
  let maxRecords := read default.maxRecords readInteger (given .maxRecords)
  let maxPathDepth := read default.maxPathDepth readInteger (given .maxPathDepth)
  let origins := read default.origins readText (given .origins)
  match logLevel, maxRecords, maxPathDepth, origins with
  | .ok logLevel, .ok maxRecords, .ok maxPathDepth, .ok origins =>
    .ok { logLevel, maxRecords, maxPathDepth, origins }
  | logLevel, maxRecords, maxPathDepth, origins =>
    .error ([error? .logLevel logLevel, error? .maxRecords maxRecords,
      error? .maxPathDepth maxPathDepth, error? .origins origins].filterMap fun e => e)

/-- The configuration of an environment. -/
def ofEnvironment (lookup : String → Option Text) :
    Except (List (ConfigField × ConfigError)) Config :=
  ofFields fun field => (lookup field.variableName).map .text

end Config

/-! ## Origins

A browser tells a service the origin of the page that asks; the service answers with the origin
that may read what it sends. -/

namespace Origin

/-- The item that stands for every origin. -/
def any : Text := "*"

/-- The origins are the same but for case. -/
def same (a b : Text) : Bool := Text.foldCase a == Text.foldCase b

/-- The origin that may read an answer. One that asks is told its own name if it is listed in any
case, or if every origin is. Where none is named, the answer is for every origin, or else for the
least one of the list. -/
def allowed? (origins : List Text) : Option Text → Option Text
  | some origin =>
    if origin = [] then anonymous?
    else if origins.contains any || origins.any (same origin) then some origin
    else none
  | none => anonymous?
where
  /-- The origin told when none is named. -/
  anonymous? : Option Text :=
    if origins.contains any then some any
    else (Sorting.sort Text.le origins).head?

end Origin

end UsageTree
