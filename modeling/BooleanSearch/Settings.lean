import BooleanSearch.Event
import BooleanSearch.Fragment.Quoter
import BooleanSearch.Text.Character
import BooleanSearch.Tokenizer

/-!
# Settings

Three settings steer the program: how much it reports, how deep groups are expanded, and which
dialect its literals are written in.  Each comes from a flag, else from an environment variable,
else from a default.

* `LogLevel.parse`, `Dialect.parse`, `parseUnsigned?` — the values of settings;
* `Settings.fromEnvironment` — variables over defaults, checked;
* `Settings.override` — flags over settings, not checked;
* `Settings.validate` — the depth limit may not exceed the tokenizer's ceiling;
* `Settings.load` — all three in order.
-/

namespace BooleanSearch

/-- The dialect in which literals are written. -/
inductive Dialect where
  | ansi
  | mysql
  deriving DecidableEq, Repr

/-- The quoter of a dialect. -/
def Dialect.quoter : Dialect → Quoter
  | .ansi => .ansi
  | .mysql => .mysql

/-- Why settings are refused. -/
inductive SettingsError where
  | unknownLogLevel (text : String)
  | unknownDialect (text : String)
  | malformedDepth (text : String)
  | depthAboveCeiling (maxDepth : Nat)
  deriving DecidableEq, Repr

/-- What is wrong with the settings. -/
def SettingsError.reason : SettingsError → String
  | .unknownLogLevel text =>
    "unknown log level '" ++ text ++ "', expected one of: trace, debug, info, warn, error"
  | .unknownDialect text => "unknown dialect '" ++ text ++ "', expected one of: ansi, mysql"
  | .malformedDepth text =>
    "invalid max depth '" ++ text ++ "', expected a non-negative integer"
  | .depthAboveCeiling maxDepth =>
    "max depth " ++ toString maxDepth ++ " exceeds the limit of " ++ toString Tokenizer.ceiling

/-- The wording of the failure. -/
def SettingsError.message (e : SettingsError) : String :=
  "invalid configuration: " ++ e.reason

/-! ## Values -/

/-- Names are compared without regard to case.  They hold ASCII letters only, none of which is the
lower case of a letter outside ASCII except `k`, which no name has, so ASCII letters suffice. -/
def lowerCase (text : String) : String :=
  String.ofList (text.toList.map Char.toLower)

/-- The lower-case name of a level. -/
def LogLevel.name : LogLevel → String
  | .trace => "trace"
  | .debug => "debug"
  | .info => "info"
  | .warn => "warn"
  | .error => "error"

/-- The lower-case name of a dialect. -/
def Dialect.name : Dialect → String
  | .ansi => "ansi"
  | .mysql => "mysql"

/-- Reads a level from its name in any case; `warning` is `warn`.  Nothing is trimmed. -/
def LogLevel.parse (text : String) : Except SettingsError LogLevel :=
  match lowerCase text with
  | "trace" => .ok .trace
  | "debug" => .ok .debug
  | "info" => .ok .info
  | "warn" | "warning" => .ok .warn
  | "error" => .ok .error
  | _ => .error (.unknownLogLevel text)

/-- Reads a dialect from its name in any case.  Nothing is trimmed. -/
def Dialect.parse (text : String) : Except SettingsError Dialect :=
  match lowerCase text with
  | "ansi" => .ok .ansi
  | "mysql" => .ok .mysql
  | _ => .error (.unknownDialect text)

/-- Reads an unsigned integer of 64 bits: an optional plus sign, then ASCII digits. -/
def parseUnsigned? (text : List Char) : Option Nat :=
  let digits := match text with
    | '+' :: rest => rest
    | rest => rest
  if digits.isEmpty || !digits.all Char.isDigit then none
  else
    let n := natOfDigits digits
    if n < Nat.pow 2 64 then some n else none

/-- Reads a depth limit, white space around it aside. -/
def parseDepth (text : String) : Except SettingsError Nat :=
  match parseUnsigned? (trimBy isWhiteSpace text.toList) with
  | some n => .ok n
  | none => .error (.malformedDepth text)

/-! ## Layers -/

/-- The settings of a run. -/
structure Settings where
  logLevel : LogLevel := .warn
  maxDepth : Nat := 64
  dialect : Dialect := .ansi
  deriving DecidableEq, Repr

/-- Settings given by flags. -/
structure Overrides where
  logLevel? : Option LogLevel := none
  maxDepth? : Option Nat := none
  dialect? : Option Dialect := none
  deriving DecidableEq, Repr

/-- The depth limit is one that the tokenizer uses as it is. -/
def Settings.validate (s : Settings) : Except SettingsError Settings :=
  if s.maxDepth ≤ Tokenizer.ceiling then .ok s else .error (.depthAboveCeiling s.maxDepth)

/-- Reads a variable if it is set. -/
def readVariable {α : Type} (parse : String → Except SettingsError α) (default : α) :
    Option String → Except SettingsError α
  | some text => parse text
  | none => .ok default

/-- The settings that environment variables give, read in the order of level, depth and dialect.
The first one that is malformed decides the failure. -/
def Settings.fromEnvironment (lookup : String → Option String) :
    Except SettingsError Settings := do
  let defaults : Settings := {}
  let logLevel ← readVariable LogLevel.parse defaults.logLevel (lookup "SEARCH_QUERY_LOG_LEVEL")
  let maxDepth ← readVariable parseDepth defaults.maxDepth (lookup "SEARCH_QUERY_MAX_DEPTH")
  let dialect ← readVariable Dialect.parse defaults.dialect (lookup "SEARCH_QUERY_DIALECT")
  Settings.validate { logLevel, maxDepth, dialect }

/-- A flag wins over what was set before. -/
def Settings.override (s : Settings) (flags : Overrides) : Settings where
  logLevel := flags.logLevel?.getD s.logLevel
  maxDepth := flags.maxDepth?.getD s.maxDepth
  dialect := flags.dialect?.getD s.dialect

/-- The settings of a run.  A malformed variable is refused even if a flag overrides it. -/
def Settings.load (lookup : String → Option String) (flags : Overrides) :
    Except SettingsError Settings := do
  let settings ← Settings.fromEnvironment lookup
  (settings.override flags).validate

/-- The reader with the depth limit of the settings. -/
def Settings.tokenizer (s : Settings) : Tokenizer :=
  .ofMaxDepth s.maxDepth

end BooleanSearch
