import BooleanSearch.CommandLine
import BooleanSearch.Query
import BooleanSearch.Report

/-!
# The program

A run reads its arguments, loads its settings and carries out one command: it shows, repairs,
writes back or composes a query.

* `Record` — what a run logs;
* `Command.prepare` — the report of a command, with what is logged on the way;
* `Command.run` — a command carried out on a sink;
* `Run.perform` — a whole run: exit status, output and log.
-/

namespace BooleanSearch

/-! ## The log -/

/-- A record of the log. -/
inductive Record where
  | settingsLoaded (settings : Settings)
  | settingsRefused (cause : SettingsError)
  | event (e : Event)
  | composing (dialect : Dialect) (terms : Nat)
  | commandFailed (cause : CommandError)
  deriving DecidableEq, Repr

/-- The level of a record. -/
def Record.level : Record → LogLevel
  | .settingsLoaded _ | .composing .. => .debug
  | .settingsRefused _ | .commandFailed _ => .error
  | .event e => e.level

/-- A log level as the log names it inside a record. -/
def LogLevel.capitalised : LogLevel → String
  | .trace => "Trace"
  | .debug => "Debug"
  | .info => "Info"
  | .warn => "Warn"
  | .error => "Error"

/-- A dialect as the log names it. -/
def Dialect.capitalised : Dialect → String
  | .ansi => "Ansi"
  | .mysql => "MySql"

/-- The settings as the log shows them. -/
def Settings.shown (s : Settings) : String :=
  "CliConfig \x7b log_level: " ++ s.logLevel.capitalised ++ ", max_depth: " ++
    toString s.maxDepth ++ ", dialect: " ++ s.dialect.capitalised ++ " \x7d"

/-- A character of a message in the log.  The controls that a terminal would act on are written
out: escape, bell, backspace, form feed, delete and the second block of controls. -/
def terminalEscape (c : Char) : List Char :=
  if c = '\x1b' then ['\\', 'x', '1', 'b']
  else if c = '\x07' then ['\\', 'x', '0', '7']
  else if c = '\x08' then ['\\', 'x', '0', '8']
  else if c = '\x0c' then ['\\', 'x', '0', 'c']
  else if c = '\x7f' then ['\\', 'x', '7', 'f']
  else if 0x80 ≤ c.toNat ∧ c.toNat ≤ 0x9f then
    ['\\', 'u', '\x7b'] ++ hexDigits c.toNat ++ ['\x7d']
  else [c]

/-- A message that a terminal shows without acting on it. -/
def terminalSafe (message : String) : String :=
  String.ofList (message.toList.flatMap terminalEscape)

/-- The wording of a record.  Of the wordings only that of a failed command holds text from
outside in its message proper. -/
def Record.message : Record → String
  | .settingsLoaded settings => "configuration loaded config=" ++ settings.shown
  | .settingsRefused cause => "invalid configuration error=" ++ cause.message
  | .event e => e.message
  | .composing dialect terms =>
    "composing query dialect=" ++ dialect.capitalised ++ " terms=" ++ toString terms
  | .commandFailed cause => terminalSafe ("command failed: " ++ cause.message)

/-- The records that a log of the given level shows. -/
def LogLevel.shown (level : LogLevel) (records : List Record) : List Record :=
  records.filter fun record => level.rank ≤ record.level.rank

/-! ## Commands -/

/-- The query of a command: the one given, or else the whole input. -/
def readQuery (input : Input) : Option String → Except CommandError String
  | some query => .ok query
  | none => input.text.mapError .inputUnreadable

/-- The query that a command was given with its arguments. -/
def Command.query? : Command → Option String
  | .tokenize query? _ | .filter query? _ | .reconstruct query? _ | .compose query? .. => query?

/-- A report that is ready to be written, or the failure that keeps it from being made, with what
was logged on the way. -/
structure Prepared where
  records : List Record
  report : Except CommandError Report

/-- An outline, or a JSON text if that is asked for. -/
def Report.ofExpression (e : Expression) (json : Bool) : Report :=
  if json then .json e else .outline e

/-- The filter of a query over a data source.  The template is checked before anything is
composed. -/
def prepareFilter (settings : Settings) (text source : String) (marker? : Option String) :
    Prepared :=
  let reader := settings.tokenizer
  let query := Query.parse reader text
  let parsing := (Query.parseEvents reader text).map Record.event
  match DataSource.parse source marker? with
  | .error cause => ⟨parsing, .error (.templateInvalid cause)⟩
  | .ok dataSource =>
    let formatter := LikeFormatter.format ⟨dataSource, settings.dialect.quoter⟩
    ⟨parsing ++ .composing settings.dialect query.terms.length ::
        (query.composeEvents formatter).map Record.event,
      match query.compose formatter with
      | .ok composed => .ok (.line composed)
      | .error cause => .error (.composeFailed cause)⟩

/-- The report of a command on a query's text. -/
def Command.prepareText (settings : Settings) (text : String) : Command → Prepared
  | .tokenize _ json =>
    ⟨(settings.tokenizer.events text).map Record.event,
      .ok (.ofExpression (settings.tokenizer.tokenize text) json)⟩
  | .filter _ json =>
    ⟨(Query.parseEvents settings.tokenizer text).map Record.event,
      .ok (.ofExpression (settings.tokenizer.tokenize text).filter json)⟩
  | .reconstruct _ false =>
    ⟨(settings.tokenizer.events text).map Record.event,
      .ok (.line (settings.tokenizer.tokenize text).reconstruct)⟩
  | .reconstruct _ true =>
    ⟨(Query.parseEvents settings.tokenizer text).map Record.event,
      .ok (.line (Query.parse settings.tokenizer text).text)⟩
  | .compose _ source marker? _ => prepareFilter settings text source marker?

/-- The report of a command. -/
def Command.prepare (c : Command) (settings : Settings) (input : Input) : Prepared :=
  match readQuery input c.query? with
  | .ok text => c.prepareText settings text
  | .error failure => ⟨[], .error failure⟩

/-- Writes what was prepared.  Nothing is written unless the whole report could be made. -/
def Prepared.deliver (p : Prepared) (sink : Sink) : Delivery :=
  match p.report with
  | .ok report => report.deliver sink
  | .error failure => ⟨"", some failure⟩

/-- Carries out a command. -/
def Command.run (c : Command) (settings : Settings) (input : Input) (sink : Sink) : Delivery :=
  (c.prepare settings input).deliver sink

/-! ## Runs -/

/-- Why no command is carried out. -/
inductive StartError where
  | usage (cause : UsageError)
  | settings (cause : SettingsError)
  deriving DecidableEq, Repr

/-- The command of a run and its settings.  Arguments are checked before settings. -/
def startUp (arguments : List String) (lookup : String → Option String) :
    Except StartError (Command × Settings) := do
  let invocation ← (Invocation.parse arguments).mapError .usage
  let settings ← (Settings.load lookup invocation.overrides).mapError .settings
  return (invocation.command, settings)

/-- What a run leaves behind. -/
structure Run where
  exit : UInt32
  output : String
  log : List Record
  deriving DecidableEq, Repr

/-- The name and version of the program. -/
def versionText : String :=
  "search-query 0.1.0\n"

/-- A short description of the arguments. -/
def helpText : String :=
  "Inspect and compose free-text search expressions\n\n" ++
  "Usage: search-query [--log-level LEVEL] [--max-depth N] COMMAND\n\n" ++
  "Commands:\n" ++
  "  tokenize [--json] [QUERY]\n" ++
  "  filter [--json] [QUERY]\n" ++
  "  reconstruct [--normalised] [QUERY]\n" ++
  "  compose --data-source SOURCE [--placeholder MARKER] [--dialect DIALECT] [QUERY]\n" ++
  "  help [COMMAND]\n"

/-- A run that ends with its arguments: asking for help or the version is no failure. -/
def Run.ofUsage : UsageError → Run
  | .helpWanted => ⟨0, helpText, []⟩
  | .versionWanted => ⟨0, versionText, []⟩
  | _ => ⟨2, "", []⟩

/-- A whole run.  Refused arguments or settings end it with status 2, a failed command with
status 1.  Records below the log level are not shown. -/
def Run.perform (arguments : List String) (lookup : String → Option String) (input : Input) :
    Run :=
  match startUp arguments lookup with
  | .error (.usage cause) => Run.ofUsage cause
  | .error (.settings cause) => ⟨2, "", [.settingsRefused cause]⟩
  | .ok (command, settings) =>
    let prepared := command.prepare settings input
    let delivery := prepared.deliver {}
    let failed := delivery.failure?.toList.map Record.commandFailed
    ⟨if failed.isEmpty then 0 else 1, delivery.taken,
      settings.logLevel.shown (.settingsLoaded settings :: prepared.records ++ failed)⟩

end BooleanSearch
