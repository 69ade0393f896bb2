import BooleanSearch.Settings

/-!
# The command line

Arguments come on two levels: options in front of a command's name, and the options and the
query behind it.  Arguments are read from left to right.  An option that takes a value waits
until its value is seen, and its value is looked at when the next option, the query or the end
of the level comes; an unknown argument in between is reported first.

* `Argument.ofText` — the shape of an argument;
* `Reading.step` — one argument of a level;
* `Invocation.parse` — the command and the flags that a list of arguments gives.
-/

namespace BooleanSearch

/-! ## Commands -/

/-- What the program is asked to do.  A query that is not given is read from the input. -/
inductive Command where
  | tokenize (query? : Option String) (json : Bool)
  | filter (query? : Option String) (json : Bool)
  | reconstruct (query? : Option String) (normalised : Bool)
  | compose (query? : Option String) (source : String) (marker? : Option String)
      (dialect? : Option Dialect)
  deriving DecidableEq, Repr

/-- The names of the commands. -/
inductive CommandName where
  | tokenize
  | filter
  | reconstruct
  | compose
  deriving DecidableEq, Repr

/-- The command of a name. -/
def CommandName.ofText? : String → Option CommandName
  | "tokenize" => some .tokenize
  | "filter" => some .filter
  | "reconstruct" => some .reconstruct
  | "compose" => some .compose
  | _ => none

/-- Why arguments are not carried out. -/
inductive UsageError where
  /-- Help was asked for. -/
  | helpWanted
  /-- The version was asked for. -/
  | versionWanted
  /-- There is no argument at all. -/
  | nothingGiven
  /-- There are options but no command. -/
  | commandMissing
  /-- There is no such command. -/
  | commandUnknown
  /-- An argument has no place here. -/
  | argumentUnknown
  /-- An option lacks its value. -/
  | valueMissing
  /-- An option's value is malformed. -/
  | valueMalformed
  /-- A switch was given a value. -/
  | valueUnwanted
  /-- An option was given twice on one level. -/
  | optionRepeated
  /-- A required option is missing. -/
  | optionMissing
  deriving DecidableEq, Repr

/-! ## Options -/

/-- Options that take a value. -/
inductive ValueOption where
  | logLevel
  | maxDepth
  | source
  | marker
  | dialect
  deriving DecidableEq, Repr

/-- Options that take none. -/
inductive Switch where
  | help
  | version
  /-- The command's own switch: JSON output, or normalising first. -/
  | own
  deriving DecidableEq, Repr

/-- The option with a value that a name has on a level; `none` is the level in front of the
command. -/
def ValueOption.ofName? (level : Option CommandName) : String → Option ValueOption
  | "log-level" => some .logLevel
  | "max-depth" => some .maxDepth
  | "data-source" => if level = some .compose then some .source else none
  | "placeholder" => if level = some .compose then some .marker else none
  | "dialect" => if level = some .compose then some .dialect else none
  | _ => none

/-- The switch that a name has on a level. -/
def Switch.ofName? (level : Option CommandName) : String → Option Switch
  | "help" => some .help
  | "version" => if level = none then some .version else none
  | "json" => if level = some .tokenize ∨ level = some .filter then some .own else none
  | "normalised" => if level = some .reconstruct then some .own else none
  | _ => none

/-- The switch that a letter has on a level. -/
def Switch.ofLetter? (level : Option CommandName) (letter : Char) : Option Switch :=
  if letter = 'h' then some .help
  else if letter = 'V' ∧ level = none then some .version
  else none

/-- The shape of an argument. -/
inductive Argument where
  /-- Two dashes alone: everything behind is no option. -/
  | endOfOptions
  /-- Two dashes and a name, with a value behind an equals sign. -/
  | long (name : String) (value? : Option String)
  /-- One dash and letters; the first one decides. -/
  | short (letter : Char)
  /-- Anything else, a lone dash included. -/
  | plain
  deriving DecidableEq, Repr

/-- Splits text at its first equals sign. -/
def splitAtEquals (text : List Char) : String × Option String :=
  match text.span (· != '=') with
  | (name, []) => (String.ofList name, none)
  | (name, _ :: value) => (String.ofList name, some (String.ofList value))

/-- The shape of an argument. -/
def Argument.ofText (text : String) : Argument :=
  match text.toList with
  | ['-', '-'] => .endOfOptions
  | '-' :: '-' :: rest => .long (splitAtEquals rest).1 (splitAtEquals rest).2
  | '-' :: letter :: _ => .short letter
  | _ => .plain

/-! ## Reading one level -/

/-- What the arguments of one level have given so far. -/
structure Given where
  logLevel? : Option LogLevel := none
  maxDepth? : Option Nat := none
  source? : Option String := none
  marker? : Option String := none
  dialect? : Option Dialect := none
  switched : Bool := false
  query? : Option String := none
  deriving DecidableEq, Repr

/-- Has an option been given? -/
def Given.has (g : Given) : ValueOption → Bool
  | .logLevel => g.logLevel?.isSome
  | .maxDepth => g.maxDepth?.isSome
  | .source => g.source?.isSome
  | .marker => g.marker?.isSome
  | .dialect => g.dialect?.isSome

/-- Puts in an option's value, if it can be read. -/
def Given.put? (g : Given) (value : String) : ValueOption → Option Given
  | .logLevel => (LogLevel.parse value).toOption.map fun v => { g with logLevel? := some v }
  | .maxDepth => (parseUnsigned? value.toList).map fun v => { g with maxDepth? := some v }
  | .source => some { g with source? := some value }
  | .marker => some { g with marker? := some value }
  | .dialect => (Dialect.parse value).toOption.map fun v => { g with dialect? := some v }

/-- Takes an option and its value.  That it is given twice is reported before its value is
looked at. -/
def Given.take (g : Given) (option : ValueOption) (value : String) : Except UsageError Given :=
  if g.has option then .error .optionRepeated
  else
    match g.put? value option with
    | some g => .ok g
    | none => .error .valueMalformed

/-- A level that is being read. -/
structure Reading where
  given : Given := {}
  /-- An option that has not been taken yet, with its value once that is seen. -/
  pending : Option (ValueOption × Option String) := none
  /-- The end of options has been seen. -/
  optionsEnded : Bool := false
  deriving DecidableEq, Repr

/-- The next argument is an option's value, unless it is an option itself. -/
def Reading.awaitsValue (r : Reading) : Bool :=
  match r.pending with
  | some (_, none) => !r.optionsEnded
  | _ => false

/-- Takes the pending option. -/
def Reading.settle (r : Reading) : Except UsageError Given :=
  match r.pending with
  | none => .ok r.given
  | some (_, none) => .error .valueMissing
  | some (option, some value) => r.given.take option value

/-- A switch ends the wait of the option before it. -/
def Reading.switch (r : Reading) (switch : Switch) : Except UsageError Reading := do
  let given ← r.settle
  match switch with
  | .help => .error .helpWanted
  | .version => .error .versionWanted
  | .own =>
    if given.switched then .error .optionRepeated
    else .ok { r with given := { given with switched := true }, pending := none }

/-- A long option.  Its value stands behind an equals sign or is the next argument. -/
def Reading.long (level : Option CommandName) (r : Reading) (name : String)
    (value? : Option String) : Except UsageError Reading :=
  match ValueOption.ofName? level name, Switch.ofName? level name, value? with
  | some option, _, some value => do
    let given ← r.settle
    let given ← given.take option value
    return { r with given, pending := none }
  | some option, _, none => do
    let given ← r.settle
    return { r with given, pending := some (option, none) }
  | none, some _, some _ => .error .valueUnwanted
  | none, some switch, none => r.switch switch
  | none, none, _ => .error .argumentUnknown

/-- An argument that is no option and no option's value.  In front of the command it would have to
be the command's name; behind it, the first one is the query. -/
def Reading.plain (level : Option CommandName) (r : Reading) (text : String) :
    Except UsageError Reading :=
  match level with
  | none =>
    if r.optionsEnded && ((CommandName.ofText? text).isSome || text == "help") then
      .error .argumentUnknown
    else .error .commandUnknown
  | some _ =>
    if r.given.query?.isSome then .error .argumentUnknown
    else do
      let given ← r.settle
      return { r with given := { given with query? := some text }, pending := none }

/-- One argument of a level. -/
def Reading.step (level : Option CommandName) (r : Reading) (text : String) :
    Except UsageError Reading :=
  if r.optionsEnded then r.plain level text
  else
    match Argument.ofText text, r.pending with
    | .endOfOptions, _ => .ok { r with optionsEnded := true }
    | .long name value?, _ => r.long level name value?
    | .short letter, _ =>
      match Switch.ofLetter? level letter with
      | some switch => r.switch switch
      | none => .error .argumentUnknown
    | .plain, some (option, none) => .ok { r with pending := some (option, some text) }
    | .plain, _ => r.plain level text

/-! ## Reading all arguments -/

/-- A command with the flags that hold for every command. -/
structure Invocation where
  command : Command
  logLevel? : Option LogLevel
  maxDepth? : Option Nat
  deriving DecidableEq, Repr

/-- The command that the arguments behind its name make. -/
def CommandName.command (name : CommandName) (g : Given) : Except UsageError Command :=
  match name with
  | .tokenize => .ok (.tokenize g.query? g.switched)
  | .filter => .ok (.filter g.query? g.switched)
  | .reconstruct => .ok (.reconstruct g.query? g.switched)
  | .compose =>
    match g.source? with
    | some source => .ok (.compose g.query? source g.marker? g.dialect?)
    | none => .error .optionMissing

/-- The arguments behind a command's name. -/
def CommandName.parse (name : CommandName) (arguments : List String) :
    Except UsageError (Given × Command) := do
  let reading ← arguments.foldlM (Reading.step (some name)) {}
  let given ← reading.settle
  return (given, ← name.command given)

/-- The arguments behind `help`: nothing, or the name of one command. -/
def helpOn : List String → UsageError
  | [] => .helpWanted
  | [topic] =>
    if (CommandName.ofText? topic).isSome || topic == "help" then .helpWanted else .commandUnknown
  | _ => .commandUnknown

/-- Reads the arguments in front of the command's name, and then those behind it.  A flag behind
the name wins over the same flag in front of it, which is taken last. -/
def Invocation.parseFrom (r : Reading) : List String → Except UsageError Invocation
  | [] => do
    let given ← r.settle
    if given = {} then .error .nothingGiven else .error .commandMissing
  | text :: rest =>
    let isName := !r.optionsEnded && !r.awaitsValue
    match CommandName.ofText? text, isName with
    | some name, true => do
      let (inner, command) ← name.parse rest
      let outer ← r.settle
      return {
        command
        logLevel? := inner.logLevel?.or outer.logLevel?
        maxDepth? := inner.maxDepth?.or outer.maxDepth? }
    | _, _ =>
      if isName && text == "help" then .error (helpOn rest)
      else do
        let next ← r.step none text
        Invocation.parseFrom next rest

/-- The command and the flags that the arguments give. -/
def Invocation.parse (arguments : List String) : Except UsageError Invocation :=
  Invocation.parseFrom {} arguments

/-- The settings that the flags override. -/
def Invocation.overrides (i : Invocation) : Overrides where
  logLevel? := i.logLevel?
  maxDepth? := i.maxDepth?
  dialect? :=
    match i.command with
    | .compose _ _ _ dialect? => dialect?
    | _ => none

end BooleanSearch
