import BooleanSearch.Program

/-!
# The executable

Gathers the arguments, the environment and the input, performs the run, and writes its output and
its log.
-/

namespace BooleanSearch

/-- The environment variables that settings are read from. -/
def settingsVariables : List String :=
  ["SEARCH_QUERY_LOG_LEVEL", "SEARCH_QUERY_MAX_DEPTH", "SEARCH_QUERY_DIALECT"]

/-- The input is read only for a command whose query is not among its arguments. -/
def gatherInput (arguments : List String) : IO Input := do
  match Invocation.parse arguments with
  | .ok invocation =>
    if invocation.command.query?.isSome then return ByteArray.empty
    else
      try
        let content ← (← IO.getStdin).readBinToEnd
        return content
      catch cause => return { content := .empty, failure? := some (toString cause) }
  | .error _ => return ByteArray.empty

end BooleanSearch

open BooleanSearch in
/-- The program's entry. -/
def main (arguments : List String) : IO UInt32 := do
  let values ← settingsVariables.filterMapM fun name => do
    return (← IO.getEnv name).map (name, ·)
  let input ← gatherInput arguments
  let run := Run.perform arguments (fun name => values.lookup name) input
  (← IO.getStdout).putStr run.output
  for record in run.log do
    IO.eprintln (record.level.name.toUpper ++ " " ++ record.message)
  return run.exit
