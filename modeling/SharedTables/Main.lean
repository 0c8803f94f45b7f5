import SharedTables.CommandLine.Perform

/-!
# The program

Reads the command line, the environment and the files that are named, carries out the command and
lets its events happen: messages go to the error output, rows to the output or to a file.
-/

namespace SharedTables

open CommandLine

/-- The variables of the environment that give settings. -/
def readEnvironment : IO Environment :=
  Settings.keys.filterMapM fun key => do
    let name := Settings.variableName key
    return (← IO.getEnv name).map fun value => (name, value)

/-- The file of settings that a command names, if there is one. -/
def readNamedFile : Command → IO Files
  | .query o =>
    match o.config with
    | none => return []
    | some path => do
      try
        return [(Text.cleanPath path, ← IO.FS.readFile path)]
      catch _ => return []
  | _ => return []

/-- Lets an event happen. -/
def happen (threshold : LogLevel) : Event → IO Unit
  | .log level text => do
    if threshold.rank ≤ level.rank then IO.eprintln (level.name ++ ": " ++ text)
  | .output text => IO.print text
  | .wrote path text => do
    IO.FS.createDirAll (Text.parentPath path)
    IO.FS.writeFile path text
  | _ => return ()

/-- Carries out a command line and gives the exit code.  There is no connection, so every request
fails. -/
def runProgram (arguments : List String) : IO UInt32 := do
  match Invocation.ofArguments arguments with
  | .error e => do
    IO.eprintln e.message
    return exitUsage.toUInt32
  | .ok invocation => do
    let files ← readNamedFile invocation.command
    let environment ← readEnvironment
    let run := perform invocation.command files environment (Server.unreachable "no connection")
    run.events.forM (happen invocation.threshold)
    match run.result with
    | .ok code => return code.toUInt32
    | .error e => do
      IO.eprintln e.message
      return exitRejected.toUInt32

end SharedTables

/-- The entry of the program. -/
def main (arguments : List String) : IO UInt32 :=
  SharedTables.runProgram arguments
