import SharedTables.CommandLine.Word
import SharedTables.Number.Reading
import SharedTables.Run

/-!
# Commands

There are two commands: `parse` shows what predicates mean, `query` lists the rows of a table.
Options before the command say which messages are shown.
-/

namespace SharedTables.CommandLine

/-- How rows are written. -/
inductive OutputFormat where
  | json
  | csv
deriving DecidableEq, Repr

namespace OutputFormat

/-- The name of a format. -/
def name : OutputFormat → String
  | json => "json"
  | csv => "csv"

/-- The format of a name. -/
def ofName? (s : String) : Option OutputFormat :=
  [json, csv].find? fun f => f.name == s

end OutputFormat

/-- What the command `query` is asked to do. -/
structure QueryOptions where
  table : String
  config : Option String
  endpoint : Option String
  bearerToken : Option String
  share : Option String
  schema : Option String
  select : Option String
  predicates : List String
  limit : Option Int
  filters : List String
  search : Option String
  searchColumns : Option String
  aggregate : Option String
  maxWorkers : Option Int
  progress : Bool
  format : OutputFormat
  output : Option String
deriving DecidableEq, Repr

/-- What a command line asks for. -/
inductive Command where
  | help
  | parse (texts : List String)
  | query (options : QueryOptions)
deriving DecidableEq, Repr

/-- A command, and the least weight of messages that are shown. -/
structure Invocation where
  threshold : LogLevel
  command : Command
deriving DecidableEq, Repr

namespace Invocation

/-- The options that ask for help. -/
def helpForms : List OptionForm := [⟨"--help", false⟩, ⟨"-h", false⟩]

/-- The options before the command. -/
def globalForms : List OptionForm :=
  helpForms ++ [⟨"--verbose", false⟩, ⟨"--warnings-only", false⟩, ⟨"--errors-only", false⟩]

/-- The options of the command `query`. -/
def queryForms : List OptionForm :=
  helpForms ++
    [⟨"--config", true⟩, ⟨"--endpoint", true⟩, ⟨"--bearer-token", true⟩, ⟨"--share", true⟩,
      ⟨"--schema", true⟩, ⟨"--select", true⟩, ⟨"--where", true⟩, ⟨"--limit", true⟩,
      ⟨"--filter", true⟩, ⟨"--search", true⟩, ⟨"--search-columns", true⟩,
      ⟨"--aggregate", true⟩, ⟨"--max-workers", true⟩, ⟨"--progress", false⟩,
      ⟨"--format", true⟩, ⟨"--output", true⟩]

/-- The words before the command, the command and the words after it. -/
def splitCommand : List String → Except UsageError (List Word × String × List String)
  | [] => .error (.missingArgument "command")
  | word :: rest =>
    if word == separator then .error (.unknownCommand word)
    else do
      match ← readWord globalForms word with
      | .plain name => return ([], name, rest)
      | w => do
        -- options of the whole command line stand before the command
        let (ws, name, after) ← splitCommand rest
        return (w :: ws, name, after)

/-- The least weight of messages that are shown: of the options for it the strictest counts. -/
def thresholdOf (a : Assignment) : LogLevel :=
  if a.has "--errors-only" then .error
  else if a.has "--warnings-only" then .warning
  else if a.has "--verbose" then .debug
  else .info

/-- The integer that an option gives. -/
def integer? (a : Assignment) (name : String) : Except UsageError (Option Int) :=
  match a.value? name with
  | none => .ok none
  | some v =>
    match Number.readInteger v with
    | .ok n => .ok (some n)
    | .error _ => .error (.invalidValue name v)

/-- The format that an option gives. -/
def format (a : Assignment) : Except UsageError OutputFormat :=
  match a.value? "--format" with
  | none => .ok .json
  | some v =>
    match OutputFormat.ofName? v with
    | some f => .ok f
    | none => .error (.invalidValue "--format" v)

/-- Checks every value of an option that takes integers. -/
def checkIntegers (a : Assignment) (name : String) : Except UsageError Unit :=
  (a.values name).forM fun v =>
    match Number.readInteger v with
    | .ok _ => .ok ()
    | .error _ => .error (.invalidValue name v)

/-- Checks every value of the option for the format. -/
def checkFormats (a : Assignment) : Except UsageError Unit :=
  (a.values "--format").forM fun v =>
    if (OutputFormat.ofName? v).isSome then .ok () else .error (.invalidValue "--format" v)

/-- What the command `query` is asked to do. -/
def queryCommand (a : Assignment) : Except UsageError Command := do
  -- every value given is checked, also one that a later value replaces
  checkIntegers a "--limit"
  checkIntegers a "--max-workers"
  checkFormats a
  let limit ← integer? a "--limit"
  let maxWorkers ← integer? a "--max-workers"
  let format ← format a
  match a.arguments with
  | [] => .error (.missingArgument "table")
  | table :: [] =>
    return .query {
      table := table
      config := a.value? "--config"
      endpoint := a.value? "--endpoint"
      bearerToken := a.value? "--bearer-token"
      share := a.value? "--share"
      schema := a.value? "--schema"
      select := a.value? "--select"
      predicates := a.values "--where"
      limit := limit
      filters := a.values "--filter"
      search := a.value? "--search"
      searchColumns := a.value? "--search-columns"
      aggregate := a.value? "--aggregate"
      maxWorkers := maxWorkers
      progress := a.has "--progress"
      format := format
      output := a.value? "--output" }
  | _ :: word :: _ => .error (.unexpectedArgument word)

/-- Whether options ask for help. -/
def asksHelp (a : Assignment) : Bool :=
  helpForms.any fun f => a.has f.name

/-- The command of the given name. -/
def commandOf (name : String) (words : List String) : Except UsageError Command :=
  match name with
  | "parse" => do
    let a ← assign (← readWords helpForms words)
    if asksHelp a then return .help
    else if a.arguments.isEmpty then .error (.missingArgument "predicates")
    else return .parse a.arguments
  | "query" => do
    let a ← assign (← readWords queryForms words)
    if asksHelp a then return .help else queryCommand a
  | _ => .error (.unknownCommand name)

/-- Understands a command line. -/
def ofArguments (arguments : List String) : Except UsageError Invocation := do
  let (before, name, after) ← splitCommand arguments
  let globals ← assign before
  -- help is shown whatever follows
  let c ← if asksHelp globals then pure Command.help else commandOf name after
  return ⟨thresholdOf globals, c⟩

end Invocation

end SharedTables.CommandLine
