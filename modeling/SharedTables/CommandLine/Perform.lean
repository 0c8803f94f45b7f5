import SharedTables.CommandLine.Invocation
import SharedTables.Json.Writer
import SharedTables.Query.Fetch
import SharedTables.Settings.Source
import SharedTables.Table.Csv
import SharedTables.Table.Record
import SharedTables.Text.Split

/-!
# Carrying out commands

A command ends with an exit code: 0 if all went well, 1 if the server gave no manifest, 2 if the
arguments or settings are at fault.  Rows are written to the output or to a file, and only if all
went well.
-/

namespace SharedTables.CommandLine

/-- All went well. -/
def exitSuccess : Nat := 0

/-- The server gave no manifest. -/
def exitRejected : Nat := 1

/-- The arguments or settings are at fault. -/
def exitUsage : Nat := 2

/-- The parts of a text between commas, without blanks around them; empty parts do not count. -/
def listParts (text : String) : List String :=
  (((Text.splitOn ',' text.toList).map Text.trim).filter fun part => !part.isEmpty).map
    String.ofList

/-- The parts of an option that lists names, if there are any. -/
def names? (option : Option String) : Option (List String) :=
  match listParts (option.getD "") with
  -- an option without any name in it counts as missing
  | [] => none
  | parts => some parts

/-- Writes a text to the output, as complete lines. -/
def writeLines (text : String) : Run Unit :=
  Run.emit (.output (if text.endsWith "\n" then text else text ++ "\n"))

/-- Writes a text to a file, if one is named, or else to the output. -/
def writeTo (output : Option String) (text : String) : Run Unit :=
  let name := output.getD ""
  -- an empty name counts as none
  if name.isEmpty then writeLines text
  else do
    let path := Text.cleanPath name
    Run.emit (.wrote path text)
    Run.log .info ("Wrote " ++ path)

/-- A predicate as a record. -/
def predicateRecord (p : Predicate) : Value :=
  .object [("column", .text p.column), ("operator", .text p.operator.symbol),
    ("value", p.value.toValue), ("kind", .text p.value.kind), ("canonical", .text p.render)]

/-- The record of the predicate that a text is; a text that is none leaves a message. -/
def parseOne (text : String) : Run (Option Value) :=
  match Predicate.parse text with
  | .ok p => pure (some (predicateRecord p))
  | .error e => do
    Run.log .error ("Invalid predicate " ++ Text.quote text ++ ": " ++ e.message)
    return none

/-- Shows what predicates mean. -/
def performParse (texts : List String) : Run Nat := do
  let records ← Run.forEach parseOne texts
  writeLines (Json.write (.list (records.filterMap id)))
  return if records.all Option.isSome then exitSuccess else exitUsage

/-- Rows or groups in the given format. -/
def render (format : OutputFormat) (t : Table) : Except Failure String :=
  match format with
  | .json => if t.isListable then .ok (Json.write t.records) else .error .dateOutOfRange
  | .csv => t.toCsv

/-- The settings that options give. -/
def overrides (o : QueryOptions) : Members :=
  let text := fun (v : Option String) => (v.map Value.text).getD .null
  [("endpoint", text o.endpoint), ("bearer_token", text o.bearerToken), ("share", text o.share),
    ("schema", text o.schema), ("max_workers", (o.maxWorkers.map Value.int).getD .null),
    ("show_progress", if o.progress then .bool true else .null)]

/-- The query that options describe. -/
def buildQuery (o : QueryOptions) : Except Failure Query := do
  let q ← Query.create (.text o.table) .null (.list []) .null
  let q ←
    match names? o.select with
    | some names => q.select (.list (names.map .text))
    | none => pure q
  return o.predicates.foldl (fun q p => q.addFilter (.text p)) q

/-- Narrows a result down as options ask for. -/
def narrow (o : QueryOptions) (r : QueryResult) : Run QueryResult := do
  let filtered ← Run.ofExcept (r.filter (o.filters.map .text))
  let text := o.search.getD ""
  -- the empty text is no search
  if text.isEmpty then return filtered
  else filtered.search text ((names? o.searchColumns).getD filtered.table.names)

/-- Whether a failure says that filters or a search do not fit the table. -/
def concernsNarrowing : Failure → Bool
  | .filter _ => true
  | .search _ => true
  | _ => false

/-- Writes the rows of a result, or its groups if options ask for them. -/
def present (o : QueryOptions) (r : QueryResult) : Run Nat := do
  let column := o.aggregate.getD ""
  if column.isEmpty then
    let text ← Run.ofExcept (render o.format r.table)
    writeTo o.output text
    return exitSuccess
  else
    match r.table.typeOf? column with
    -- the groups of a column that is missing are a matter of usage
    | none => do
      Run.log .error ("Unknown column for --aggregate: " ++ column)
      return exitUsage
    | some type => do
      let groups ← Run.ofExcept (r.groups column)
      let listed ← Run.ofExcept (Table.ofGroups type groups)
      let text ← Run.ofExcept (render o.format listed)
      writeTo o.output text
      return exitSuccess

/-- Narrows a result down and writes it. -/
def finish (o : QueryOptions) (r : QueryResult) : Run Nat := do
  Run.log .info ("Fetched " ++ natText r.table.height ++ " rows from " ++
    intText r.filesProcessed ++ "/" ++ intText r.totalFiles ++ " files")
  -- filters and searches that do not fit the table are the caller's fault, other failures are not
  match ← (narrow o r).attempt with
  | .ok narrowed => present o narrowed
  | .error e =>
    if concernsNarrowing e then do
      Run.log .error e.message
      return exitUsage
    else Run.fail e

/-- Carries out a query with the given settings. -/
def performWith (o : QueryOptions) (settings : Settings) (server : Server) : Run Nat := do
  let q ← Run.ofExcept (buildQuery o)
  match o.limit with
  | some n =>
    -- nothing is asked of the server with such a limit
    if n ≤ 0 then do
      Run.log .error "--limit must be a positive integer"
      return exitUsage
    else execute { q with limit := .int n }
  | none => execute q
where
  /-- Carries out a query and goes on with its result. -/
  execute (q : Query) : Run Nat := do
    match ← (q.execute settings server).attempt with
    | .ok r => finish o r
    | .error (.catalog e) => do
      Run.log .error ("Query on " ++ o.table ++ " failed: " ++ e.message)
      return exitRejected
    | .error e => Run.fail e

/-- Lists the rows of a table. -/
def performQuery (o : QueryOptions) (files : Files) (environment : Environment)
    (server : Server) : Run Nat :=
  match Settings.load files o.config environment (overrides o) with
  | .ok settings => performWith o settings server
  -- any other failure of loading ends the program
  | .error (.config e) => do
    Run.log .error ("Configuration error: " ++ e.message)
    return exitUsage
  | .error e => Run.fail e

/-- What the commands are and which options they take. -/
def helpText : String :=
  let listed := fun (title : String) (forms : List OptionForm) =>
    title :: forms.map fun f => "  " ++ f.name ++ if f.takesValue then " VALUE" else ""
  String.intercalate "\n"
    (listed "options before the command:" Invocation.globalForms ++
      ["parse PREDICATE ...: shows what predicates mean"] ++
      listed "query TABLE: lists the rows of a table" Invocation.queryForms)

/-- Carries out a command. -/
def perform (c : Command) (files : Files) (environment : Environment) (server : Server) : Run Nat :=
  match c with
  | .help => do
    writeLines helpText
    return exitSuccess
  | .parse texts => performParse texts
  | .query o => performQuery o files environment server

end SharedTables.CommandLine
