import SharedTables.Query.Basic
import SharedTables.Query.Result
import SharedTables.Settings.Source
import SharedTables.Sharing.Client
import SharedTables.Sharing.Pruning
import SharedTables.Table.Stack

/-!
# Fetching

A query is carried out in three steps: the server is asked which files make up the table, the files
that may hold rows that are wanted are downloaded one by one, and the rows that are wanted are put
below each other.  A file that cannot be downloaded or holds no table is left out with a message,
and so is a file without rows that are wanted.
-/

namespace SharedTables

namespace QueryResult

/-- The rows and columns of a file that are wanted. -/
def loadFile (server : Server) (predicates : List Predicate) (columns : Option (List String))
    (file : FileReference) : Run Table := do
  let payload ← Client.fetch server file.url
  let table ← Run.ofExcept (payload.decode.mapError .decode)
  let filtered ← table.filterBy predicates
  filtered.selectColumns columns

/-- The rows and columns of a file that are wanted, unless the file is to be left out; `label` is
its place among the files. -/
def readFile (label : String) (load : Run Table) : Run (Option Table) := do
  match ← load.attempt with
  | .error e =>
    if e.concernsFile then do
      Run.log .error ("Failed to process file " ++ label ++ ": " ++ e.message)
      return none
    else Run.fail e
  | .ok t =>
    -- a file without rows does not count as one that gave rows
    if t.height = 0 then do
      Run.log .debug ("File " ++ label ++ " has no matching rows")
      return none
    else return some t

/-- Whether a number of workers is more than one. -/
def isSeveral (workers : Value) : Except Failure Bool :=
  match workers with
  | .int n => .ok (decide (1 < n))
  | .float x => .ok (Binary.compare? x (Binary.ofInt 1) == some .gt)
  -- neither truth value is more than one
  | .bool _ => .ok false
  | _ => .error (.query .notCount)

/-- The files with their places among all files. -/
def labelled (files : List FileReference) : List (FileReference × String) :=
  (files.zipIdx 1).map fun (file, i) => (file, natText i ++ "/" ++ natText files.length)

/-- Reads files and puts together the rows that are wanted.  Several workers go on with the other
files when one of them stops. -/
def ofFiles (server : Server) (files : List FileReference) (filters : List Value)
    (columns : Option (List String)) (workers : Value) : Run QueryResult := do
  let predicates ← Predicate.parseAll filters
  let relevant ← pruneFiles files predicates
  -- no download, and no look at the number of workers
  if relevant.isEmpty then return empty (columns.getD [])
  else
    let several ← Run.ofExcept (isSeveral workers)
    let read := fun (item : FileReference × String) =>
      readFile item.2 (loadFile server predicates columns item.1)
    -- one worker stops at the first failure, several report the first one in the end
    let tables ← if several && 1 < relevant.length then Run.forAll read (labelled relevant)
      else Run.forEach read (labelled relevant)
    -- the files left out are forgotten, the order of the others is that of the manifest
    let found := tables.filterMap id
    Run.log .info ("Processed " ++ natText found.length ++ " of " ++ natText relevant.length ++
      " files with matching rows")
    let table ← Table.stack found (columns.getD [])
    return ⟨table, found.length, relevant.length⟩

end QueryResult

namespace Query

/-- Carries out a query over an open connection. -/
def fetch (q : Query) (settings : Settings) (client : Client) (server : Server) :
    Run QueryResult := do
  -- the only request that names the query; the files are fetched afterwards
  let manifest ← client.queryTable server settings.share settings.schema q.table q.limit
    (.list q.filters)
  Run.log .info ("Query on " ++ q.table.display ++ " returned " ++
    natText manifest.files.length ++ " files")
  QueryResult.ofFiles server manifest.files q.filters q.columnNames settings.maxWorkers

/-- Carries out a query over a connection of its own, which is closed whatever happens. -/
def execute (q : Query) (settings : Settings) (server : Server) : Run QueryResult := do
  -- without a location there is nothing to connect to
  let endpoint ← Run.ofExcept (Client.locationOf settings.endpoint)
  Run.emit .opened
  let client := Client.connect endpoint settings.bearerToken
  -- from here on the connection is closed also by a failure
  (q.fetch settings client server).andFinally .closed

/-- Carries out a query with the given settings or, if none are given, with those of the
environment. -/
def executeIn (q : Query) (settings : Option Settings) (environment : Environment)
    (server : Server) : Run QueryResult := do
  let settings ← Run.ofExcept (settings.elim (Settings.load [] none environment []) .ok)
  q.execute settings server

end Query

end SharedTables
