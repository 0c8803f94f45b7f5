import SharedTables.Run
import SharedTables.Sharing.Manifest
import SharedTables.Sharing.Server
import SharedTables.Text.Percent

/-!
# Requests

A `Client` knows where the server is and how to show that it may ask.  `Client.queryTable` asks for
the manifest of a table, `Client.fetch` downloads a file.  The location of a query is made of the
share, the schema and the table, each encoded so that it is one segment.
-/

namespace SharedTables

/-- A connection to a server. -/
structure Client where
  endpoint : String
  token : Value

namespace Client

/-- How much of a body is shown in messages. -/
def previewLength : Nat := 100

/-- A client for the given endpoint, whose trailing slashes do not count. -/
def connect (endpoint : String) (token : Value) : Client :=
  { endpoint := String.ofList (endpoint.toList.reverse.dropWhile (· == '/')).reverse
    token := token }

/-- The location that a value is. -/
def locationOf (v : Value) : Except Failure String :=
  match v with
  | .text s => .ok s
  | _ => .error (.query .notLocation)

/-- The location of the query for a table. -/
def queryUrl (c : Client) (share schema table : String) : String :=
  c.endpoint ++ "/shares/" ++ Text.Percent.encode share ++ "/schemas/" ++
    Text.Percent.encode schema ++ "/tables/" ++ Text.Percent.encode table ++ "/query"

/-- What a query says beside the table: how many rows are wanted, and which. -/
def queryBody (limit predicates : Value) : Except Failure Value := do
  let limits ←
    match limit with
    | .null => pure []
    | v => (v.toInteger.map fun n => [("limitHint", Value.int n)]).mapError Failure.number
  let hints ←
    -- no hints are sent where there are no predicates
    if predicates.isSet then
      match predicates.elements? with
      | some elements => pure [("predicateHints", Value.list elements)]
      | none => .error (.query .notSequence)
    else pure []
  return .object (limits ++ hints)

/-- How a request says who asks: the text of the token, of which every character has to be one of
ASCII. -/
def authorization (c : Client) : Except Failure String :=
  match c.token.toText with
  | .error e => .error (.number e)
  | .ok token =>
    if token.toList.all fun ch => ch.toNat < 0x80 then .ok ("Bearer " ++ token)
    else .error (.query .notAscii)

mutual

/-- Checks that a value can be sent: there is no date in it, no number that is not finite and no
integer of too many digits.  The first of these is the failure. -/
def checkValue : Value → Except Failure Unit
  | .int n => if (Value.int n).hasText then .ok () else .error (.number .tooLongToWrite)
  | .float x => if x.isFinite then .ok () else .error (.query .notFinite)
  | .date _ => .error (.query (.notSerializable "date"))
  | .moment _ => .error (.query (.notSerializable "datetime"))
  | .list items => checkItems items
  | .object members => checkMembers members
  | _ => .ok ()

/-- Checks the items of a list, from the first on. -/
def checkItems : List Value → Except Failure Unit
  | [] => .ok ()
  | v :: rest => do
    checkValue v
    checkItems rest

/-- Checks the members of an object, from the first on. -/
def checkMembers : List (String × Value) → Except Failure Unit
  | [] => .ok ()
  | (_, v) :: rest => do
    checkValue v
    checkMembers rest

end

/-- The name that a value is. -/
def nameOf (v : Value) : Except Failure String :=
  match v with
  | .text s => .ok s
  | _ => .error (.query .notName)

/-- The first characters of a text. -/
def preview (s : String) : String :=
  String.ofList (s.toList.take previewLength)

/-- Sends the request for the manifest of a table, and looks at the answer. -/
def ask (c : Client) (server : Server) (share schema table : String) (body : Value)
    (authorization : String) : Run Manifest := do
  -- this is the one request that asks about the table
  Run.emit (.request (.post (c.queryUrl share schema table) body authorization))
  match server.query with
  | .failed reason => do
    Run.log .error ("Sharing server request failed: " ++ reason)
    Run.fail (.catalog (.unreachable reason))
  | .answered status payload =>
    -- no other status counts as success, whatever the body is
    if status = successStatus then do
      let manifest ← Run.ofExcept (Manifest.read payload.text)
      Run.log .debug ("Table " ++ share ++ "." ++ schema ++ "." ++ table ++
        " resolved to " ++ natText manifest.files.length ++ " files")
      return manifest
    else do
      Run.log .error ("Sharing server API error: status=" ++ natText status ++ " body=" ++
        preview payload.text)
      Run.fail (.catalog (.rejected status payload.text))

/-- Asks for the manifest of a table. -/
def queryTable (c : Client) (server : Server) (share schema table limit predicates : Value) :
    Run Manifest := do
  -- nothing is sent before all parts of the request are known to be usable
  let body ← Run.ofExcept (queryBody limit predicates)
  let shareName ← Run.ofExcept (nameOf share)
  let schemaName ← Run.ofExcept (nameOf schema)
  let tableName ← Run.ofExcept (nameOf table)
  let authorization ← Run.ofExcept c.authorization
  Run.ofExcept (checkValue body)
  c.ask server shareName schemaName tableName body authorization

/-- Downloads a file. -/
def fetch (server : Server) (url : String) : Run Payload := do
  Run.emit (.request (.get url))
  match server.file url with
  | .failed reason => Run.fail (.transport ⟨url, reason⟩)
  | .answered status payload =>
    if status = successStatus then return payload
    else do
      Run.log .error ("Failed to download data file: status=" ++ natText status ++ " preview=" ++
        Text.quoteBytes (payload.content.take previewLength))
      Run.fail (.transport ⟨url, "status=" ++ natText status⟩)

end Client

end SharedTables
