import SharedTables.Failure
import SharedTables.Table.Basic
import SharedTables.Text.Utf8

/-!
# The other side

A `Server` answers the query for a table and the downloads of files.  How tables are stored in files
is not looked into: the content of a file is the table that it holds, or bytes that hold none.
-/

namespace SharedTables

/-- What an answer or a file consists of. -/
inductive Payload where
  | bytes (content : List UInt8)
  /-- A file that holds a table. -/
  | table (t : Table)

namespace Payload

/-- The first bytes of a file that holds a table. -/
def tableMark : List UInt8 := [0x50, 0x41, 0x52, 0x31]

/-- The bytes of a payload, as far as they are looked at. -/
def content : Payload → List UInt8
  | bytes content => content
  | table _ => tableMark

/-- The payload as a text. -/
def text (p : Payload) : String :=
  String.ofList (Text.Utf8.decode p.content)

/-- The payload whose bytes are those of a text. -/
def ofText (s : String) : Payload :=
  bytes (Text.Utf8.encode s.toList)

/-- The table that a payload holds. -/
def decode : Payload → Except DecodeError Table
  | bytes [] => .error .emptyPayload
  | bytes (_ :: _) => .error .notTable
  | table t => .ok t

end Payload

/-- What becomes of a request. -/
inductive Response where
  /-- There is no answer, for the given reason. -/
  | failed (reason : String)
  | answered (status : Nat) (payload : Payload)

/-- The status of an answer that brings what was asked for. -/
def successStatus : Nat := 200

/-- The status of an answer that says that there is nothing. -/
def missingStatus : Nat := 404

/-- The answer to a request for what does not exist. -/
def Response.missing : Response := .answered missingStatus (.bytes [])

/-- A server: its answer to the query for a table, and its answer for the location of a file. -/
structure Server where
  query : Response
  file : String → Response

/-- A server that cannot be reached, for the given reason. -/
def Server.unreachable (reason : String) : Server :=
  { query := .failed reason
    file := fun _ => .failed reason }

end SharedTables
