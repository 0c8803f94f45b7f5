import SharedTables.Failure
import SharedTables.Table.Basic
import SharedTables.Table.TextForm

/-!
# Comma-separated values

A table is written as one line of names and one line per row.  Null is written as nothing.  A text
is put in quotes if it is empty or holds a comma, a quote or a line end, and quotes in it are
doubled.  Values that hold further values have no written form, and neither have bytes.
-/

namespace SharedTables

namespace Csv

/-- Whether a text can be written without quotes. -/
def isBare (cs : List Char) : Bool :=
  !cs.isEmpty && !cs.any fun c => c == ',' || c == '"' || c == '\n' || c == '\r'

/-- The characters of a text between its quotes. -/
def doubleQuotes : List Char → List Char
  | [] => []
  | c :: rest => if c = '"' then '"' :: '"' :: doubleQuotes rest else c :: doubleQuotes rest

/-- A text as a field of a line. -/
def field (cs : List Char) : List Char :=
  if isBare cs then cs else '"' :: doubleQuotes cs ++ ['"']

/-- A text as a field. -/
def textField (s : String) : String :=
  String.ofList (field s.toList)

/-- A cell as a field. -/
def cellField (type : DataType) (cell : Cell) : String :=
  match cell with
  | .null => ""
  | .text s => textField s
  | .time nanoseconds =>
    Moment.clockText (instantOf .nano nanoseconds) ++ "." ++ fractionText .nano nanoseconds
  | .datetime ticks =>
    match type with
    | .datetime unit zone => momentText unit zone "T" "" ticks
    | _ => cell.plainText type
  | _ => cell.plainText type

/-- Fields as a line. -/
def line (fields : List String) : String :=
  String.intercalate "," fields ++ "\n"

end Csv

/-- The table as lines of fields. -/
def Table.toCsv (t : Table) : Except Failure String :=
  -- the types alone decide, whether there are such values or not
  if t.columns.any fun c => c.type.isNested || c.type = .binary then
    .error (.table .notRepresentable)
  else
    let rows := t.rows.map fun row =>
      Csv.line ((t.columns.zip row).map fun (c, cell) => Csv.cellField c.type cell)
    .ok (String.join (Csv.line (t.columns.map fun c => Csv.textField c.name) :: rows))

end SharedTables
