import SharedTables.Run
import SharedTables.Table.Basic
import SharedTables.Table.TextForm
import SharedTables.Text.Lowercase
import SharedTables.Text.Substring

/-!
# Searching for a text

`Table.search` keeps the rows in which the text of one of the given columns holds the text that is
searched for, in small letters on both sides.  Columns that the table lacks do not count; columns
whose cells have no texts are passed over with a message.
-/

namespace SharedTables

namespace Table

/-- Whether the text of a cell holds a text that is given in small letters. -/
def cellMatches (needle : String) (type : DataType) (cell : Cell) : Bool :=
  match cell.text? type with
  | some text => Text.occursIn needle.toList (Text.lowercase text).toList
  | none => false

/-- The columns among the given ones whose cells have texts; of the others, those that the table has
leave a message. -/
def searchable (t : Table) : List String → Run (List String)
  | [] => pure []
  | name :: rest =>
    match t.typeOf? name with
    | none => t.searchable rest
    | some type =>
      if type.textForm = .absent then do
        Run.log .warning ("Skipping column " ++ name ++ " of type " ++ type.name ++
          " in text search")
        t.searchable rest
      else do
        let names ← t.searchable rest
        return name :: names

/-- Whether one of the columns of a row holds a text that is given in small letters. -/
def rowMatches (t : Table) (needle : String) (names : List String) (row : Row) : Bool :=
  names.any fun name =>
    match t.indexOf? name, t.typeOf? name with
    | some place, some type => cellMatches needle type (Row.cell row place)
    | _, _ => false

/-- The rows in which one of the columns holds the text.  The empty text keeps every row. -/
def search (t : Table) (text : String) (names : List String) : Run Table :=
  if text.isEmpty then pure t
  -- before any column is looked at
  else if !names.any t.hasColumn then Run.fail (.search (.noMatchingColumns names))
  else do
    let found ← t.searchable names
    -- of the columns that are left, one kind has no text at all
    let undefined := found.any fun name => (t.typeOf? name).any fun type =>
      type.textForm == .undefined
    if undefined then Run.fail (.search .notSearchable)
    else return t.filterRows (t.rowMatches (Text.lowercase text) found)

end Table

end SharedTables
