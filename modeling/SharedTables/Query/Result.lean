import SharedTables.Table.Filter
import SharedTables.Table.Group
import SharedTables.Table.Join
import SharedTables.Table.Search
import SharedTables.Table.Total

/-!
# Results

A `QueryResult` is a table together with the number of files that gave rows and the number of files
that were looked at.  Filtering and searching a result keep these numbers, joining two results adds
them.
-/

namespace SharedTables

/-- The result of a query. -/
structure QueryResult where
  table : Table
  filesProcessed : Int
  totalFiles : Int
deriving Inhabited

namespace QueryResult

/-- A result without rows and files. -/
def empty (columns : List String) : QueryResult :=
  ⟨Table.empty columns, 0, 0⟩

/-- The rows that pass every predicate, all of which have to be usable. -/
def filter (r : QueryResult) (predicates : List Value) : Except Failure QueryResult :=
  (r.table.filterStrict predicates).map fun t => { r with table := t }

/-- The rows in which one of the columns holds a text. -/
def search (r : QueryResult) (text : String) (columns : List String) : Run QueryResult := do
  let t ← r.table.search text columns
  return { r with table := t }

/-- The rows of two results, joined; the columns and the kind of the join come from outside. -/
def joinOn (left right : QueryResult) (on kind : Value) : Except Failure QueryResult :=
  (Table.joinOn left.table right.table on kind).map fun t =>
    -- both sides have been fetched
    ⟨t, left.filesProcessed + right.filesProcessed, left.totalFiles + right.totalFiles⟩

/-- The groups of rows by a column. -/
def groups (r : QueryResult) (column : String) : Except Failure (List Group) :=
  r.table.groups column

/-- The total of a column. -/
def total (r : QueryResult) (column : String) : Except Failure Total :=
  r.table.total column

end QueryResult

end SharedTables
