import SharedTables.Table.Cell
import SharedTables.Table.DataType

/-!
# Tables

A table has named and typed columns and rows of as many cells.  A table without columns has no rows
either, which `Table.project` sees to.

* `Table.mem_names_iff`      a column is among the names iff it has a type
* `Table.filterRows_filterRows`  keeping rows twice keeps those that pass both tests
-/

namespace SharedTables

/-- The name and type of a column. -/
structure Column where
  name : String
  type : DataType
deriving DecidableEq, Repr, Inhabited

/-- The cells of one row, in the order of the columns. -/
abbrev Row := List Cell

/-- The cell of a column; null outside of the row. -/
def Row.cell (row : Row) (i : Nat) : Cell :=
  row.getD i .null

/-- A table. -/
structure Table where
  columns : List Column
  rows : List Row
deriving Repr, Inhabited

namespace Table

/-- The names of the columns. -/
def names (t : Table) : List String :=
  t.columns.map (·.name)

/-- The number of rows. -/
def height (t : Table) : Nat :=
  t.rows.length

/-- The place of a column. -/
def indexOf? (t : Table) (name : String) : Option Nat :=
  t.columns.findIdx? fun c => c.name == name

/-- The column of a name. -/
def column? (t : Table) (name : String) : Option Column :=
  t.columns.find? fun c => c.name == name

/-- The type of a column. -/
def typeOf? (t : Table) (name : String) : Option DataType :=
  (t.column? name).map (·.type)

/-- Whether the table has a column of that name. -/
def hasColumn (t : Table) (name : String) : Bool :=
  (t.column? name).isSome

theorem mem_names_iff {t : Table} {name : String} : name ∈ t.names ↔ t.hasColumn name = true := by
  simp [names, hasColumn, column?, List.find?_isSome]

/-- The cells of the column at a place. -/
def cells (t : Table) (i : Nat) : List Cell :=
  t.rows.map fun row => Row.cell row i

/-- The table with the rows that pass a test. -/
def filterRows (t : Table) (keep : Row → Bool) : Table :=
  { t with rows := t.rows.filter keep }

@[simp] theorem columns_filterRows (t : Table) (keep : Row → Bool) :
    (t.filterRows keep).columns = t.columns := rfl

theorem filterRows_filterRows (t : Table) (p q : Row → Bool) :
    (t.filterRows p).filterRows q = t.filterRows fun row => q row && p row := by
  simp [filterRows, List.filter_filter]

/-- The columns at the given places, in that order. -/
def project (t : Table) (places : List Nat) : Table :=
  { columns := places.filterMap fun i => t.columns[i]?
    rows :=
      -- without columns nothing would tell how many rows there are
      if places.isEmpty then [] else t.rows.map fun row => places.map fun i => Row.cell row i }

/-- The columns of the given names, in that order; names that the table lacks are passed over. -/
def select (t : Table) (names : List String) : Table :=
  t.project (names.filterMap t.indexOf?)

/-- The first occurrences in a list. -/
def distinct (names : List String) : List String :=
  names.foldl (fun acc n => if acc.contains n then acc else acc ++ [n]) []

/-- A table without rows whose columns have no type yet. -/
def empty (names : List String) : Table :=
  { columns := (distinct names).map fun n => ⟨n, .null⟩
    rows := [] }

/-- The rows in the order of listings. -/
def sortRows (t : Table) : Table :=
  { t with rows := t.rows.mergeSort fun a b => Cell.compareAll a b != .gt }

end Table

end SharedTables
