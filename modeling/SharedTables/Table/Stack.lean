import SharedTables.Run
import SharedTables.Table.Basic
import SharedTables.Table.Cast
import SharedTables.Table.Supertype

/-!
# Stacking tables

`Table.stack` puts tables below each other on the columns that all of them have, in the order of the
first table.  A column takes the common type of its types.  Where there is none it becomes a column
of texts in every table, or is left out if its cells have no texts; a message tells which.

* `Table.mem_common_iff`  the common columns are those that every table has
-/

namespace SharedTables

namespace Table

/-- The columns that all tables have, in the order of the first. -/
def common : List Table → List String
  | [] => []
  -- the first table decides on the order
  | t :: rest => t.names.filter fun name => rest.all fun u => u.hasColumn name

theorem mem_common_iff {t : Table} {rest : List Table} {name : String} :
    name ∈ common (t :: rest) ↔ ∀ u ∈ t :: rest, name ∈ u.names := by
  simp [common, mem_names_iff]

/-- The columns that some table lacks. -/
def unshared (tables : List Table) : List String :=
  let shared := common tables
  (distinct (tables.flatMap names)).filter fun name => !shared.contains name

/-- The table with its cells cast to the given types, one for each column. -/
def castTo (t : Table) (types : List DataType) : Table :=
  { columns := (t.columns.zip types).map fun (c, type) => { c with type := type }
    rows := t.rows.map fun row =>
      ((t.columns.zip types).zip row).map fun ((c, type), cell) => cell.cast c.type type }

/-- The types of a column in the tables that have it. -/
def typesOf (tables : List Table) (name : String) : List DataType :=
  tables.filterMap fun t => t.typeOf? name

/-- The common types of the columns of tables that have the same columns. -/
def unifiedTypes? (tables : List Table) (names : List String) : Option (List DataType) :=
  names.mapM fun name => DataType.unifyAll? (typesOf tables name)

/-- Stacks tables that have the same columns, if every column has a common type. -/
def stackAligned? : List Table → Option Table
  | [] => none
  | t :: rest => do
    let types ← unifiedTypes? (t :: rest) t.names
    let parts := (t :: rest).map fun u => u.castTo types
    return ⟨(t.castTo types).columns, parts.flatMap (·.rows)⟩

/-- The table with the cells of one column replaced by their texts. -/
def withTextColumn (t : Table) (name : String) : Table :=
  { columns := t.columns.map fun c => if c.name = name then { c with type := .string } else c
    rows := t.rows.map fun row =>
      (t.columns.zip row).map fun (c, cell) =>
        if c.name = name then (cell.text? c.type).elim .null .text else cell }

/-- The table without one of its columns. -/
def withoutColumn (t : Table) (name : String) : Table :=
  t.select (t.names.filter fun n => n != name)

/-- The names of types in order, each once. -/
def typeLabels (types : List DataType) : List String :=
  (distinct (types.map DataType.name)).mergeSort fun a b => decide (a ≤ b)

/-- Makes sure that a column has a common type, or leaves it out. -/
def settleColumn (tables : List Table) (name : String) : Run (List Table) :=
  let types := typesOf tables name
  if (DataType.unifyAll? types).isSome then pure tables
  else
    let found := ": incompatible types across files " ++ Text.quoteList (typeLabels types)
    -- one table without texts is enough to lose the column
    if types.any fun type => type.textForm == .absent then do
      Run.log .warning ("Dropping column " ++ name ++ found)
      return tables.map fun t => t.withoutColumn name
    else do
      Run.log .warning ("Casting column " ++ name ++ " to text" ++ found)
      if types.any fun type => type.textForm == .undefined then
        Run.fail (.table .invalidOperation)
      else return tables.map fun t => t.withTextColumn name

/-- Makes sure that each of the columns has a common type, or leaves it out. -/
def settle (tables : List Table) : List String → Run (List Table)
  | [] => pure tables
  | name :: rest => do
    let settled ← settleColumn tables name
    settle settled rest

/-- Stacks tables on their common columns.  Without any table the result has the requested columns
and no rows. -/
def stack (tables : List Table) (requested : List String) : Run Table :=
  match tables with
  | [] => pure (empty requested)
  -- one table keeps all of its columns
  | [t] => pure t
  | _ => do
    let shared := common tables
    let dropped := unshared tables
    if !dropped.isEmpty then
      Run.log .debug ("Dropping columns not shared by all files: " ++
        Text.quoteList (dropped.mergeSort fun a b => decide (a ≤ b)))
    let projected := tables.map fun t => t.select shared
    match stackAligned? projected with
    | some t => return t
    | none => do
      -- some column has no common type: each is looked at by itself
      let settled ← settle projected shared
      match stackAligned? settled with
      | some t => return t
      | none => Run.fail (.table .typeMismatch)

end Table

end SharedTables
