import SharedTables.Failure

/-!
# Queries

A `Query` names a table and says which of its columns and rows are wanted.  It is built step by
step; a step that is not possible leaves the query as it was.  What a query is made of is checked as
far as it has to be: the table has to be given, and a limit has to be a positive number.  Otherwise
values are kept as they were given, since the server gets to see them.
-/

namespace SharedTables

/-- A query for the rows of a table. -/
structure Query where
  table : Value
  /-- The columns that are wanted; all if there is no such list. -/
  columns : Option (List Value)
  filters : List Value
  /-- How many rows are wanted; null if the number does not matter. -/
  limit : Value
deriving Inhabited

namespace Query

/-- The elements of a value that has to be a sequence. -/
def sequence (v : Value) : Except Failure (List Value) :=
  match v.elements? with
  | some elements => .ok elements
  | none => .error (.query .notSequence)

/-- The columns that a value lists; null lists none. -/
def columnList (v : Value) : Except Failure (Option (List Value)) :=
  match v with
  | .null => .ok none
  | _ => (sequence v).map some

/-- Checks a limit: it is null or stands for a positive integer. -/
def checkLimit (limit : Value) : Except Failure Unit :=
  match limit with
  | .null => .ok ()
  | _ =>
    match limit.toInteger with
    | .error e => .error (.number e)
    | .ok n =>
      if n ≤ 0 then
        -- as for a number of workers, the message may be too long to be written
        .error (if limit.hasText then .query (.limitNotPositive limit) else .number .tooLongToWrite)
      else .ok ()

/-- Checks that a table is given. -/
def checkTable (table : Value) : Except Failure Unit :=
  -- any value that is something may name the table
  if table.isSet then .ok () else .error (.query .tableRequired)

/-- Builds a query; the table is checked first, the limit last. -/
def create (table columns filters limit : Value) : Except Failure Query := do
  checkTable table
  let columns ← columnList columns
  let filters ← sequence filters
  checkLimit limit
  return ⟨table, columns, filters, limit⟩

/-- Builds a query; the lists are looked at first. -/
def ofArguments (table columns filters limit : Value) : Except Failure Query := do
  let columns ← columnList columns
  let filters ← sequence filters
  checkTable table
  checkLimit limit
  return ⟨table, columns, filters, limit⟩

/-- Asks for rows that pass a further filter. -/
def addFilter (q : Query) (filter : Value) : Query :=
  { q with filters := q.filters ++ [filter] }

/-- Asks for certain columns instead of those asked for before. -/
def select (q : Query) (columns : Value) : Except Failure Query :=
  (sequence columns).map fun cs => { q with columns := some cs }

/-- Asks for a number of rows instead of that asked for before. -/
def withLimit (q : Query) (limit : Value) : Except Failure Query :=
  (checkLimit limit).map fun _ => { q with limit := limit }

/-- The names of the columns that are wanted. -/
def columnNames (q : Query) : Option (List String) :=
  q.columns.map fun cs => cs.map Value.display

end Query

end SharedTables
