import SharedTables.Failure
import SharedTables.Table.Basic
import SharedTables.Table.Cast
import SharedTables.Table.Supertype

/-!
# Joins

A join pairs the rows of two tables whose keys are the same; a null in a key is the same as nothing.
`JoinKind` says what becomes of rows without a partner: a kind that keeps a side lists such a row of
that side with nulls for the other.  A cross join pairs every row with every other.

The columns of a result are the columns of the left table followed by those of the right that are no
keys; a join that keeps the right side alone takes the keys from there.  A column of the right table
whose name is taken has `_right` added to it.

* `JoinKind.ofName?_name`  a kind is known by its name
-/

namespace SharedTables

/-- What becomes of rows without a partner. -/
inductive JoinKind where
  | inner
  | left
  | right
  | outer
  | cross
deriving DecidableEq, Repr

namespace JoinKind

/-- The name of a kind. -/
def name : JoinKind → String
  | inner => "inner"
  | left => "left"
  | right => "right"
  | outer => "outer"
  | cross => "cross"

/-- All kinds. -/
def all : List JoinKind := [inner, left, right, outer, cross]

/-- The kind of a name. -/
def ofName? (s : String) : Option JoinKind :=
  all.find? fun kind => kind.name == s

@[simp] theorem ofName?_name (kind : JoinKind) : ofName? kind.name = some kind := by
  cases kind <;> decide

/-- The kind that a value names. -/
def ofValue (v : Value) : Except Failure JoinKind :=
  match v with
  | .text s =>
    match ofName? s with
    | some kind => .ok kind
    | none => .error (.join (.unknownKind v))
  | _ => .error (.join (.unknownKind v))

/-- Whether left rows without a partner are kept. -/
def keepsLeft : JoinKind → Bool
  | left => true
  | outer => true
  | _ => false

/-- Whether right rows without a partner are kept. -/
def keepsRight : JoinKind → Bool
  | right => true
  | outer => true
  | _ => false

end JoinKind

/-- Where a column of a join comes from. -/
inductive JoinSource where
  | left (i : Nat)
  | right (j : Nat)
  /-- A key: from the left row if there is one. -/
  | key (i j : Nat)
deriving DecidableEq, Repr

/-- The cell of a column of a join. -/
def JoinSource.cell (pair : Option Row × Option Row) : JoinSource → Cell
  | .left i => (pair.1.map fun row => Row.cell row i).getD .null
  | .right j => (pair.2.map fun row => Row.cell row j).getD .null
  | .key i j =>
    match pair.1 with
    | some row => Row.cell row i
    | none => (pair.2.map fun row => Row.cell row j).getD .null

namespace Table

/-- Whether two rows have the same keys, none of which is null; `places` has the place of each key
in either table. -/
def sameKeys (places : List (Nat × Nat)) (a b : Row) : Bool :=
  places.all fun (i, j) => !(Row.cell a i).isNull && (Row.cell a i).agrees (Row.cell b j)

/-- The pairs of rows that a join lists. -/
def pairs (kind : JoinKind) (same : Row → Row → Bool) (left right : List Row) :
    List (Option Row × Option Row) :=
  -- the left rows decide on the order
  let matched := left.flatMap fun a =>
    let partners := right.filter (same a)
    if partners.isEmpty && kind.keepsLeft then [(some a, none)]
    else partners.map fun b => (some a, some b)
  let unmatched := if kind.keepsRight then
      (right.filter fun b => !left.any fun a => same a b).map fun b => (none, some b)
    else []
  matched ++ unmatched

/-- The table with every key column that has no type given a type: that of the other table, or
integers if neither has one. -/
def typeKeys (t other : Table) (on : List String) : Table :=
  let typed := fun (c : Column) =>
    if on.contains c.name && decide (c.type = .null) then
      match other.typeOf? c.name with
      | some .null => { c with type := .int64 }
      | some type => { c with type := type }
      | none => c
    else c
  { t with columns := t.columns.map typed }

/-- Whether keys of two types can be the same. -/
def comparableKeys (a b : DataType) : Bool :=
  match a, b with
  | .int .., .int .. => true
  | _, _ => decide (a = b)

/-- The type of a key column of the result. -/
def keyType (kind : JoinKind) (a b : DataType) : DataType :=
  match kind with
  | .right => b
  | .outer => (DataType.unify? a b).getD a
  | _ => a

/-- The columns of a table with their places. -/
def placed (t : Table) : List (Column × Nat) :=
  t.columns.zipIdx

/-- The columns of a join that come from the left table. -/
def leftColumns (kind : JoinKind) (left right : Table) (on : List String) :
    List (Column × JoinSource) :=
  let isKey := fun (c : Column) => kind != .cross && on.contains c.name
  -- if the right side alone is kept, it gives the keys
  let kept := if kind = .right then left.placed.filter (fun (c, _) => !isKey c) else left.placed
  kept.map fun (c, i) =>
    match isKey c, right.indexOf? c.name, right.typeOf? c.name with
    | true, some j, some type => ({ c with type := keyType kind c.type type }, .key i j)
    | _, _, _ => (c, .left i)

/-- The columns of a join that come from the right table. -/
def rightColumns (kind : JoinKind) (taken : List String) (right : Table) (on : List String) :
    List (Column × JoinSource) :=
  let isKey := fun (c : Column) => kind != .cross && kind != .right && on.contains c.name
  (right.placed.filter fun (c, _) => !isKey c).map fun (c, j) =>
    -- a name that is taken twice is found out later
    (if taken.contains c.name then { c with name := c.name ++ "_right" } else c, .right j)

/-- Joins two tables whose keys are all comparable. -/
def joinTyped (kind : JoinKind) (left right : Table) (on : List String) : Except TableError Table :=
  let fromLeft := leftColumns kind left right on
  let fromRight := rightColumns kind (fromLeft.map fun c => c.1.name) right on
  let sources := fromLeft ++ fromRight
  let columns := sources.map (·.1)
  let names := columns.map (·.name)
  -- the added ending may itself make a name that is taken
  if distinct names != names then .error .duplicateColumn
  else
    let places := on.filterMap fun name =>
      match left.indexOf? name, right.indexOf? name with
      | some i, some j => some (i, j)
      | _, _ => none
    let same := if kind = .cross then fun _ _ => true else sameKeys places
    .ok ⟨columns, (pairs kind same left.rows right.rows).map fun p =>
      sources.map fun s => s.2.cell p⟩

/-- Joins two tables on the columns `on`, which a cross join does not look at. -/
def join (kind : JoinKind) (left right : Table) (on : List String) : Except Failure Table :=
  if kind = .cross then (joinTyped kind left right []).mapError .table
  else if on.isEmpty then .error (.join (.noKeys kind.name))
  else
    match on.find? fun name => !(left.hasColumn name && right.hasColumn name) with
    | some name => .error (.filter (.unknownColumn name))
    | none =>
      -- a key column without values takes the type of the other side
      let left' := typeKeys left right on
      let right' := typeKeys right left on
      let comparable := on.all fun name =>
        match left'.typeOf? name, right'.typeOf? name with
        | some a, some b => comparableKeys a b
        | _, _ => false
      if distinct on != on then .error (.table .invalidOperation)
      else if !comparable then .error (.table .typeMismatch)
      else (joinTyped kind left' right' on).mapError .table

/-- The names that a value lists: a text is one name, null and what is empty none. -/
def keyNames : Value → List String
  | .text s => [s]
  | .list items => items.map Value.display
  | _ => []

/-- Joins two tables; the columns and the kind are values that come from outside. -/
def joinOn (left right : Table) (on kind : Value) : Except Failure Table := do
  let kind ← JoinKind.ofValue kind
  join kind left right (keyNames on)

end Table

end SharedTables
