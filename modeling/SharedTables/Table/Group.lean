import SharedTables.Failure
import SharedTables.Table.Basic

/-!
# Groups

The rows of a table fall into groups by the cells of one column.  Null is one group, and so is "not
a number"; both zeros are the same.  Groups are listed by their size, the largest first, and groups
of one size in the order in which they first come up.
-/

namespace SharedTables

/-- A value of a column and how many rows have it. -/
structure Group where
  value : Cell
  count : Nat
deriving Repr, Inhabited

namespace Cell

/-- The first occurrence of every cell, in order. -/
def firsts (cells : List Cell) : List Cell :=
  cells.foldl (fun seen c => if seen.any (agrees c) then seen else seen ++ [c]) []

end Cell

namespace Group

/-- The groups of a list of cells, in the order in which they first come up. -/
def ofCells (cells : List Cell) : List Group :=
  (Cell.firsts cells).map fun c => ⟨c, cells.countP fun d => d.agrees c⟩

/-- The groups by size, the largest first. -/
def ranked (groups : List Group) : List Group :=
  -- the sort is stable, so groups of one size keep their order
  groups.mergeSort fun a b => decide (b.count ≤ a.count)

/-- Ranking lists the same groups. -/
theorem ranked_perm (groups : List Group) : (ranked groups).Perm groups :=
  List.mergeSort_perm groups _

end Group

/-- The groups of the rows of a table by one of its columns. -/
def Table.groups (t : Table) (column : String) : Except Failure (List Group) :=
  match t.indexOf? column with
  | none => .error (.filter (.unknownColumn column))
  | some place => .ok (Group.ranked (Group.ofCells (t.cells place)))

end SharedTables
