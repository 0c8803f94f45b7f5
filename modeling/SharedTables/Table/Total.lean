import SharedTables.Failure
import SharedTables.Table.Basic

/-!
# Totals

`Table.total` adds up the cells of a column that are not null.  Integers of up to 16 bits are added
with 64 bits and wider ones with their own width, beyond which a total wraps around; floating-point
numbers are added from first to last, with rounding after each; truth values count what is true.  A
column that the table lacks has the total zero.
-/

namespace SharedTables

/-- The total of a column. -/
inductive Total where
  | integer (n : Int)
  | float (x : Binary)
  | decimal (scale : Nat) (units : Int)
  | duration (microseconds : Int)
deriving DecidableEq, Repr

namespace Total

/-- The integer of the given width that differs from `n` by a multiple of the number of all. -/
def wrap (signed : Bool) (bits : Nat) (n : Int) : Int :=
  if signed then n.bmod (Nat.pow 2 bits) else n % (Nat.pow 2 bits : Nat)

/-- The integers among cells. -/
def integers (cells : List Cell) : List Int :=
  cells.filterMap fun c =>
    match c with
    | .int n => some n
    | .decimal units => some units
    | .duration ticks => some ticks
    | .bool true => some 1
    | _ => none

/-- The floating-point numbers among cells. -/
def floats (cells : List Cell) : List Binary :=
  cells.filterMap fun c =>
    match c with
    | .float x => some x
    | _ => none

/-- The total of cells of a type, if they have one. -/
def ofCells? (type : DataType) (cells : List Cell) : Option Total :=
  -- integers are added without bounds and wrapped once, which is the same
  let sum := (integers cells).foldl (· + ·) 0
  let add := fun (f : Binary.Format) => (floats cells).foldl f.add (f.zero false)
  match type with
  | .int signed bits =>
    some (.integer (if bits ≤ 16 then wrap true 64 sum else wrap signed bits sum))
  | .boolean => some (.integer sum)
  | .float32 => some (.float (add Binary.single))
  | .float64 => some (.float (add Binary.double))
  | .decimal _ scale => some (.decimal scale sum)
  | .duration unit => some (.duration (unit.convert .micro (wrap true 64 sum)))
  | .null => some (.integer 0)
  | _ => none

end Total

/-- The total of a column; zero if the table lacks it. -/
def Table.total (t : Table) (column : String) : Except Failure Total :=
  match t.indexOf? column, t.typeOf? column with
  | some place, some type =>
    match Total.ofCells? type (t.cells place) with
    | some total => .ok total
    | none => .error (.table .invalidOperation)
  | _, _ => .ok (.integer 0)

end SharedTables
