import SharedTables.Number.Binary

/-!
# Cells

A cell holds null or a value in the sense of its column's type: dates count days and points in time
count units of their column since the start of 1970, in universal time if the column has a time
zone; times of day count nanoseconds since midnight, durations count units of their column, and
decimals count units of the last place that their column keeps.

* `Cell.agrees`   the equality of keys: both zeros are one key, and so is "not a number"
* `Cell.compare`  the order of listings: null first, "not a number" last
-/

namespace SharedTables

/-- A cell of a table. -/
inductive Cell where
  | null
  | int (n : Int)
  | float (x : Binary)
  | text (s : String)
  | bool (b : Bool)
  | date (days : Int)
  | time (nanoseconds : Int)
  | datetime (ticks : Int)
  | duration (ticks : Int)
  | decimal (units : Int)
  | binary (bytes : List UInt8)
  | list (items : List Cell)
  | struct (fields : List Cell)
deriving Repr, Inhabited

namespace Cell

/-- Whether the cell holds no value. -/
def isNull : Cell → Bool
  | null => true
  | _ => false

mutual

/-- Whether two cells are the same key. -/
def agrees : Cell → Cell → Bool
  | null, null => true
  | int m, int n => m == n
  | float x, float y => Binary.compareTotal x y == .eq
  | text s, text t => s == t
  | bool b, bool c => b == c
  | date d, date e => d == e
  | time s, time t => s == t
  | datetime s, datetime t => s == t
  | duration s, duration t => s == t
  | decimal m, decimal n => m == n
  | binary bs, binary cs => bs == cs
  | list xs, list ys => agreesAll xs ys
  | struct xs, struct ys => agreesAll xs ys
  | _, _ => false

/-- Whether two rows of cells are the same key. -/
def agreesAll : List Cell → List Cell → Bool
  | [], [] => true
  | x :: xs, y :: ys => agrees x y && agreesAll xs ys
  | _, _ => false

end

/-- The place of a kind of cell in listings; cells of one column differ only if one is null. -/
def rank : Cell → Nat
  | null => 0
  | bool _ => 1
  | int _ => 2
  | float _ => 3
  | decimal _ => 4
  | text _ => 5
  | binary _ => 6
  | date _ => 7
  | time _ => 8
  | datetime _ => 9
  | duration _ => 10
  | list _ => 11
  | struct _ => 12

mutual

/-- The order of cells in listings. -/
def compare : Cell → Cell → Ordering
  | int m, int n => Ord.compare m n
  | float x, float y => Binary.compareTotal x y
  | text s, text t => Ord.compare s t
  | bool b, bool c => Ord.compare b.toNat c.toNat
  | date d, date e => Ord.compare d e
  | time s, time t => Ord.compare s t
  | datetime s, datetime t => Ord.compare s t
  | duration s, duration t => Ord.compare s t
  | decimal m, decimal n => Ord.compare m n
  | binary bs, binary cs => Ord.compare bs cs
  | list xs, list ys => compareAll xs ys
  | struct xs, struct ys => compareAll xs ys
  | x, y => Ord.compare x.rank y.rank

/-- The order of rows: the first cells that differ decide. -/
def compareAll : List Cell → List Cell → Ordering
  | [], [] => .eq
  | [], _ :: _ => .lt
  | _ :: _, [] => .gt
  | x :: xs, y :: ys => (compare x y).then (compareAll xs ys)

end

end Cell

end SharedTables
