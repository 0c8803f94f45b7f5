import SharedTables.Calendar.Zone
import SharedTables.Number.Style
import SharedTables.Text.Quoted

/-!
# Types of columns

Every column of a table has a `DataType`.  Types can be compared for equality (`DataType.same`,
which `same_iff` shows to be equality) and are named in messages and listings (`DataType.name`).

Counts of time are in milliseconds, microseconds or nanoseconds; `TimeUnit.convert` goes from one
unit to another and cuts off toward the past.
-/

namespace SharedTables

/-- The unit in which a column counts time. -/
inductive TimeUnit where
  | milli
  | micro
  | nano
deriving DecidableEq, Repr

namespace TimeUnit

/-- How many nanoseconds a unit has. -/
def nanoseconds : TimeUnit → Int
  | milli => 1000000
  | micro => 1000
  | nano => 1

/-- How many digits the fraction of a second has in a unit. -/
def digits : TimeUnit → Nat
  | milli => 3
  | micro => 6
  | nano => 9

/-- The short name of a unit. -/
def name : TimeUnit → String
  | milli => "ms"
  | micro => "us"
  | nano => "ns"

/-- The longer of two units. -/
def coarser (u v : TimeUnit) : TimeUnit :=
  -- the one that counts more nanoseconds
  if u.nanoseconds < v.nanoseconds then v else u

/-- The whole units of the target up to a count of units of the source. -/
def convert (source target : TimeUnit) (count : Int) : Int :=
  count * source.nanoseconds / target.nanoseconds

theorem nanoseconds_pos (unit : TimeUnit) : 0 < unit.nanoseconds := by
  cases unit <;> decide

@[simp] theorem convert_self (unit : TimeUnit) (count : Int) : convert unit unit count = count :=
  Int.mul_ediv_cancel _ (Int.ne_of_gt unit.nanoseconds_pos)

end TimeUnit

/-- The type of a column.  Points in time either have a time zone or are readings of a clock of no
place in particular. -/
inductive DataType where
  | int (signed : Bool) (bits : Nat)
  | float32
  | float64
  | string
  | categorical
  | enum (categories : List String)
  | boolean
  | null
  | date
  | time
  | datetime (unit : TimeUnit) (zone : Option Zone)
  | duration (unit : TimeUnit)
  | decimal (precision scale : Nat)
  | binary
  | list (item : DataType)
  | array (item : DataType) (width : Nat)
  | struct (fields : List (String × DataType))
deriving Repr, Inhabited

namespace DataType

/-- Integers of 64 bits. -/
abbrev int64 : DataType := int true 64

mutual

/-- Whether two types are the same. -/
def same : DataType → DataType → Bool
  | int s b, int t c => s == t && b == c
  | float32, float32 => true
  | float64, float64 => true
  | string, string => true
  | categorical, categorical => true
  | enum xs, enum ys => xs == ys
  | boolean, boolean => true
  | null, null => true
  | date, date => true
  | time, time => true
  | datetime u z, datetime v w => u == v && z == w
  | duration u, duration v => u == v
  | decimal p s, decimal q t => p == q && s == t
  | binary, binary => true
  | list a, list b => same a b
  | array a n, array b m => same a b && n == m
  | struct fs, struct gs => sameFields fs gs
  | _, _ => false

/-- Whether two lists of fields are the same. -/
def sameFields : List (String × DataType) → List (String × DataType) → Bool
  | [], [] => true
  | (n, a) :: fs, (m, b) :: gs => n == m && same a b && sameFields fs gs
  | _, _ => false

end

mutual

theorem same_iff : ∀ a b : DataType, same a b = true ↔ a = b
  | int .., b => by cases b <;> simp [same]
  | float32, b => by cases b <;> simp [same]
  | float64, b => by cases b <;> simp [same]
  | string, b => by cases b <;> simp [same]
  | categorical, b => by cases b <;> simp [same]
  | enum .., b => by cases b <;> simp [same]
  | boolean, b => by cases b <;> simp [same]
  | null, b => by cases b <;> simp [same]
  | date, b => by cases b <;> simp [same]
  | time, b => by cases b <;> simp [same]
  | datetime .., b => by cases b <;> simp [same]
  | duration .., b => by cases b <;> simp [same]
  | decimal .., b => by cases b <;> simp [same]
  | binary, b => by cases b <;> simp [same]
  | list a, b => by
    cases b with
    | list b => simpa [same] using same_iff a b
    | _ => simp [same]
  | array a n, b => by
    cases b with
    | array b m => simp [same, same_iff a b]
    | _ => simp [same]
  | struct fs, b => by
    cases b with
    | struct gs => simpa [same] using sameFields_iff fs gs
    | _ => simp [same]

theorem sameFields_iff : ∀ fs gs : List (String × DataType), sameFields fs gs = true ↔ fs = gs
  | [], gs => by cases gs <;> simp [sameFields]
  | (n, a) :: fs, [] => by simp [sameFields]
  | (n, a) :: fs, (m, b) :: gs => by
    simp [sameFields, same_iff a b, sameFields_iff fs gs, and_assoc]

end

instance : DecidableEq DataType := fun a b =>
  if h : same a b = true then isTrue ((same_iff a b).1 h)
  else isFalse fun e => h ((same_iff a b).2 e)

/-- Whether values of the type are numbers. -/
def isNumeric : DataType → Bool
  | int .. => true
  | float32 => true
  | float64 => true
  | decimal .. => true
  | _ => false

/-- Whether values of the type are texts. -/
def isTextual : DataType → Bool
  | string => true
  | categorical => true
  | enum _ => true
  | _ => false

/-- Whether values of the type hold further values. -/
def isNested : DataType → Bool
  | list _ => true
  | array .. => true
  | struct _ => true
  | _ => false

/-- The storage format of a column of floating-point numbers; 64 bits unless it has 32. -/
def floatFormat : DataType → Binary.Format
  | float32 => Binary.single
  | _ => Binary.double

/-- The least value of an integer type. -/
def minInt (signed : Bool) (bits : Nat) : Int :=
  if signed then -(Nat.pow 2 (bits - 1) : Int) else 0

/-- The greatest value of an integer type. -/
def maxInt (signed : Bool) (bits : Nat) : Int :=
  if signed then (Nat.pow 2 (bits - 1) : Int) - 1 else (Nat.pow 2 bits : Int) - 1

/-- Whether an integer type holds a value. -/
def holdsInt (signed : Bool) (bits : Nat) (n : Int) : Bool :=
  minInt signed bits ≤ n && n ≤ maxInt signed bits

/-- The widths of nested arrays in listings. -/
def shapeText : List Nat → String
  | [n] => "(" ++ natText n ++ ",)"
  | ns => "(" ++ String.intercalate ", " (ns.map natText) ++ ")"

mutual

/-- The name of a type, given the widths of the arrays around it. -/
def nameWithin (widths : List Nat) : DataType → String
  | array item width => nameWithin (widths ++ [width]) item
  | int signed bits => within widths ((if signed then "Int" else "UInt") ++ natText bits)
  | float32 => within widths "Float32"
  | float64 => within widths "Float64"
  | string => within widths "String"
  | categorical => within widths "Categorical"
  | enum categories => within widths ("Enum(categories=" ++ Text.quoteList categories ++ ")")
  | boolean => within widths "Boolean"
  | null => within widths "Null"
  | date => within widths "Date"
  | time => within widths "Time"
  | datetime unit zone =>
    within widths ("Datetime(time_unit=" ++ Text.quote unit.name ++ ", time_zone=" ++
      (zone.elim "None" fun z => Text.quote z.name) ++ ")")
  | duration unit => within widths ("Duration(time_unit=" ++ Text.quote unit.name ++ ")")
  | decimal precision scale =>
    within widths ("Decimal(precision=" ++ natText precision ++ ", scale=" ++ natText scale ++ ")")
  | binary => within widths "Binary"
  | list item => within widths ("List(" ++ nameWithin [] item ++ ")")
  | struct fields =>
    within widths ("Struct(\x7b" ++ String.intercalate ", " (fieldNames fields) ++ "\x7d)")
where
  /-- The name of arrays of the given widths around a named type. -/
  within (widths : List Nat) (name : String) : String :=
    if widths.isEmpty then name
    else "Array(" ++ name ++ ", shape=" ++ shapeText widths ++ ")"

/-- The fields of a struct with their types. -/
def fieldNames : List (String × DataType) → List String
  | [] => []
  | (name, type) :: rest => (Text.quote name ++ ": " ++ nameWithin [] type) :: fieldNames rest

end

/-- The name of a type in messages and listings. -/
def name (type : DataType) : String := nameWithin [] type

end DataType

end SharedTables
