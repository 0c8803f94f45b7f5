import SharedTables.Table.TextForm

/-!
# Changing the type of a cell

`Cell.cast` takes a cell from one type to another that takes it in.  Dates become the points in time
at which they start, or, like times of day, points in time and durations, counts of their unit;
counts in a coarser unit are cut off toward the past.
-/

namespace SharedTables

namespace Cell

/-- The integer that a cell counts. -/
def count? : Cell → Option Int
  | int n => some n
  | bool b => some b.toNat
  | date days => some days
  | time nanoseconds => some nanoseconds
  | datetime ticks => some ticks
  | duration ticks => some ticks
  | _ => none

/-- A cell as a floating-point number of the given format. -/
def toBinary? (f : Binary.Format) (source : DataType) : Cell → Option Binary
  | float x => some (f.round x)
  | decimal units =>
    match source with
    | .decimal _ scale => some (f.ofRatio (units < 0) units.natAbs (Nat.pow 10 scale))
    | _ => none
  | c => c.count?.map f.ofInt

/-- A cell in units of the last of `scale` places. -/
def toUnits? (source : DataType) (scale : Nat) : Cell → Option Int
  | int n => some (n * Nat.pow 10 scale)
  | decimal units =>
    match source with
    | .decimal _ s => some (units * Nat.pow 10 (scale - s))
    | _ => none
  | _ => none

/-- A cell as a point in time. -/
def toTicks? (source : DataType) (unit : TimeUnit) : Cell → Option Int
  | date days => some (TimeUnit.micro.convert unit (days * Moment.day))
  | datetime ticks =>
    match source with
    | .datetime u _ => some (u.convert unit ticks)
    | _ => none
  | _ => none

/-- A cell as a length of time. -/
def toSpan? (source : DataType) (unit : TimeUnit) : Cell → Option Int
  | duration ticks =>
    match source with
    | .duration u => some (u.convert unit ticks)
    | _ => none
  | _ => none

/-- The type of the items of a list. -/
def itemType : DataType → DataType
  | .list item => item
  | .array item _ => item
  | type => type

/-- The fields of a struct. -/
def fieldsOf : DataType → List (String × DataType)
  | .struct fields => fields
  | _ => []

mutual

/-- A cell of the type `source` as a cell of the type `target`. -/
def cast (source target : DataType) : Cell → Cell
  | null => null
  | list items =>
    match target with
    | .string => ((list items).text? source).elim null text
    | _ => list (castItems (itemType source) (itemType target) items)
  | struct cells =>
    match target with
    | .string => ((struct cells).text? source).elim null text
    | _ =>
      -- fields go by their names, and those that are missing become null
      let named := castFields (fieldsOf source) (fieldsOf target) cells
      struct ((fieldsOf target).map fun f =>
        ((named.find? fun n => n.1 == f.1).map (·.2)).getD null)
  | cell =>
    match target with
    | .int signed bits =>
      -- what the type does not hold becomes null
      (cell.count?.filter (DataType.holdsInt signed bits)).elim null int
    | .float32 => (cell.toBinary? Binary.single source).elim null float
    | .float64 => (cell.toBinary? Binary.double source).elim null float
    | .string => (cell.text? source).elim null text
    | .decimal _ scale => (cell.toUnits? source scale).elim null decimal
    | .datetime unit _ => (cell.toTicks? source unit).elim null datetime
    | .duration unit => (cell.toSpan? source unit).elim null duration
    | _ => cell

/-- The items of a list, cast one by one. -/
def castItems (source target : DataType) : List Cell → List Cell
  | [] => []
  | c :: rest => cast source target c :: castItems source target rest

/-- The fields of a struct under their names, each cast to the type of the field of that name. -/
def castFields (sources targets : List (String × DataType)) : List Cell → List (String × Cell)
  | [] => []
  | c :: rest =>
    match sources with
    | [] => []
    | (name, type) :: more =>
      -- a field that the target lacks keeps its type
      let target := ((targets.find? fun f => f.1 == name).map (·.2)).getD type
      (name, cast type target c) :: castFields more targets rest

end

end Cell

end SharedTables
