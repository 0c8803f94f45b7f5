import SharedTables.Table.Basic
import SharedTables.Table.Group
import SharedTables.Table.Cast

/-!
# Rows as records

A row is listed as an object of its cells under the names of their columns.  What JSON has no form
for is listed as a text: dates, times of day and points in time (with a fraction only if there is
one), decimals, durations and bytes.  Dates have to lie in the years 1 to 9999, and durations have
to be shorter than a thousand million days (`Cell.isListable`).
-/

namespace SharedTables

/-- What a clock of the zone shows at a point in time; without a zone the point in time is a reading
itself. -/
def localReading (zone : Option Zone) (instant : Int) : Int :=
  zone.elim instant fun z => z.reading instant

/-- A point in time as it is listed. -/
def momentListing (zone : Option Zone) (instant : Int) : String :=
  let reading := localReading zone instant
  Moment.text ⟨reading, zone.map fun z => z.offsetAt instant⟩

/-- A decimal number as it is listed: with an exponent if more than five zeros stand between the
point and the first digit. -/
def decimalListing (scale : Nat) (units : Int) : String :=
  let digits := natText units.natAbs
  let exponent : Int := digits.length - 1 - scale
  if -6 ≤ exponent then decimalText scale units
  else
    (if units < 0 then "-" else "") ++ (digits.take 1).toString ++
      (if digits.length = 1 then "" else "." ++ (digits.drop 1).toString) ++ "E" ++ intText exponent

/-- A length of time as it is listed: days, if there are any, and a reading of a clock. -/
def spanText (microseconds : Int) : String :=
  let days := microseconds / Moment.day
  let clock := microseconds % Moment.day
  let seconds := (clock / Moment.second).toNat
  let fraction := Moment.fraction clock
  (if days = 0 then ""
    else intText days ++ (if days.natAbs = 1 then " day, " else " days, ")) ++
    natText (seconds / 3600) ++ ":" ++ padZeros 2 (natText (seconds / 60 % 60)) ++ ":" ++
    padZeros 2 (natText (seconds % 60)) ++
    if fraction = 0 then "" else "." ++ padZeros 6 (natText fraction)

namespace Cell

mutual

/-- A cell as a value that can be listed. -/
def toValue : DataType → Cell → Value
  | _, null => .null
  | _, int n => .int n
  -- cells of 32 bits are listed with 64
  | _, float x => .float (Binary.double.round x)
  | _, text s => .text s
  | _, bool b => .bool b
  | _, date days => .text (Date.ofDaysSinceEpoch days).text
  | _, time nanoseconds => .text (Moment.clockListing (instantOf .nano nanoseconds))
  | .datetime unit zone, datetime ticks => .text (momentListing zone (instantOf unit ticks))
  | _, datetime ticks => .int ticks
  | .duration unit, duration ticks => .text (spanText (instantOf unit ticks))
  | _, duration ticks => .int ticks
  | .decimal _ scale, decimal units => .text (decimalListing scale units)
  | _, decimal units => .int units
  | _, binary bytes => .text (Text.quoteBytes bytes)
  | .list item, list items => .list (itemValues item items)
  | .array item _, list items => .list (itemValues item items)
  | _, list _ => .null
  | .struct fields, struct cells => .object (fieldValues fields cells)
  | _, struct _ => .null

/-- The items of a list as values. -/
def itemValues : DataType → List Cell → List Value
  | _, [] => []
  | item, c :: rest => toValue item c :: itemValues item rest

/-- The fields of a struct as members. -/
def fieldValues : List (String × DataType) → List Cell → List (String × Value)
  | (name, type) :: fields, c :: rest => (name, toValue type c) :: fieldValues fields rest
  | _, _ => []

end

mutual

/-- Whether a cell can be listed: dates have to be dates of the calendar and durations must not be
too long. -/
def isListable : DataType → Cell → Bool
  | _, date days => Moment.inCalendar (days * Moment.day)
  | .datetime unit zone, datetime ticks =>
    Moment.inCalendar (localReading zone (instantOf unit ticks))
  | .duration unit, duration ticks => (instantOf unit ticks / Moment.day).natAbs < 1000000000
  | .list item, list items => areListable item items
  | .array item _, list items => areListable item items
  | .struct fields, struct cells => fieldsListable fields cells
  | _, _ => true

/-- Whether the items of a list can be listed. -/
def areListable : DataType → List Cell → Bool
  | _, [] => true
  | item, c :: rest => isListable item c && areListable item rest

/-- Whether the fields of a struct can be listed. -/
def fieldsListable : List (String × DataType) → List Cell → Bool
  | (_, type) :: fields, c :: rest => isListable type c && fieldsListable fields rest
  | _, _ => true

end

end Cell

namespace Table

/-- A row as a record. -/
def record (columns : List Column) (row : Row) : Value :=
  .object ((columns.zip row).map fun (c, cell) => (c.name, cell.toValue c.type))

/-- Whether all cells can be listed. -/
def isListable (t : Table) : Bool :=
  t.rows.all fun row => (t.columns.zip row).all fun (c, cell) => cell.isListable c.type

/-- The rows as a list of records. -/
def records (t : Table) : Value :=
  .list (t.rows.map (record t.columns))

/-- The type in which the values of groups are listed: numbers with 64 bits, and points in time and
durations with microseconds. -/
def groupType : DataType → DataType
  | .float32 => .float64
  | .datetime _ zone => .datetime .micro zone
  | .duration _ => .duration .micro
  | type => type

/-- The value of a group in that type; times of day are listed with microseconds, too. -/
def groupCell (type : DataType) : Cell → Cell
  | .time nanoseconds => .time (nanoseconds / 1000 * 1000)
  | cell => cell.cast type (groupType type)

/-- Groups as a table, given the type of their values, if these can be listed.  Without groups it
has no columns either. -/
def ofGroups (type : DataType) (groups : List Group) : Except Failure Table :=
  if groups.all fun g => g.value.isListable type then
    .ok {
      columns := if groups.isEmpty then [] else [⟨"value", groupType type⟩, ⟨"count", .int64⟩]
      rows := groups.map fun g => [groupCell type g.value, .int g.count] }
  else .error .dateOutOfRange

end Table

end SharedTables
