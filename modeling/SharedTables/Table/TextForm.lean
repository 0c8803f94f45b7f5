import SharedTables.Calendar.Moment
import SharedTables.Json.Writer
import SharedTables.Table.Cell
import SharedTables.Table.DataType
import SharedTables.Text.Utf8

/-!
# Cells as text

Columns are searched, and stacked on columns that they do not agree with, by the texts of their
cells:

* numbers, dates, times of day, points in time and truth values in their plain form;
* bytes as the text that they are in UTF-8, if they are one;
* lists of plain values as the texts of their items with commas between, nulls left out;
* structs as JSON on one line, the absent struct as `null`;
* lists of lists and of structs have no text (`TextForm.absent`), and asking for the text of a
  duration is an error (`TextForm.undefined`).

Apart from structs, a null cell has no text either, and bytes that are no text have none.
-/

namespace SharedTables

/-- Whether the cells of a column have texts. -/
inductive TextForm where
  | present
  | absent
  | undefined
deriving DecidableEq, Repr

namespace DataType

/-- Whether the cells of a column of the type have texts. -/
def textForm : DataType → TextForm
  | duration _ => .undefined
  | list item => ofItem item
  | array item _ => ofItem item
  | _ => .present
where
  /-- Whether lists of the type have texts. -/
  ofItem (item : DataType) : TextForm :=
    if item.isNested then .absent
    else
      match item with
      | duration _ => .undefined
      | _ => .present

end DataType

/-- A decimal number given in units of its last place. -/
def decimalText (scale : Nat) (units : Int) : String :=
  -- at least one digit stands before the point
  let digits := padZeros (scale + 1) (natText units.natAbs)
  let whole := (digits.take (digits.length - scale)).toString
  let sign := if units < 0 then "-" else ""
  if scale = 0 then sign ++ whole
  else sign ++ whole ++ "." ++ (digits.drop (digits.length - scale)).toString

/-- The digits of the fraction of a second in a count of units. -/
def fractionText (unit : TimeUnit) (ticks : Int) : String :=
  padZeros unit.digits (natText (ticks % Nat.pow 10 unit.digits).toNat)

/-- The distance from universal time, in hours and minutes with a text in between. -/
def offsetText (separator : String) (microseconds : Int) : String :=
  -- half a minute counts as a whole one
  let minutes := (microseconds.natAbs / Moment.second.toNat + 30) / 60
  (if microseconds < 0 then "-" else "+") ++ padZeros 2 (natText (minutes / 60)) ++ separator ++
    padZeros 2 (natText (minutes % 60))

/-- The point in time of a count of units, in microseconds. -/
def instantOf (unit : TimeUnit) (ticks : Int) : Int :=
  unit.convert .micro ticks

/-- The reading of calendar and clock of a point in time, with a text in between. -/
def readingText (unit : TimeUnit) (separator : String) (ticks : Int) : String :=
  let microseconds := instantOf unit ticks
  (Moment.date microseconds).text ++ separator ++ Moment.clockText microseconds ++ "." ++
    fractionText unit ticks

/-- A point in time as its zone reads it, and the distance of the zone from universal time.  One
text stands between date and clock, another between the hours and minutes of the distance. -/
def momentText (unit : TimeUnit) (zone : Option Zone) (separator colon : String) (ticks : Int) :
    String :=
  match zone with
  | none => readingText unit separator ticks
  | some z =>
    let offset := z.offsetAt (instantOf unit ticks)
    readingText unit separator (ticks + TimeUnit.micro.convert unit offset) ++
      offsetText colon offset

/-- A length of time in seconds. -/
def durationText (unit : TimeUnit) (ticks : Int) : String :=
  let n := ticks.natAbs
  let size := Nat.pow 10 unit.digits
  (if ticks < 0 then "-" else "") ++ "PT" ++ natText (n / size) ++
    (if n % size = 0 then "" else "." ++ padZeros unit.digits (natText (n % size))) ++ "S"

namespace Cell

/-- The text of a cell that is neither null nor holds further cells. -/
def plainText (type : DataType) : Cell → String
  | int n => intText n
  | float x =>
    match type with
    | .float32 => FloatStyle.singleCell.write Binary.single x
    | _ => FloatStyle.cell.write Binary.double x
  | text s => s
  | bool b => if b then "true" else "false"
  | date days => (Date.ofDaysSinceEpoch days).text
  | time nanoseconds => Moment.clockText (instantOf .nano nanoseconds)
  | datetime ticks =>
    match type with
    | .datetime unit zone => momentText unit zone " " ":" ticks
    | _ => intText ticks
  | duration ticks =>
    match type with
    | .duration unit => durationText unit ticks
    | _ => intText ticks
  | decimal units =>
    match type with
    | .decimal _ scale => decimalText scale units
    | _ => intText units
  | binary bytes => String.ofList (Text.Utf8.decode bytes)
  | _ => ""

/-- Whether JSON has the plain text of a cell as a number or a word. -/
def isBare : Cell → Bool
  | int _ => true
  | float _ => true
  | bool _ => true
  | _ => false

mutual

/-- A cell as JSON on one line. -/
def jsonText : DataType → Cell → String
  | .list item, list items => "[" ++ String.intercalate "," (jsonItems item items) ++ "]"
  | .array item _, list items => "[" ++ String.intercalate "," (jsonItems item items) ++ "]"
  | .struct fields, struct cells =>
    "\x7b" ++ String.intercalate "," (jsonFields fields cells) ++ "\x7d"
  | _, null => "null"
  | type, cell =>
    if !cell.isBare then Json.writeString false (cell.plainText type)
    else
      match cell with
      -- JSON has no infinities
      | float x => if x.isFinite then cell.plainText type else "null"
      | _ => cell.plainText type

/-- The items of a list as JSON. -/
def jsonItems : DataType → List Cell → List String
  | _, [] => []
  | item, c :: rest => jsonText item c :: jsonItems item rest

/-- The fields of a struct as JSON. -/
def jsonFields : List (String × DataType) → List Cell → List String
  | (name, type) :: fields, c :: rest =>
    (Json.writeString false name ++ ":" ++ jsonText type c) :: jsonFields fields rest
  | _, _ => []

end

/-- Whether the cell is null or consists of bytes that are no text. -/
def lacksText : Cell → Bool
  | null => true
  | binary bytes => Text.Utf8.encode (Text.Utf8.decode bytes) != bytes
  | _ => false

/-- The texts of the items of a list that have one, with commas between. -/
def itemsText (item : DataType) (items : List Cell) : String :=
  String.intercalate "," ((items.filter fun c => !c.lacksText).map fun c => c.plainText item)

/-- The text of a cell; null has none, except as a struct. -/
def text? (type : DataType) (cell : Cell) : Option String :=
  match type, cell with
  | .struct _, _ => some (jsonText type cell)
  | .list item, list items => some (itemsText item items)
  | .array item _, list items => some (itemsText item items)
  | _, _ => if cell.lacksText then none else some (cell.plainText type)

end Cell

end SharedTables
