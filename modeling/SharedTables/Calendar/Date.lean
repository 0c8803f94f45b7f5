import SharedTables.Number.Style

/-!
# Dates

The Gregorian calendar, extended backwards, for the years 1 to 9999.  A date is ordered by its
`ordinal`, the number of days from the start of year 1 up to and including it; table cells count
days from `epochOrdinal`, the first of January 1970.

* `Date.read?`    reads `YYYY-MM-DD`, a day that exists
* `Date.text`     writes it
* `Date.ofOrdinal`  finds the date of an ordinal
-/

namespace SharedTables

/-- A day of the calendar. -/
structure Date where
  year : Nat
  month : Nat
  day : Nat
deriving DecidableEq, Repr

namespace Date

/-- Whether the year has a 29th of February. -/
def isLeap (year : Nat) : Bool :=
  year % 4 == 0 && (year % 100 != 0 || year % 400 == 0)

/-- The number of days of each month. -/
def monthLengths (leap : Bool) : List Nat :=
  [31, if leap then 29 else 28, 31, 30, 31, 30, 31, 31, 30, 31, 30, 31]

/-- The number of days of a month, from one; zero if there is no such month. -/
def daysInMonth (year month : Nat) : Nat :=
  match month with
  | 0 => 0
  | m + 1 => (monthLengths (isLeap year)).getD m 0

/-- The number of days before a year, from year 1 on. -/
def daysBeforeYear (year : Nat) : Nat :=
  let y := year - 1
  365 * y + y / 4 - y / 100 + y / 400

/-- The number of days of the year before a month. -/
def daysBeforeMonth (year month : Nat) : Nat :=
  ((monthLengths (isLeap year)).take (month - 1)).foldl (· + ·) 0

/-- Whether the day exists. -/
def isValid (d : Date) : Bool :=
  1 ≤ d.year && d.year ≤ 9999 && 1 ≤ d.day && d.day ≤ daysInMonth d.year d.month

/-- The number of days from the start of year 1 up to and including the date. -/
def ordinal (d : Date) : Nat :=
  daysBeforeYear d.year + daysBeforeMonth d.year d.month + d.day

/-- The ordinal of the first of January 1970. -/
def epochOrdinal : Nat := 719163

/-- The number of days since the first of January 1970. -/
def daysSinceEpoch (d : Date) : Int :=
  (d.ordinal : Int) - epochOrdinal

/-- The month and the day in it of a day of the year, counted from zero. -/
def monthAndDay : List Nat → Nat → Nat → Nat × Nat
  | [], month, day => (month, day + 1)
  | length :: rest, month, day =>
    if day < length then (month, day + 1) else monthAndDay rest (month + 1) (day - length)

/-- The date of an ordinal: whole cycles of 400, 100, 4 and 1 years are taken off in turn.  The last
day of a leap year closes a cycle. -/
def ofOrdinal (ordinal : Nat) : Date :=
  let n := ordinal - 1
  let n400 := n / 146097
  let n := n % 146097
  let n100 := n / 36524
  let n := n % 36524
  let n4 := n / 1461
  let n := n % 1461
  let n1 := n / 365
  let n := n % 365
  let year := 400 * n400 + 100 * n100 + 4 * n4 + n1
  -- the last day of a cycle: a fifth year, or century, would begin here
  if n1 = 4 ∨ n100 = 4 then ⟨year, 12, 31⟩
  else
    let (month, day) := monthAndDay (monthLengths (isLeap (year + 1))) 1 n
    ⟨year + 1, month, day⟩

/-- The date that lies a number of days after the first of January 1970. -/
def ofDaysSinceEpoch (days : Int) : Date :=
  ofOrdinal (days + epochOrdinal).toNat

/-- The weekday of the date, Monday being zero. -/
def weekday (d : Date) : Nat :=
  (d.ordinal + 6) % 7

/-- The form `YYYY-MM-DD`. -/
def text (d : Date) : String :=
  padZeros 4 (natText d.year) ++ "-" ++ padZeros 2 (natText d.month) ++ "-" ++
    padZeros 2 (natText d.day)

/-- A date in messages. -/
def literal (d : Date) : String :=
  "datetime.date(" ++ String.intercalate ", " ([d.year, d.month, d.day].map natText) ++ ")"

/-- The value of a run of exactly `count` digits at the front of a text, and what follows it. -/
def readDigits? : Nat → List Char → Option (Nat × List Char)
  | count, cs =>
    let digits := cs.take count
    if digits.length = count ∧ digits.all Char.isDigit then
      some (Text.digitsValue digits, cs.drop count)
    else none

/-- The date, if the day exists. -/
def checked? (year month day : Nat) : Option Date :=
  let d : Date := ⟨year, month, day⟩
  if d.isValid then some d else none

/-- Reads `YYYY-MM-DD`. -/
def read? (text : String) : Option Date := do
  let (year, rest) ← readDigits? 4 text.toList
  let '-' :: rest := rest | none
  let (month, rest) ← readDigits? 2 rest
  let '-' :: rest := rest | none
  let (day, rest) ← readDigits? 2 rest
  -- every field has its fixed width, so nothing is left over
  if rest.isEmpty then checked? year month day else none

end Date

end SharedTables
