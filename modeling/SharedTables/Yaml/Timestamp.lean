import SharedTables.Calendar.Moment

/-!
# Dates in plain scalars

A scalar such as `2024-01-31` is a date, and one such as `2024-1-31 9:30:00.5 +01:00` a point in
time: a date, a `T` or blanks, a clock with a fraction of which six digits are kept, and possibly
`Z` or the distance from universal time.  What has this form but is no date of the calendar is an
error.
-/

namespace SharedTables.Yaml

/-- Why what looks like a date or a point in time is none. -/
inductive TimestampError where
  | year
  | month
  | day
  | hour
  | minute
  | second
  /-- The distance from universal time is a day or longer. -/
  | offset (microseconds : Int)
deriving DecidableEq, Repr

/-- The wording of each cause. -/
def TimestampError.message : TimestampError → String
  | year => "year 0 is out of range"
  | month => "month must be in 1..12"
  | day => "day is out of range for month"
  | hour => "hour must be in 0..23"
  | minute => "minute must be in 0..59"
  | second => "second must be in 0..59"
  | offset microseconds =>
    "offset must be a timedelta strictly between -timedelta(hours=24) and timedelta(hours=24), " ++
      "not " ++ Moment.spanLiteral microseconds ++ "."

/-- A point in time as it is written. -/
structure Timestamp where
  year : Nat
  month : Nat
  day : Nat
  hour : Nat
  minute : Nat
  second : Nat
  microsecond : Nat
  offset : Option Int
deriving DecidableEq, Repr

/-- The date, if it is one. -/
def checkDate (year month day : Nat) : Except TimestampError Date :=
  if year = 0 then .error .year
  else if month = 0 ∨ 12 < month then .error .month
  else
    match Date.checked? year month day with
    | some d => .ok d
    | none => .error .day

/-- The point in time, if it is one. -/
def Timestamp.check (t : Timestamp) : Except TimestampError Moment := do
  -- the distance from universal time is looked at first
  match t.offset with
  | some offset => if Moment.day ≤ offset.natAbs then .error (.offset offset)
  | none => pure ()
  let date ← checkDate t.year t.month t.day
  if 24 ≤ t.hour then .error .hour
  else if 60 ≤ t.minute then .error .minute
  else if 60 ≤ t.second then .error .second
  else
    let seconds : Int := t.hour * 3600 + t.minute * 60 + t.second
    return ⟨date.daysSinceEpoch * Moment.day + seconds * Moment.second + t.microsecond, t.offset⟩

/-- Whether a character is a space or a tab. -/
def isSpace (c : Char) : Bool :=
  c == ' ' || c == '\t'

/-- What follows a character at the front of a text. -/
def after? (c : Char) : List Char → Option (List Char)
  | [] => none
  | d :: rest => if d = c then some rest else none

/-- Reads a number of one digit or two. -/
def readShort? (cs : List Char) : Option (Nat × List Char) :=
  -- two digits go before one
  (Date.readDigits? 2 cs).or (Date.readDigits? 1 cs)

/-- What follows the `T` or the blanks between a date and a clock. -/
def afterSeparator? : List Char → Option (List Char)
  | [] => none
  | c :: rest =>
    if c = 'T' ∨ c = 't' then some rest
    else if isSpace c then some (rest.dropWhile isSpace)
    else none

/-- Reads the microseconds of a fraction of a second, which may be missing. -/
def readMicroseconds (cs : List Char) : Nat × List Char :=
  match cs with
  | '.' :: rest =>
    let (digits, rest) := rest.span Char.isDigit
    -- further digits are cut off
    let kept := digits.take 6
    (Text.digitsValue kept * Nat.pow 10 (6 - kept.length), rest)
  | _ => (0, cs)

/-- Reads hours, and minutes if there are any, up to the end of the text: in microseconds. -/
def readDistance? (cs : List Char) : Option Int := do
  let (hours, rest) ← readShort? cs
  let minutes ←
    match rest with
    | [] => some 0
    | _ => do
      let (minutes, rest) ← Date.readDigits? 2 (← after? ':' rest)
      if rest.isEmpty then some minutes else none
  return ((hours * 60 + minutes : Nat) : Int) * 60 * Moment.second

/-- Reads the distance from universal time, which may be missing, up to the end of the text. -/
def readOffset? (cs : List Char) : Option (Option Int) :=
  if cs.isEmpty then some none
  else
    match cs.dropWhile isSpace with
    | ['Z'] => some (some 0)
    | '+' :: rest => (readDistance? rest).map some
    | '-' :: rest => (readDistance? rest).map fun distance => some (-distance)
    | _ => none

/-- Reads a date that fills the text: four, two and two digits. -/
def readDay? (cs : List Char) : Option (Nat × Nat × Nat) := do
  let (year, rest) ← Date.readDigits? 4 cs
  let (month, rest) ← Date.readDigits? 2 (← after? '-' rest)
  let (day, rest) ← Date.readDigits? 2 (← after? '-' rest)
  if rest.isEmpty then some (year, month, day) else none

/-- Reads a point in time that fills the text. -/
def readTimestamp? (cs : List Char) : Option Timestamp := do
  let (year, rest) ← Date.readDigits? 4 cs
  let (month, rest) ← readShort? (← after? '-' rest)
  let (day, rest) ← readShort? (← after? '-' rest)
  let (hour, rest) ← readShort? (← afterSeparator? rest)
  let (minute, rest) ← Date.readDigits? 2 (← after? ':' rest)
  let (second, rest) ← Date.readDigits? 2 (← after? ':' rest)
  let (microsecond, rest) := readMicroseconds rest
  let offset ← readOffset? rest
  return ⟨year, month, day, hour, minute, second, microsecond, offset⟩

end SharedTables.Yaml
