import SharedTables.Calendar.Date

/-!
# Points in time

A `Moment` is a reading of calendar and clock in microseconds, with the offset from universal time
if one was given.  `Moment.read?` reads the formats of ISO 8601:

* a date `YYYY-MM-DD` or `YYYYMMDD`, or a week `YYYY-Www-D`, `YYYYWwwD`, `YYYY-Www` or `YYYYWww`;
* any one character;
* a clock `HH`, `HH:MM`, `HH:MM:SS` or the same without colons, with a decimal fraction after the
  last part that counts as a fraction of a second, of which six digits are kept;
* `Z`, or a sign and a clock: the offset from universal time, less than a day.

A character NUL ends a clock like the end of the text.
-/

namespace SharedTables

/-- A reading of calendar and clock: microseconds since the start of 1970, and the offset from
universal time in microseconds. -/
structure Moment where
  reading : Int
  offset : Option Int
deriving DecidableEq, Repr

namespace Moment

/-- Microseconds in a second. -/
def second : Int := 1000000

/-- Microseconds in a day. -/
def day : Int := 86400 * second

/-- The first moment of year 1. -/
def earliest : Int := (Date.daysSinceEpoch ⟨1, 1, 1⟩) * day

/-- The last microsecond of year 9999. -/
def latest : Int := (Date.daysSinceEpoch ⟨9999, 12, 31⟩ + 1) * day - 1

/-- The moment in universal time; a reading without an offset is taken to be in universal time. -/
def instant (m : Moment) : Int :=
  m.reading - m.offset.getD 0

/-- Whether a time lies in the years 1 to 9999. -/
def inCalendar (t : Int) : Bool :=
  earliest ≤ t && t ≤ latest

/-- A reading of a clock, and whether the text ended with it. -/
structure Clock where
  hour : Nat
  minute : Nat
  second : Nat
  microsecond : Nat
  complete : Bool
deriving DecidableEq, Repr

/-- The character that stands for the end of the text. -/
def terminator : Char := '\x00'

/-- The microseconds of the digits after a decimal sign, and whether nothing follows them up to
`stop`, the character after the text.  Digits beyond the sixth are passed over. -/
def readFraction? (stop : Char) (cs : List Char) : Option (Nat × Bool) := do
  let count := min 6 cs.length
  let (n, rest) ← Date.readDigits? count cs
  let after := rest.dropWhile Char.isDigit
  return (n * Nat.pow 10 (6 - count), after.headD stop == terminator)

/-- Reads the fields of a clock that are left, at most `fields` of them.  `colons` tells whether
they are separated by colons, as soon as that is known; `stop` is the character after the text. -/
def readFields? (stop : Char) : Nat → Option Bool → List Char → Option (List Nat × Nat × Bool)
  | 0, _, cs => do
    let (microsecond, complete) ← readFraction? stop cs
    return ([], microsecond, complete)
  | fields + 1, colons, cs => do
    let (n, rest) ← Date.readDigits? 2 cs
    match rest with
    -- a text may end after any field
    | [] => return ([n], 0, stop == terminator)
    | [c] => return ([n], 0, c == terminator)
    | c :: more =>
      -- what follows the first field decides for the others
      let colons := colons.getD (c == ':')
      if colons && c == ':' then
        let (ns, microsecond, complete) ← readFields? stop fields (some colons) more
        return (n :: ns, microsecond, complete)
      else if c == '.' || c == ',' then
        let (microsecond, complete) ← readFraction? stop more
        return ([n], microsecond, complete)
      else if colons then none
      else
        -- without colons the next field starts right here
        let (ns, microsecond, complete) ← readFields? stop fields (some colons) rest
        return (n :: ns, microsecond, complete)

/-- Reads a clock. -/
def readClock? (stop : Char) (cs : List Char) : Option Clock := do
  let (fields, microsecond, complete) ← readFields? stop 3 none cs
  return ⟨fields.getD 0 0, fields.getD 1 0, fields.getD 2 0, microsecond, complete⟩

/-- The seconds of a clock. -/
def Clock.seconds (c : Clock) : Int :=
  c.hour * 3600 + c.minute * 60 + c.second

/-- The offset that a sign and a clock give, in microseconds.  It is less than a day; an offset of
less than a second is none. -/
def Clock.toOffset? (negative : Bool) (c : Clock) : Option Int :=
  let whole := c.seconds
  let size := whole * Moment.second + c.microsecond
  -- a fraction of a second alone is dropped
  if whole = 0 then some 0
  else if size < day then some (if negative then -size else size)
  else none

/-- Whether a character starts the offset from universal time. -/
def isOffsetSign (c : Char) : Bool :=
  c == '+' || c == '-' || c == 'Z'

/-- Reads a time of day, in microseconds, and an offset. -/
def readTime? (cs : List Char) : Option (Int × Option Int) := do
  let (front, back) := cs.span fun c => !isOffsetSign c
  let clock ← readClock? (back.headD terminator) front
  let offset ←
    match back with
    | [] => if clock.complete then some none else none
    -- what follows a NUL after `Z` is passed over
    | 'Z' :: rest => if rest.headD terminator == terminator then some (some 0) else none
    | sign :: rest => do
      let c ← readClock? terminator rest
      if c.complete then some (some (← c.toOffset? (sign == '-'))) else none
  -- the fields of the offset have no such bounds: its sum has
  if clock.hour < 24 ∧ clock.minute < 60 ∧ clock.second < 60 then
    return (clock.seconds * second + clock.microsecond, offset)
  else none

/-- How many characters at the front of a text are its date.  In a text that starts with a week the
first digits after it tell whether the day is given. -/
def dateLength (cs : List Char) : Nat :=
  let char := fun i => cs.getD i terminator
  -- `YYYYWww` is the only date of seven characters
  if cs.length = 7 then 7
  else if char 4 = '-' then
    if char 5 = 'W' then
      -- a hyphen after the week may also be the one character before the clock
      if 8 < cs.length ∧ char 8 = '-' then
        if 10 < cs.length ∧ (char 10).isDigit then 8 else 10
      else 8
    else 10
  else if char 4 = 'W' then
    -- an even number of digits after the week belongs to the clock
    let stop := 7 + ((cs.drop 7).takeWhile Char.isDigit).length
    if stop < 9 then stop else if stop % 2 = 0 then 7 else 8
  else 8

/-- The ordinal of a day of an ISO week.  Week 1 is the one with the first Thursday of the year; a
year has 53 weeks if it starts on a Thursday, or on a Wednesday and is a leap year. -/
def weekOrdinal? (year week weekday : Nat) : Option Nat :=
  let first := Date.weekday ⟨year, 1, 1⟩
  let weeks := if first = 3 ∨ (first = 2 ∧ Date.isLeap year) then 53 else 52
  if 1 ≤ year ∧ 1 ≤ week ∧ week ≤ weeks ∧ 1 ≤ weekday ∧ weekday ≤ 7 then
    let monday := if first ≤ 3 then (Date.ordinal ⟨year, 1, 1⟩ : Int) - first
      else (Date.ordinal ⟨year, 1, 1⟩ : Int) - first + 7
    some (monday + ((week - 1) * 7 + (weekday - 1) : Nat)).toNat
  else none

/-- The date of an ordinal, if it lies in the years 1 to 9999. -/
def dateOfOrdinal? (ordinal : Nat) : Option Date :=
  let d := Date.ofOrdinal ordinal
  -- the weeks at both ends reach beyond the calendar
  if 1 ≤ ordinal ∧ d.year ≤ 9999 then some d else none

/-- Reads a date or a day of a week that fills the text. -/
def readDate? (cs : List Char) : Option Date := do
  let (year, rest) ← Date.readDigits? 4 cs
  let dashes := rest.head? == some '-'
  let rest := if dashes then rest.drop 1 else rest
  match rest with
  | 'W' :: rest => do
    let (week, rest) ← Date.readDigits? 2 rest
    match rest with
    -- a week alone is its Monday
    | [] => (weekOrdinal? year week 1).bind dateOfOrdinal?
    | c :: more =>
      if dashes && c != '-' then none
      else do
        let (weekday, _) ← Date.readDigits? 1 (if dashes then more else rest)
        (weekOrdinal? year week weekday).bind dateOfOrdinal?
  | _ => do
    let (month, rest) ← Date.readDigits? 2 rest
    let rest ←
      if dashes then
        match rest with
        | '-' :: more => some more
        | _ => none
      else some rest
    let (dayOfMonth, rest) ← Date.readDigits? 2 rest
    if rest.isEmpty then Date.checked? year month dayOfMonth else none

/-- Reads a point in time. -/
def read? (text : String) : Option Moment := do
  let cs := text.toList
  let date ← readDate? (cs.take (dateLength cs))
  let midnight := date.daysSinceEpoch * day
  match cs.drop (dateLength cs) with
  | [] => return ⟨midnight, none⟩
  -- any one character stands between the date and the clock
  | _ :: rest => do
    let (time, offset) ← readTime? rest
    return ⟨midnight + time, offset⟩

/-- The time of day of a number of microseconds since the start of 1970, as `HH:MM:SS`. -/
def clockText (t : Int) : String :=
  -- `%` is never negative here, also before 1970
  let s := ((t % day) / second).toNat
  padZeros 2 (natText (s / 3600)) ++ ":" ++ padZeros 2 (natText (s / 60 % 60)) ++ ":" ++
    padZeros 2 (natText (s % 60))

/-- The microseconds in the second. -/
def fraction (t : Int) : Nat :=
  (t % second).toNat

/-- The date of a number of microseconds since the start of 1970. -/
def date (t : Int) : Date :=
  Date.ofDaysSinceEpoch (t / day)

/-- A reading of a clock: with a fraction of a second of six digits if it is not zero. -/
def clockListing (microseconds : Int) : String :=
  let fraction := fraction microseconds
  clockText microseconds ++ if fraction = 0 then "" else "." ++ padZeros 6 (natText fraction)

/-- The distance from universal time: with seconds if there are any. -/
def offsetListing (microseconds : Int) : String :=
  let seconds := microseconds.natAbs / second.toNat
  (if microseconds < 0 then "-" else "+") ++ padZeros 2 (natText (seconds / 3600)) ++ ":" ++
    padZeros 2 (natText (seconds / 60 % 60)) ++
    if seconds % 60 = 0 then "" else ":" ++ padZeros 2 (natText (seconds % 60))

/-- The date and the reading of the clock, and the offset if there is one. -/
def text (m : Moment) : String :=
  (date m.reading).text ++ " " ++ clockListing m.reading ++ (m.offset.map offsetListing).getD ""

/-- A length of time in messages: its days, seconds and microseconds that are not zero. -/
def spanLiteral (microseconds : Int) : String :=
  let clock := microseconds % day
  let part := fun (name : String) (n : Int) => if n = 0 then [] else [name ++ "=" ++ intText n]
  let parts := part "days" (microseconds / day) ++ part "seconds" (clock / second) ++
    part "microseconds" (clock % second)
  "datetime.timedelta(" ++ (if parts.isEmpty then "0" else String.intercalate ", " parts) ++ ")"

/-- A point in time in messages: seconds and microseconds are left out if nothing follows them that
is not zero. -/
def literal (m : Moment) : String :=
  let d := date m.reading
  let s := ((m.reading % day) / second).toNat
  let fractions :=
    -- seconds are given where microseconds follow them, even if they are zero
    if fraction m.reading = 0 then if s % 60 = 0 then [] else [s % 60]
    else [s % 60, fraction m.reading]
  let zone :=
    match m.offset with
    | none => []
    | some offset =>
      ["tzinfo=datetime.timezone" ++
        if offset = 0 then ".utc" else "(" ++ spanLiteral offset ++ ")"]
  "datetime.datetime(" ++ String.intercalate ", "
    ([d.year, d.month, d.day, s / 3600, s / 60 % 60].map natText ++ fractions.map natText ++
      zone) ++
    ")"

end Moment

end SharedTables
