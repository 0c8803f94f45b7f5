import SharedTables.Value
import SharedTables.Yaml.Timestamp

/-!
# Plain scalars

A scalar that is written without quotes is null, a truth value, a number, a date or a point in time
if it looks like one, and a text otherwise (YAML 1.1): `yes` and `off` are truth values, `010` is
eight, `0x10` sixteen, `1:30` ninety, and underscores in numbers do not count.
-/

namespace SharedTables.Yaml

/-- Why a document is not read. -/
inductive ReadError where
  /-- It is no document, or uses what is not supported. -/
  | malformed
  /-- It holds an integer with too many digits. -/
  | tooManyDigits (count : Nat)
  /-- What looks like a date or a point in time is none. -/
  | badTimestamp (cause : TimestampError)
deriving DecidableEq, Repr

/-- The words for null. -/
def nullWords : List String := ["", "~", "null", "Null", "NULL"]

/-- The words for true. -/
def trueWords : List String :=
  ["yes", "Yes", "YES", "true", "True", "TRUE", "on", "On", "ON"]

/-- The words for false. -/
def falseWords : List String :=
  ["no", "No", "NO", "false", "False", "FALSE", "off", "Off", "OFF"]

/-- The words for infinity, after a sign. -/
def infinityWords : List String := [".inf", ".Inf", ".INF"]

/-- The words for "not a number". -/
def nanWords : List String := [".nan", ".NaN", ".NAN"]

/-- The words that stand for no value of their own. -/
def reservedWords : List String := ["=", "<<"]

/-- The value of a digit up to the given base. -/
def digitOf? (base : Nat) (c : Char) : Option Nat :=
  (Text.hexValue? c).filter (· < base)

/-- The characters without underscores. -/
def dropUnderscores (cs : List Char) : List Char :=
  cs.filter (· != '_')

/-- The digits of a number in a base that is a power of two; there has to be one. -/
def powerDigits? (base : Nat) (cs : List Char) : Option Nat :=
  match (dropUnderscores cs).mapM (digitOf? base) with
  | some (d :: ds) => some ((d :: ds).foldl (fun n d => base * n + d) 0)
  | _ => none

/-- Whether the characters are digits and underscores, the first of them a digit. -/
def isDigits (cs : List Char) : Bool :=
  match cs with
  | c :: rest => c.isDigit && rest.all fun d => d.isDigit || d == '_'
  | [] => false

/-- A part of a number in base sixty after the first: one digit, or two up to 59. -/
def sixtieth? : List Char → Option Nat
  | [a] => if a.isDigit then some (Text.digitsValue [a]) else none
  | [a, b] =>
    if a.isDigit && b.isDigit && a < '6' then some (Text.digitsValue [a, b]) else none
  | _ => none

/-- The parts of a text between colons. -/
def colonParts : List Char → List Char → List (List Char)
  | part, [] => [part.reverse]
  | part, ':' :: rest => part.reverse :: colonParts [] rest
  | part, c :: rest => colonParts (c :: part) rest

/-- The number that parts in base sixty give, if there are at least two. -/
def sexagesimal? (cs : List Char) : Option Nat :=
  match colonParts [] cs with
  | first :: second :: more =>
    if isDigits first then
      ((second :: more).mapM sixtieth?).map fun ds =>
        ds.foldl (fun n d => 60 * n + d) (Text.digitsValue (dropUnderscores first))
    else none
  | _ => none

/-- Reads an unsigned integer. -/
def unsignedInteger? (cs : List Char) : Option (Except ReadError Nat) :=
  match cs with
  | ['0'] => some (.ok 0)
  | '0' :: 'b' :: rest => (powerDigits? 2 rest).map .ok
  | '0' :: 'x' :: rest => (powerDigits? 16 rest).map .ok
  -- a zero in front makes it octal
  | '0' :: rest =>
    if rest.all fun c => (digitOf? 8 c).isSome || c == '_' then
      some (.ok ((powerDigits? 8 rest).getD 0))
    else none
  | _ =>
    if isDigits cs then
      let digits := dropUnderscores cs
      -- only decimal digits are limited
      if maxIntegerDigits < digits.length then some (.error (.tooManyDigits digits.length))
      else some (.ok (Text.digitsValue digits))
    else (sexagesimal? cs).map .ok

/-- The exponent that may end a number: a letter, a sign and digits. -/
def exponent? : List Char → Option Int
  | [] => some 0
  | c :: sign :: rest =>
    if (c = 'e' ∨ c = 'E') ∧ (sign = '+' ∨ sign = '-') ∧ !rest.isEmpty ∧ rest.all Char.isDigit then
      some (Binary.signed (sign == '-') (Text.digitsValue rest))
    else none
  | _ => none

/-- Reads an unsigned number with a point. -/
def unsignedDecimal? (negative : Bool) (cs : List Char) : Option Binary :=
  let (whole, rest) := cs.span fun c => c.isDigit || c == '_' || c == ':'
  match rest with
  | '.' :: tail =>
    let (fraction, tail) := tail.span fun c => c.isDigit || c == '_'
    let places := dropUnderscores fraction
    let number := fun (n : Nat) (e : Int) =>
      Binary.double.ofDecimal negative (n * Nat.pow 10 places.length + Text.digitsValue places)
        (e - places.length)
    if whole.isEmpty then
      if isDigits fraction then (exponent? tail).map (number 0) else none
    else if isDigits whole then
      (exponent? tail).map (number (Text.digitsValue (dropUnderscores whole)))
    else if tail.isEmpty then (sexagesimal? whole).map fun n => number n 0
    else none
  | _ => none

/-- The number that a scalar looks like. -/
def number? (text : String) : Option (Except ReadError Value) :=
  let cs := text.toList
  let (negative, body) := Number.splitSign cs
  match unsignedInteger? body with
  | some n => some (n.map fun n => .int (Binary.signed negative n))
  | none =>
    if infinityWords.contains (String.ofList body) then
      some (.ok (.float (.infinite negative)))
    else if nanWords.contains text then some (.ok (.float .nan))
    -- after a sign there has to be a digit before the point
    else if body.head? = some '.' && body.length < cs.length then none
    else (unsignedDecimal? negative body).map fun x => .ok (.float x)

/-- The date or point in time that a scalar looks like. -/
def timestamp? (text : String) : Option (Except ReadError Value) :=
  match readDay? text.toList with
  | some (year, month, day) =>
    some (((checkDate year month day).map .date).mapError .badTimestamp)
  | none => (readTimestamp? text.toList).map fun t => (t.check.map .moment).mapError .badTimestamp

/-- The value of a plain scalar. -/
def resolve (text : String) : Except ReadError Value :=
  if nullWords.contains text then .ok .null
  else if trueWords.contains text then .ok (.bool true)
  else if falseWords.contains text then .ok (.bool false)
  -- these words merge mappings or stand for defaults
  else if reservedWords.contains text then .error .malformed
  else ((number? text).or (timestamp? text)).getD (.ok (.text text))

end SharedTables.Yaml
