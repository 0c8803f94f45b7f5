import SharedTables.Number.Binary
import SharedTables.Number.Style
import SharedTables.Text.Blank
import SharedTables.Text.DecimalDigit
import SharedTables.Text.Quoted

/-!
# Reading numbers

`readInteger` and `readFloat` read what people write into settings: blanks around the number, a
sign, decimal digits of any script, and single underscores between digits, which `groupedDigits?`
reads for both.  Integers are read up to `maxIntegerDigits` digits.
-/

namespace SharedTables

/-- The most digits that an integer may have to be read or written. -/
def maxIntegerDigits : Nat := 4300

/-- Why a value is no number. -/
inductive NumberError where
  /-- The text is not an integer. -/
  | notInteger (text : String)
  /-- The text is not a number. -/
  | notFloat (text : String)
  /-- The integer has too many digits to be read. -/
  | tooManyDigits (count : Nat)
  /-- The integer has too many digits to be written. -/
  | tooLongToWrite
  /-- An infinity has no integer part. -/
  | infinityToInteger
  /-- "Not a number" has no integer part. -/
  | nanToInteger
  /-- The integer is beyond the largest floating-point number. -/
  | integerTooLarge
  /-- A value of another type where an integer was asked for. -/
  | integerFromType (typeName : String)
  /-- A value of another type where a number was asked for. -/
  | floatFromType (typeName : String)
deriving DecidableEq, Repr

namespace NumberError

/-- The wording of each cause. -/
def message : NumberError → String
  | notInteger text =>
    "invalid literal for int() with base 10: " ++ ((Text.quote text).take 200).toString
  | notFloat text => "could not convert string to float: " ++ Text.quote text
  | tooManyDigits count =>
    "Exceeds the limit (4300 digits) for integer string conversion: value has " ++ natText count ++
      " digits; use sys.set_int_max_str_digits() to increase the limit"
  | tooLongToWrite =>
    "Exceeds the limit (4300 digits) for integer string conversion; " ++
      "use sys.set_int_max_str_digits() to increase the limit"
  | infinityToInteger => "cannot convert float infinity to integer"
  | nanToInteger => "cannot convert float NaN to integer"
  | integerTooLarge => "int too large to convert to float"
  | integerFromType typeName =>
    "int() argument must be a string, a bytes-like object or a real number, not " ++
      Text.quote typeName
  | floatFromType typeName =>
    "float() argument must be a string or a real number, not " ++ Text.quote typeName

/-- Whether the number is too large for its kind, rather than no number. -/
def isOverflow : NumberError → Bool
  | infinityToInteger => true
  | integerTooLarge => true
  | _ => false

end NumberError

namespace Number

open Text

/-- The blanks that may stand around a number: of the ASCII characters, only those that print as
white space. -/
def isMargin (c : Char) : Bool :=
  isBlank c && !(0x1c ≤ c.toNat && c.toNat ≤ 0x1f)

/-- The text without the margins at its two ends. -/
def trimMargin (cs : List Char) : List Char :=
  ((cs.dropWhile isMargin).reverse.dropWhile isMargin).reverse

/-- Splits off a sign; the first part tells whether it is a minus. -/
def splitSign : List Char → Bool × List Char
  | '+' :: r => (false, r)
  | '-' :: r => (true, r)
  | cs => (false, cs)

/-- The digits and underscores at the front of a text, and what follows them. -/
def spanDigits (cs : List Char) : List Char × List Char :=
  cs.span fun c => isDecimalDigit c || c == '_'

/-- The values of the digits, if every underscore stands between two digits. -/
def groupedDigits? : List Char → Option (List Nat)
  | [] => some []
  | [c] => (digitValue? c).map ([·])
  -- an underscore at the end separates nothing
  | c :: '_' :: r =>
    match digitValue? c, r.isEmpty with
    | some d, false => (groupedDigits? r).map (d :: ·)
    | _, _ => none
  | c :: r =>
    match digitValue? c, groupedDigits? r with
    | some d, some ds => some (d :: ds)
    | _, _ => none

/-- Reads an integer. -/
def readInteger (text : String) : Except NumberError Int :=
  let body := trimMargin text.toList
  let (negative, rest) := splitSign body
  let (digits, after) := spanDigits rest
  -- the number of digits is judged before what follows them
  match groupedDigits? digits with
  | none => .error (.notInteger text)
  | some ds =>
    -- what follows the digits comes last
    if ds.length = 0 then .error (.notInteger text)
    else if maxIntegerDigits < ds.length then .error (.tooManyDigits ds.length)
    else if after.isEmpty then .ok (Binary.signed negative (valueOfDigits ds))
    else .error (.notInteger text)

/-- Reads the exponent that may follow the digits of a number. -/
def exponent? : List Char → Option Int
  | [] => some 0
  | c :: r =>
    if c = 'e' ∨ c = 'E' then
      let (negative, rest) := splitSign r
      match groupedDigits? rest with
      | some (d :: ds) => some (Binary.signed negative (valueOfDigits (d :: ds)))
      | _ => none
    else none

/-- Reads an unsigned number: digits, a point and digits, of which one part may be missing, and an
exponent. -/
def unsigned? (cs : List Char) : Option (Nat × Int) :=
  let (whole, rest) := spanDigits cs
  let (fraction, rest) :=
    match rest with
    | '.' :: r => spanDigits r
    | r => ([], r)
  match groupedDigits? whole, groupedDigits? fraction, exponent? rest with
  | some w, some f, some e =>
    -- a point by itself is no number
    if w.isEmpty && f.isEmpty then none
    else some (valueOfDigits (w ++ f), e - f.length)
  | _, _, _ => none

/-- Reads a floating-point number. -/
def readBinary? (f : Binary.Format) (text : String) : Option Binary :=
  let (negative, rest) := splitSign (trimMargin text.toList)
  let word := String.ofList (rest.map Char.toLower)
  -- the words count in any case of their letters
  if word = "inf" ∨ word = "infinity" then some (.infinite negative)
  else if word = "nan" then some .nan
  else (unsigned? rest).map fun (c, e) => f.ofDecimal negative c e

/-- Reads a floating-point number of 64 bits. -/
def readFloat (text : String) : Except NumberError Binary :=
  match readBinary? Binary.double text with
  | some x => .ok x
  | none => .error (.notFloat text)

end Number

end SharedTables
