import SharedTables.Text.Printable

/-!
# Quoted text

Messages show texts in quotes.  Single quotes are used unless the text holds a single quote and no
double quote.  A backslash and the chosen quote are escaped by a backslash, line feed, carriage
return and tab by their letters, and every other character that is not printable by its code in
hexadecimal: two digits below U+0100, four below U+10000, eight above.
-/

namespace SharedTables.Text

/-- The last `width` hexadecimal digits of `n`, most significant first, in small letters. -/
def hexDigits : Nat → Nat → List Char
  | 0, _ => []
  | width + 1, n => hexDigits width (n / 16) ++ [Nat.digitChar (n % 16)]

/-- The value of a hexadecimal digit, in small letters or in capitals. -/
def hexValue? (c : Char) : Option Nat :=
  if c.isDigit then some (c.toNat - '0'.toNat)
  else if 'a' ≤ c ∧ c ≤ 'f' then some (c.toNat - 'a'.toNat + 10)
  else if 'A' ≤ c ∧ c ≤ 'F' then some (c.toNat - 'A'.toNat + 10)
  else none

/-- The escape of a character by its code. -/
def escapeCode (code : Nat) : List Char :=
  if code < 0x100 then '\\' :: 'x' :: hexDigits 2 code
  else if code < 0x10000 then '\\' :: 'u' :: hexDigits 4 code
  else '\\' :: 'U' :: hexDigits 8 code

/-- One character as it stands between the quotes `quote`. -/
def escapeChar (quote c : Char) : List Char :=
  if c = '\\' ∨ c = quote then ['\\', c]
  else if c = '\n' then ['\\', 'n']
  else if c = '\r' then ['\\', 'r']
  else if c = '\t' then ['\\', 't']
  else if isPrintable c then [c]
  else escapeCode c.toNat

/-- The quote that a text is put in. -/
def quoteFor (cs : List Char) : Char :=
  -- single quotes unless double ones need fewer escapes
  if cs.contains '\'' && !cs.contains '"' then '"' else '\''

/-- The quoted form of a text. -/
def quote (s : String) : String :=
  let q := quoteFor s.toList
  String.ofList (q :: s.toList.flatMap (escapeChar q) ++ [q])

/-- One byte as it stands between the quotes `quote`: only ASCII is shown as it is. -/
def escapeByte (quote : Char) (b : UInt8) : List Char :=
  if b < 0x7f then escapeChar quote (Char.ofNat b.toNat) else escapeCode b.toNat

/-- The quoted form of a sequence of bytes, marked by a `b` in front. -/
def quoteBytes (bytes : List UInt8) : String :=
  let q := quoteFor (bytes.map fun b => Char.ofNat b.toNat)
  String.ofList ('b' :: q :: bytes.flatMap (escapeByte q) ++ [q])

/-- The bracketed list of quoted texts. -/
def quoteList (texts : List String) : String :=
  "[" ++ String.intercalate ", " (texts.map quote) ++ "]"

end SharedTables.Text
