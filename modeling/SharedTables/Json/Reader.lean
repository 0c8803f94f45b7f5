import SharedTables.Value

/-!
# Reading JSON

`Json.read` reads one JSON text: blanks, a value, blanks.  Beyond the standard it accepts the words
`NaN`, `Infinity` and `-Infinity`.  A number without a fraction and an exponent is an integer of up
to `maxIntegerDigits` digits, any other is the nearest 64-bit number.  Of members with one name the
last counts.

`readValue` and its companions take fuel.  Every two units of it read at least one character, so
`read` starts with enough for any text.
-/

namespace SharedTables.Json

/-- Why a text is not read. -/
inductive ReadError where
  /-- It is no JSON. -/
  | malformed
  /-- It holds an integer with too many digits. -/
  | tooManyDigits (count : Nat)
deriving DecidableEq, Repr

/-- Blanks between the parts of a text. -/
def isSpace (c : Char) : Bool :=
  c == ' ' || c == '\t' || c == '\n' || c == '\r'

/-- The text from its first character on that is no blank. -/
def skipSpace (cs : List Char) : List Char :=
  cs.dropWhile isSpace

/-- One element of a string: a character, or a 16-bit code given in hexadecimal. -/
inductive StringUnit where
  | char (c : Char)
  | code (n : Nat)
deriving DecidableEq, Repr

/-- The number that four hexadecimal digits write. -/
def hexCode? (a b c d : Char) : Option Nat := do
  let a ← Text.hexValue? a
  let b ← Text.hexValue? b
  let c ← Text.hexValue? c
  let d ← Text.hexValue? d
  return ((a * 16 + b) * 16 + c) * 16 + d

/-- The character that a letter after a backslash stands for. -/
def escaped? : Char → Option Char
  | '"' => some '"'
  | '\\' => some '\\'
  | '/' => some '/'
  | 'b' => some '\x08'
  | 'f' => some '\x0c'
  | 'n' => some '\n'
  | 'r' => some '\r'
  | 't' => some '\t'
  | _ => none

/-- The elements of a string up to its closing quote, and what follows the quote. -/
def stringUnits? : List Char → Option (List StringUnit × List Char)
  | [] => none
  | '"' :: rest => some ([], rest)
  -- before the other escapes, of which `u` is none
  | '\\' :: 'u' :: a :: b :: c :: d :: rest => do
    let n ← hexCode? a b c d
    let (units, after) ← stringUnits? rest
    return (.code n :: units, after)
  | '\\' :: c :: rest => do
    let e ← escaped? c
    let (units, after) ← stringUnits? rest
    return (.char e :: units, after)
  | c :: rest =>
    -- a line break inside of a string is an error
    if c = '\\' ∨ c.toNat < 0x20 then none
    else do
      let (units, after) ← stringUnits? rest
      return (.char c :: units, after)

/-- The characters of a string.  Two codes that are a surrogate pair are one character; half a pair
has no character and becomes U+FFFD. -/
def unitChars : List StringUnit → List Char
  | [] => []
  | .char c :: rest => c :: unitChars rest
  | .code high :: .code low :: rest =>
    if 0xd800 ≤ high ∧ high < 0xdc00 ∧ 0xdc00 ≤ low ∧ low < 0xe000 then
      Char.ofNat (0x10000 + (high - 0xd800) * 0x400 + (low - 0xdc00)) :: unitChars rest
    else if 0xd800 ≤ high ∧ high < 0xe000 then '\ufffd' :: unitChars (.code low :: rest)
    else Char.ofNat high :: unitChars (.code low :: rest)
  | .code n :: rest =>
    (if 0xd800 ≤ n ∧ n < 0xe000 then '\ufffd' else Char.ofNat n) :: unitChars rest

/-- Reads a string whose opening quote has been read. -/
def readString? (cs : List Char) : Option (String × List Char) :=
  (stringUnits? cs).map fun (units, rest) => (String.ofList (unitChars units), rest)

/-- The whole part of a number: a zero, or digits that do not start with one. -/
def readWhole? (cs : List Char) : Option (List Char × List Char) :=
  match cs with
  | '0' :: rest => some (['0'], rest)
  | _ =>
    let (digits, rest) := cs.span Char.isDigit
    if digits.isEmpty then none else some (digits, rest)

/-- The digits after a point, if there are any. -/
def readFraction (cs : List Char) : List Char × List Char :=
  match cs with
  | '.' :: rest =>
    let (digits, after) := rest.span Char.isDigit
    -- a point without digits is left for what follows
    if digits.isEmpty then ([], cs) else (digits, after)
  | _ => ([], cs)

/-- The exponent, if there is a complete one. -/
def readExponent (cs : List Char) : Option Int × List Char :=
  match cs with
  | c :: rest =>
    if c = 'e' ∨ c = 'E' then
      let (negative, tail) := Number.splitSign rest
      let (digits, after) := tail.span Char.isDigit
      if digits.isEmpty then (none, cs)
      else (some (Binary.signed negative (Text.digitsValue digits)), after)
    else (none, cs)
  | [] => (none, [])

/-- Reads a number without its sign. -/
def readNumber (negative : Bool) (cs : List Char) : Except ReadError (Value × List Char) :=
  match readWhole? cs with
  | none => .error .malformed
  | some (whole, rest) =>
    let (fraction, rest) := readFraction rest
    match fraction, readExponent rest with
    -- neither a point nor an exponent makes it an integer
    | [], (none, rest) =>
      if maxIntegerDigits < whole.length then .error (.tooManyDigits whole.length)
      else .ok (.int (Binary.signed negative (Text.digitsValue whole)), rest)
    | _, (exponent, rest) =>
      let coefficient := Text.digitsValue (whole ++ fraction)
      .ok (.float (Binary.double.ofDecimal negative coefficient
        (exponent.getD 0 - fraction.length)), rest)

/-- The words that stand for values. -/
def words : List (List Char × Value) :=
  [("null".toList, .null), ("true".toList, .bool true), ("false".toList, .bool false),
    ("NaN".toList, .float .nan), ("Infinity".toList, .float (.infinite false)),
    ("-Infinity".toList, .float (.infinite true))]

/-- Reads one of the words that stand for values. -/
def readWord? (cs : List Char) : Option (Value × List Char) :=
  words.findSome? fun (word, v) =>
    if word.isPrefixOf cs then some (v, cs.drop word.length) else none

mutual

/-- Reads a value that starts at the front of the text. -/
def readValue : Nat → List Char → Except ReadError (Value × List Char)
  | 0, _ => .error .malformed
  | fuel + 1, cs =>
    match cs with
    | '"' :: rest =>
      match readString? rest with
      | some (s, rest) => .ok (.text s, rest)
      | none => .error .malformed
    | '[' :: rest =>
      match skipSpace rest with
      | ']' :: after => .ok (.list [], after)
      | start => do
        let (items, after) ← readItems fuel start
        return (.list items, after)
    | '{' :: rest =>
      match skipSpace rest with
      | '}' :: after => .ok (.object [], after)
      | start => do
        let (members, after) ← readMembers fuel start
        -- of members with one name the last counts
        return (.object (Members.ofPairs members), after)
    | _ =>
      -- words first, because `-Infinity` starts like a number
      match readWord? cs with
      | some found => .ok found
      | none =>
        match cs with
        | '-' :: rest => readNumber true rest
        | _ => readNumber false cs

/-- Reads the items of a list up to its closing bracket. -/
def readItems : Nat → List Char → Except ReadError (List Value × List Char)
  | 0, _ => .error .malformed
  | fuel + 1, cs => do
    let (v, rest) ← readValue fuel cs
    match skipSpace rest with
    | ']' :: after => return ([v], after)
    | ',' :: after => do
      let (items, after) ← readItems fuel (skipSpace after)
      return (v :: items, after)
    | _ => .error .malformed

/-- Reads the members of an object up to its closing brace. -/
def readMembers : Nat → List Char → Except ReadError (List (String × Value) × List Char)
  | 0, _ => .error .malformed
  | fuel + 1, cs =>
    match cs with
    | '"' :: rest =>
      match readString? rest with
      | none => .error .malformed
      | some (name, rest) =>
        match skipSpace rest with
        | ':' :: rest => do
          let (v, rest) ← readValue fuel (skipSpace rest)
          match skipSpace rest with
          | '}' :: after => return ([(name, v)], after)
          | ',' :: after => do
            let (members, after) ← readMembers fuel (skipSpace after)
            return ((name, v) :: members, after)
          | _ => .error .malformed
        | _ => .error .malformed
    | _ => .error .malformed

end

/-- Reads a JSON text. -/
def read (text : String) : Except ReadError Value := do
  let cs := text.toList
  -- two units of fuel for each character, and two more for the value around them
  let (v, rest) ← readValue (2 * cs.length + 2) (skipSpace cs)
  if (skipSpace rest).isEmpty then return v else .error .malformed

end SharedTables.Json
