import SharedTables.Predicate.Basic

/-!
# Reading predicates

A predicate is written as a column, an operator and a literal, with blanks allowed around each:

* a literal text stands in single or double quotes, in which a backslash directly before either
  quote makes it part of the text;
* `true`, `false` and `null` are also known in capitals;
* a number is a sign, digits, and a point with more digits; without a point and with at most
  `maxIntegerDigits` digits it is an integer, otherwise the nearest floating-point number.

A text that is no predicate is rejected with the offset at which reading stopped and with what was
expected there.  `ParseError.line` and `ParseError.column` locate that offset for a reader.

* `isColumnName_takeWhile`  a non-empty run of column characters is a column name
-/

namespace SharedTables

/-- What a reader of predicates expected and did not find. -/
inductive ParseReason where
  | column
  | operator
  | value
  /-- The text that starts at this offset has no closing quote. -/
  | unterminated (start : Nat)
  /-- Something follows the literal. -/
  | trailing (rest : String)
deriving DecidableEq, Repr

/-- The wording of each reason. -/
def ParseReason.message : ParseReason → String
  | column => "expected column name"
  | operator => "expected operator (one of >=, <=, !=, =, >, <)"
  | value => "expected value (quoted string, true/false/null or number)"
  | unterminated start => "unterminated string starting at offset " ++ natText start
  | trailing rest => "expected end of string, got " ++ Text.quote rest

/-- Why a text is no predicate, and where. -/
structure ParseError where
  text : String
  offset : Nat
  reason : ParseReason
deriving DecidableEq, Repr

namespace ParseError

/-- The characters before the offset. -/
def consumed (e : ParseError) : List Char :=
  e.text.toList.take e.offset

/-- The number of the line of the offset, from one. -/
def line (e : ParseError) : Nat :=
  e.consumed.count '\n' + 1

/-- The place of the offset in its line, from one. -/
def column (e : ParseError) : Nat :=
  (e.consumed.reverse.takeWhile (· != '\n')).length + 1

/-- The wording of the error. -/
def message (e : ParseError) : String :=
  "parse error at line " ++ natText e.line ++ ", column " ++ natText e.column ++ ": " ++
    e.reason.message

end ParseError

namespace Predicate

/-- The blanks between the parts of a predicate. -/
def isGap (c : Char) : Bool :=
  c == ' ' || c == '\t' || c == '\r' || c == '\n'

/-- The text from its first character on that is no blank. -/
def skipGap (cs : List Char) : List Char :=
  cs.dropWhile isGap

/-- A non-empty run of column characters is a column name. -/
theorem isColumnName_takeWhile {cs : List Char} (h : cs.takeWhile isColumnChar ≠ []) :
    isColumnName (String.ofList (cs.takeWhile isColumnChar)) = true := by
  simp only [isColumnName, String.toList_ofList, List.all_takeWhile, Bool.and_true,
    Bool.not_eq_true', List.isEmpty_eq_false_iff]
  exact h

/-- Reads an operator, the longer ones first. -/
def readOperator? (cs : List Char) : Option (Operator × List Char) :=
  Operator.all.findSome? fun op =>
    if op.symbol.toList.isPrefixOf cs then some (op, cs.drop op.symbol.length) else none

/-- Reads a text up to the closing quote. -/
def readQuoted? (quote : Char) : List Char → Option (List Char × List Char)
  | [] => none
  | '\\' :: '\'' :: rest => (readQuoted? quote rest).map fun r => ('\'' :: r.1, r.2)
  | '\\' :: '"' :: rest => (readQuoted? quote rest).map fun r => ('"' :: r.1, r.2)
  | c :: rest =>
    -- the other kind of quote is a character like any
    if c = quote then some ([], rest)
    else (readQuoted? quote rest).map fun r => (c :: r.1, r.2)

/-- The words that are literals. -/
def literalWords : List (List Char × Literal) :=
  [("true".toList, .bool true), ("TRUE".toList, .bool true),
    ("false".toList, .bool false), ("FALSE".toList, .bool false),
    ("null".toList, .null), ("NULL".toList, .null)]

/-- Reads one of the words that are literals. -/
def readWord? (cs : List Char) : Option (Literal × List Char) :=
  literalWords.findSome? fun (word, l) =>
    if word.isPrefixOf cs then some (l, cs.drop word.length) else none

/-- The literal that a sign, digits and the digits after a point write. -/
def numberLiteral (negative : Bool) (whole : List Char) (fraction : Option (List Char)) : Literal :=
  match fraction with
  | none =>
    -- leading zeros are digits too
    if whole.length ≤ maxIntegerDigits then
      .integer (Binary.signed negative (Text.digitsValue whole))
    else .float (Binary.double.ofDecimal negative (Text.digitsValue whole) 0)
  | some digits =>
    .float (Binary.double.ofDecimal negative (Text.digitsValue (whole ++ digits)) (-digits.length))

/-- Reads the point and the digits after it; a point without digits is left where it is. -/
def readFraction? (cs : List Char) : Option (List Char) × List Char :=
  match cs with
  | '.' :: rest =>
    let digits := rest.takeWhile Char.isDigit
    if digits.isEmpty then (none, cs) else (some digits, rest.dropWhile Char.isDigit)
  | _ => (none, cs)

/-- Reads a number. -/
def readNumber? (cs : List Char) : Option (Literal × List Char) :=
  let (negative, body) := Number.splitSign cs
  let whole := body.takeWhile Char.isDigit
  -- a sign, or a point, alone is no number
  if whole.isEmpty then none
  else
    let (fraction, rest) := readFraction? (body.dropWhile Char.isDigit)
    some (numberLiteral negative whole fraction, rest)

/-- Reads a literal; `start` is its offset. -/
def readLiteral (start : Nat) (cs : List Char) : Except ParseReason (Literal × List Char) :=
  match cs with
  | c :: rest =>
    if c = '\'' ∨ c = '"' then
      match readQuoted? c rest with
      | some (chars, rest) => .ok (.text (String.ofList chars), rest)
      | none => .error (.unterminated start)
    else
      match readWord? cs with
      | some found => .ok found
      | none =>
        match readNumber? cs with
        | some found => .ok found
        | none => .error .value
  | [] => .error .value

/-- Reads a predicate. -/
def parse (text : String) : Except ParseError Predicate :=
  let cs := text.toList
  -- the rest of the text tells how much has been read
  let offset := fun (rest : List Char) => cs.length - rest.length
  let start := skipGap cs
  if h : start.takeWhile isColumnChar = [] then .error ⟨text, offset start, .column⟩
  else
    -- from here on the column is known to be a name
    let gap := skipGap (start.dropWhile isColumnChar)
    match readOperator? gap with
    | none => .error ⟨text, offset gap, .operator⟩
    | some (op, rest) =>
      let operand := skipGap rest
      match readLiteral (offset operand) operand with
      | .error reason => .error ⟨text, offset operand, reason⟩
      | .ok (literal, rest) =>
        let tail := skipGap rest
        if tail = [] then
          .ok ⟨op, String.ofList (start.takeWhile isColumnChar), literal, isColumnName_takeWhile h⟩
        else .error ⟨text, offset tail, .trailing (String.ofList tail)⟩

end Predicate

end SharedTables
