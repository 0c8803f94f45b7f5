import SharedTables.Value

/-!
# Predicates

A predicate compares one column with a literal: `status != 'open'`.  The name of the column is a
non-empty run of letters, digits, underscores and points; `Predicate.column_valid` keeps that in the
type, so whatever builds a predicate has checked its column.

`Literal` keeps integers, floating-point numbers, texts, truth values and null apart: `1`, `1.0` and
`true` are three different literals.
-/

namespace SharedTables

/-- The comparison operators. -/
inductive Operator where
  | eq | ne | gt | lt | ge | le
deriving DecidableEq, Repr

namespace Operator

/-- How an operator is written. -/
def symbol : Operator → String
  | eq => "="
  | ne => "!="
  | gt => ">"
  | lt => "<"
  | ge => ">="
  | le => "<="

/-- The operators in the order in which a reader tries them: one that starts with another comes
first. -/
def all : List Operator := [ge, le, ne, eq, gt, lt]

/-- The operator that is written so. -/
def ofSymbol? (s : String) : Option Operator :=
  all.find? fun op => op.symbol == s

@[simp] theorem ofSymbol?_symbol (op : Operator) : ofSymbol? op.symbol = some op := by
  cases op <;> decide

/-- Whether the operator asks for equality or its opposite. -/
def isEquality : Operator → Bool
  | eq => true
  | ne => true
  | _ => false

/-- Whether the operator accepts two sides that compare in the given way. -/
def accepts : Operator → Ordering → Bool
  | eq, o => o == .eq
  | ne, o => o != .eq
  | gt, o => o == .gt
  | lt, o => o == .lt
  | ge, o => o != .lt
  | le, o => o != .gt

end Operator

/-- The right-hand side of a predicate. -/
inductive Literal where
  | integer (n : Int)
  | float (x : Binary)
  | text (s : String)
  | bool (b : Bool)
  | null
deriving DecidableEq, Repr

namespace Literal

/-- The kind of a literal in listings. -/
def kind : Literal → String
  | integer _ => "integer"
  | float _ => "float"
  | text _ => "text"
  | bool _ => "bool"
  | null => "null"

/-- The literal as an untyped value. -/
def toValue : Literal → Value
  | integer n => .int n
  | float x => .float x
  | text s => .text s
  | bool b => .bool b
  | null => .null

/-- The literal that an untyped value is; lists and objects are none. -/
def ofValue? : Value → Option Literal
  | .int n => some (integer n)
  | .float x => some (float x)
  | .text s => some (text s)
  | .bool b => some (bool b)
  | .null => some null
  | _ => none

@[simp] theorem ofValue?_toValue (l : Literal) : ofValue? l.toValue = some l := by
  cases l <;> rfl

end Literal

/-- The characters of column names. -/
def isColumnChar (c : Char) : Bool :=
  c.isAlphanum || c == '_' || c == '.'

/-- Whether a text can stand as a column name in a predicate. -/
def isColumnName (s : String) : Bool :=
  !s.toList.isEmpty && s.toList.all isColumnChar

/-- A comparison of a column with a literal. -/
structure Predicate where
  operator : Operator
  column : String
  value : Literal
  column_valid : isColumnName column = true
deriving DecidableEq, Repr

/-- Why no predicate was built from its parts. -/
inductive PredicateError where
  /-- A value other than a text where the text of a predicate was asked for. -/
  | notText (typeName : String)
  /-- The value is no column name. -/
  | columnName (value : Value)
  /-- The value is no operator. -/
  | operator (value : Value)
  /-- The value is no literal. -/
  | valueType (typeName : String)

/-- The wording of each cause. -/
def PredicateError.message : PredicateError → String
  | notText typeName => "Predicate must be a string, got " ++ typeName
  | columnName value => "Invalid column name: " ++ value.literal
  | operator value => value.literal ++ " is not a valid Operator"
  | valueType typeName => "Unsupported predicate value type: " ++ typeName

/-- Builds a predicate from parts of unknown validity: first the column is checked, then the
operator, then the value. -/
def Predicate.ofParts (operator column value : Value) : Except PredicateError Predicate :=
  match column with
  | .text name =>
    -- the check is the proof that the predicate carries
    if h : isColumnName name = true then
      match operator with
      | .text s =>
        match Operator.ofSymbol? s with
        | none => .error (.operator operator)
        | some op =>
          match Literal.ofValue? value with
          | none => .error (.valueType value.typeName)
          | some literal => .ok ⟨op, name, literal, h⟩
      | _ => .error (.operator operator)
    else .error (.columnName column)
  | _ => .error (.columnName column)

end SharedTables
