import SharedTables.Predicate.Basic

/-!
# Predicates in canonical form

`Predicate.render` writes a predicate with one blank around its operator.  Texts stand in single
quotes with both kinds of quotes escaped, words in small letters, floating-point numbers with the
fewest digits that read back and never with an exponent.  `Predicate.format` is for predicates of
any origin: an integer of more than `maxIntegerDigits` digits is not written.
-/

namespace SharedTables

/-- The characters of a text between its quotes. -/
def Literal.escapeQuotes : List Char → List Char
  | [] => []
  | c :: rest =>
    if c = '\'' ∨ c = '"' then '\\' :: c :: escapeQuotes rest else c :: escapeQuotes rest

/-- A literal in canonical form. -/
def Literal.render : Literal → String
  | integer n => intText n
  | float x => FloatStyle.positional.write Binary.double x
  | text s => String.ofList ('\'' :: escapeQuotes s.toList ++ ['\''])
  | bool b => if b then "true" else "false"
  | null => "null"

/-- A predicate in canonical form. -/
def Predicate.render (p : Predicate) : String :=
  p.column ++ " " ++ p.operator.symbol ++ " " ++ p.value.render

/-- A predicate in canonical form, unless its integer has too many digits to be written. -/
def Predicate.format (p : Predicate) : Except NumberError String :=
  match p.value with
  | .integer n =>
    -- the sign is not counted
    if maxIntegerDigits < (natText n.natAbs).length then .error .tooLongToWrite else .ok p.render
  | _ => .ok p.render

end SharedTables
