import SharedTables.Predicate.Basic
import SharedTables.Proofs.Number.Digits
import SharedTables.Proofs.Number.Nearest

/-!
# The grammar of predicates

How a predicate is written, part by part, and what the parts denote, without a word on how they are
read:

* a predicate is `blanks column blanks operator blanks literal blanks`;
* a literal is a text in quotes, one of six words, or a number with a sign and a fraction that may
  both be missing;
* a quote belongs to a text in quotes iff a backslash stands directly before it.

## Key results

- `LiteralSyntax.Denotes.unique`: a literal denotes at most one value
- `Parts.Denotes.unique`: a predicate denotes at most one comparison
-/

namespace SharedTables

namespace Predicate

/-! ### Literals -/

/-- The sign of a number. -/
inductive Sign where
  | missing | plus | minus
deriving DecidableEq, Repr

/-- How a sign is written. -/
def Sign.text : Sign → List Char
  | missing => []
  | plus => ['+']
  | minus => ['-']

/-- A literal as it is written. -/
inductive LiteralSyntax where
  /-- A quote, what stands before the closing quote, and the closing quote. -/
  | quoted (quote : Char) (body : List Char)
  | word (letters : List Char)
  /-- A sign, digits, and maybe a point with more digits. -/
  | number (sign : Sign) (whole : List Char) (fraction : Option (List Char))
deriving DecidableEq, Repr

/-- A quote goes on a text only after a backslash, and the last character is none, as the closing
    quote would go on the text then. -/
structure Unbroken (quote : Char) (body : List Char) : Prop where
  escaped : ∀ before after, body = before ++ quote :: after → before.getLast? = some '\\'
  closed : body.getLast? ≠ some '\\'

/-- The text between two quotes, without the backslashes directly before quotes of either kind. -/
def unescape : List Char → List Char
  | '\\' :: '\'' :: rest => '\'' :: unescape rest
  | '\\' :: '"' :: rest => '"' :: unescape rest
  | c :: rest => c :: unescape rest
  | [] => []

namespace LiteralSyntax

/-- The characters of the fraction of a number. -/
def fractionText : Option (List Char) → List Char
  | none => []
  | some digits => '.' :: digits

/-- The characters of a literal. -/
def text : LiteralSyntax → List Char
  | quoted quote body => quote :: (body ++ [quote])
  | word letters => letters
  | number sign whole fraction => sign.text ++ (whole ++ fractionText fraction)

/-- Whether the parts of a literal are what the grammar asks for. -/
def Valid : LiteralSyntax → Prop
  | quoted quote body => (quote = '\'' ∨ quote = '"') ∧ Unbroken quote body
  | word letters =>
    letters ∈ ["true".toList, "TRUE".toList, "false".toList, "FALSE".toList,
      "null".toList, "NULL".toList]
  | number _ whole fraction => IsDigits whole ∧ ∀ digits ∈ fraction, IsDigits digits

/-- The number that digits write, without a sign. -/
def decimalValue (whole : List Char) : Option (List Char) → ℚ
  | none => Nat.ofDigitChars 10 whole 0
  | some digits =>
    Nat.ofDigitChars 10 whole 0 + Nat.ofDigitChars 10 digits 0 / 10 ^ digits.length

/-- The values that a literal stands for. -/
inductive Denotes : LiteralSyntax → Literal → Prop
  | quoted (quote : Char) (body : List Char) :
      Denotes (quoted quote body) (.text (String.ofList (unescape body)))
  | yes {letters : List Char} (h : letters = "true".toList ∨ letters = "TRUE".toList) :
      Denotes (word letters) (.bool true)
  | no {letters : List Char} (h : letters = "false".toList ∨ letters = "FALSE".toList) :
      Denotes (word letters) (.bool false)
  | null {letters : List Char} (h : letters = "null".toList ∨ letters = "NULL".toList) :
      Denotes (word letters) .null
  | integer {sign : Sign} {whole : List Char} (h : whole.length ≤ 4300) :
      Denotes (number sign whole none)
        (.integer (if sign = .minus then -Nat.ofDigitChars 10 whole 0
          else Nat.ofDigitChars 10 whole 0))
  | float {sign : Sign} {whole : List Char} {fraction : Option (List Char)} {x : Binary}
      (h : fraction = none → 4300 < whole.length)
      (nearest : Binary.double.IsNearest (sign = .minus) (decimalValue whole fraction) x) :
      Denotes (number sign whole fraction) (.float x)

/-- A literal denotes at most one value. -/
theorem Denotes.unique {w : LiteralSyntax} {l l' : Literal} (h : w.Denotes l)
    (h' : w.Denotes l') : l = l' := by
  cases h with
  | quoted => cases h'; rfl
  | yes h | no h | null h =>
    rcases h with rfl | rfl <;> cases h' with
    | yes h' | no h' | null h' =>
      first
        | rfl
        | exact absurd h' (by decide)
  | integer h =>
    cases h' with
    | integer _ => rfl
    | float h' _ => exact absurd (h' rfl) (by omega)
  | float h hx =>
    cases h' with
    | integer h' => exact absurd (h rfl) (by omega)
    | float _ hy => rw [hx.unique Binary.Format.usual_double hy]

end LiteralSyntax

/-! ### Predicates -/

/-- The blanks between the parts of a predicate. -/
def IsBlanks (cs : List Char) : Prop :=
  ∀ c ∈ cs, c = ' ' ∨ c = '\t' ∨ c = '\r' ∨ c = '\n'

/-- The parts of a predicate as it is written. -/
structure Parts where
  before : List Char
  column : List Char
  beforeOperator : List Char
  operator : Operator
  beforeValue : List Char
  value : LiteralSyntax
  after : List Char
deriving DecidableEq, Repr

namespace Parts

/-- The characters of a predicate. -/
def text (d : Parts) : List Char :=
  d.before ++ (d.column ++ (d.beforeOperator ++ (d.operator.symbol.toList ++
    (d.beforeValue ++ (d.value.text ++ d.after)))))

/-- Whether the parts are what the grammar asks for. -/
structure Valid (d : Parts) : Prop where
  before : IsBlanks d.before
  column_ne_nil : d.column ≠ []
  column : ∀ c ∈ d.column, 'A' ≤ c ∧ c ≤ 'Z' ∨ 'a' ≤ c ∧ c ≤ 'z' ∨ '0' ≤ c ∧ c ≤ '9' ∨
    c = '_' ∨ c = '.'
  beforeOperator : IsBlanks d.beforeOperator
  beforeValue : IsBlanks d.beforeValue
  value : d.value.Valid
  after : IsBlanks d.after

/-- The parts are a way to write the text. -/
def Spells (d : Parts) (text : String) : Prop :=
  d.Valid ∧ d.text = text.toList

/-- The comparison that the parts stand for. -/
structure Denotes (d : Parts) (p : Predicate) : Prop where
  operator : p.operator = d.operator
  column : p.column = String.ofList d.column
  value : d.value.Denotes p.value

/-- A predicate denotes at most one comparison. -/
theorem Denotes.unique {d : Parts} {p q : Predicate} (hp : d.Denotes p) (hq : d.Denotes q) :
    p = q := by
  obtain ⟨op, column, value, _⟩ := p
  obtain ⟨op', column', value', _⟩ := q
  obtain rfl : op = op' := hp.operator.trans hq.operator.symm
  obtain rfl : column = column' := hp.column.trans hq.column.symm
  obtain rfl : value = value' := hp.value.unique hq.value
  rfl

end Parts

end Predicate

end SharedTables
