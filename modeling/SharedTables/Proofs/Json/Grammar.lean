import SharedTables.Json.Reader
import SharedTables.Proofs.Number.Digits

/-!
# The grammar of JSON

How values are written in JSON, part by part, without a word on how they are read:

* a string stands in quotes; its characters stand for themselves, or after a backslash as a letter
  or as one or two 16-bit codes;
* a number has a whole part without needless zeros; with a fraction or an exponent it is the
  floating-point number nearest to what is written, without either an integer;
* there may be blanks around all the parts of lists and objects, and the last of the members of one
  name counts.

`SpellsItems` and `SpellsMembers` include the bracket that closes the list or the object.
-/

namespace SharedTables.Json

/-- Blanks between the parts of a text. -/
def IsGap (cs : List Char) : Prop :=
  ∀ c ∈ cs, isSpace c = true

/-! ### Strings -/

/-- A 16-bit code in hexadecimal. -/
inductive SpellsCode : Nat → List Char → Prop
  | intro {a b c d : Char} {n : Nat} (hex : hexCode? a b c d = some n) :
      SpellsCode n ['\\', 'u', a, b, c, d]

/-- The characters of a string, and how they are written between its quotes. -/
inductive SpellsChars : List Char → List Char → Prop
  | nil : SpellsChars [] []
  | plain {c : Char} {cs body : List Char} (quote : c ≠ '"') (backslash : c ≠ '\\')
      (printed : 0x20 ≤ c.toNat) (rest : SpellsChars cs body) : SpellsChars (c :: cs) (c :: body)
  | letter {l c : Char} {cs body : List Char} (escaped : escaped? l = some c)
      (rest : SpellsChars cs body) : SpellsChars (c :: cs) ('\\' :: l :: body)
  | code {n : Nat} {cs code body : List Char} (spells : SpellsCode n code)
      (whole : n < 0xd800 ∨ 0xe000 ≤ n) (rest : SpellsChars cs body) :
      SpellsChars (Char.ofNat n :: cs) (code ++ body)
  | pair {m n : Nat} {cs high low body : List Char} (first : SpellsCode (0xd800 + m) high)
      (second : SpellsCode (0xdc00 + n) low) (first_lt : m < 0x400) (second_lt : n < 0x400)
      (rest : SpellsChars cs body) :
      SpellsChars (Char.ofNat (0x10000 + m * 0x400 + n) :: cs) (high ++ (low ++ body))

/-! ### Numbers -/

/-- A run of digits that does not start with a needless zero. -/
def IsWhole (ds : List Char) : Prop :=
  ds = ['0'] ∨ IsDigits ds ∧ ds.head? ≠ some '0'

/-- An exponent, which may be missing. -/
inductive SpellsExponent : Option Int → List Char → Prop
  | missing : SpellsExponent none []
  | plain {e : Char} {ds : List Char} (letter : e = 'e' ∨ e = 'E') (digits : IsDigits ds) :
      SpellsExponent (some (Text.digitsValue ds)) (e :: ds)
  | plus {e : Char} {ds : List Char} (letter : e = 'e' ∨ e = 'E') (digits : IsDigits ds) :
      SpellsExponent (some (Text.digitsValue ds)) (e :: '+' :: ds)
  | minus {e : Char} {ds : List Char} (letter : e = 'e' ∨ e = 'E') (digits : IsDigits ds) :
      SpellsExponent (some (-Text.digitsValue ds)) (e :: '-' :: ds)

/-- The digits after a point; without digits there is no point either. -/
def fractionText (ds : List Char) : List Char :=
  if ds = [] then [] else '.' :: ds

/-- A number without its sign. -/
inductive SpellsNumber (negative : Bool) : Value → List Char → Prop
  | integer {whole : List Char} (digits : IsWhole whole)
      (length : whole.length ≤ maxIntegerDigits) :
      SpellsNumber negative (.int (Binary.signed negative (Text.digitsValue whole))) whole
  | decimal {whole fraction exponent : List Char} {e : Option Int} (digits : IsWhole whole)
      (fraction_digits : ∀ c ∈ fraction, c.isDigit = true) (spells : SpellsExponent e exponent)
      (inexact : fraction ≠ [] ∨ e ≠ none) :
      SpellsNumber negative
        (.float (Binary.double.ofDecimal negative (Text.digitsValue (whole ++ fraction))
          (e.getD 0 - fraction.length)))
        (whole ++ (fractionText fraction ++ exponent))

/-! ### Values -/

mutual

/-- A value, and how it is written. -/
inductive Spells : Value → List Char → Prop
  | word {v : Value} {word : List Char} (mem : (word, v) ∈ words) : Spells v word
  | number {v : Value} {cs : List Char} (spells : SpellsNumber false v cs) : Spells v cs
  | negative {v : Value} {cs : List Char} (spells : SpellsNumber true v cs) : Spells v ('-' :: cs)
  | text {s : String} {body : List Char} (spells : SpellsChars s.toList body) :
      Spells (.text s) ('"' :: (body ++ ['"']))
  | emptyList {gap : List Char} (blank : IsGap gap) : Spells (.list []) ('[' :: (gap ++ [']']))
  | list {gap cs : List Char} {items : List Value} (blank : IsGap gap)
      (spells : SpellsItems items cs) : Spells (.list items) ('[' :: (gap ++ cs))
  | emptyObject {gap : List Char} (blank : IsGap gap) : Spells (.object []) ('{' :: (gap ++ ['}']))
  | object {gap cs : List Char} {members : List (String × Value)} (blank : IsGap gap)
      (spells : SpellsMembers members cs) :
      Spells (.object (Members.ofPairs members)) ('{' :: (gap ++ cs))

/-- The items of a list that has some. -/
inductive SpellsItems : List Value → List Char → Prop
  | last {v : Value} {cs gap : List Char} (spells : Spells v cs) (blank : IsGap gap) :
      SpellsItems [v] (cs ++ (gap ++ [']']))
  | more {v : Value} {items : List Value} {cs gap gap' rest : List Char} (spells : Spells v cs)
      (blank : IsGap gap) (blank' : IsGap gap') (others : SpellsItems items rest) :
      SpellsItems (v :: items) (cs ++ (gap ++ ',' :: (gap' ++ rest)))

/-- A name and its value. -/
inductive SpellsMember : String × Value → List Char → Prop
  | intro {name : String} {v : Value} {body gap gap' cs : List Char}
      (name_spells : SpellsChars name.toList body) (blank : IsGap gap) (blank' : IsGap gap')
      (spells : Spells v cs) :
      SpellsMember (name, v) ('"' :: (body ++ '"' :: (gap ++ ':' :: (gap' ++ cs))))

/-- The members of an object that has some. -/
inductive SpellsMembers : List (String × Value) → List Char → Prop
  | last {m : String × Value} {cs gap : List Char} (spells : SpellsMember m cs)
      (blank : IsGap gap) : SpellsMembers [m] (cs ++ (gap ++ ['}']))
  | more {m : String × Value} {members : List (String × Value)} {cs gap gap' rest : List Char}
      (spells : SpellsMember m cs) (blank : IsGap gap) (blank' : IsGap gap')
      (others : SpellsMembers members rest) :
      SpellsMembers (m :: members) (cs ++ (gap ++ ',' :: (gap' ++ rest)))

end

end SharedTables.Json
