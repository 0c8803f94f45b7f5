import SharedTables.Table.DataType

/-!
# Common types

When tables are stacked their columns take the common type of what they hold.  `DataType.unify?`
is the common type of two types, if they have one:

* of integers the narrowest signed type that holds both, or the wider if both are signed or
  unsigned alike;
* floating-point numbers take in all numbers; with 32 bits only those of up to 16;
* a truth value counts as a number, dates, times of day and points in time count their units;
* of points in time in one zone, and of lengths of time, those in the longer unit;
* texts take in numbers, truth values, dates, times of day and points in time;
* lists and structs have a common type if their items or fields do.

A column without values takes any type.

* `DataType.unify?_self`  a type is its own common type
-/

namespace SharedTables

namespace DataType

/-- The common type of two integer types. -/
def unifyInt (signed : Bool) (bits : Nat) (signed' : Bool) (bits' : Nat) : DataType :=
  if signed = signed' then int signed (max bits bits')
  else
    -- the bits of the signed type and of the unsigned one
    let (s, u) := if signed then (bits, bits') else (bits', bits)
    int true (if u < s then s else 2 * u)

/-- The precision of decimals that hold an integer type beside decimals of the given precision and
scale. -/
def decimalPrecision (precision scale : Nat) (signed : Bool) (bits : Nat) : Nat :=
  if maxInt signed bits * Nat.pow 10 scale < Nat.pow 10 precision then precision else 38

/-- Whether columns of texts take in values of the type. -/
def hasPlainText : DataType → Bool
  | boolean => true
  | date => true
  | time => true
  | datetime .. => true
  | type => type.isNumeric || type.isTextual

/-- The common type of two types that hold no further types, in one of the two orders. -/
def unifyPlain : DataType → DataType → Option DataType
  | int s b, int t c => some (unifyInt s b t c)
  | int _ b, float32 => some (if b ≤ 16 then float32 else float64)
  | int .., float64 => some float64
  | float32, float64 => some float64
  | boolean, int s b => some (int s b)
  | boolean, float32 => some float32
  | boolean, float64 => some float64
  | decimal p s, decimal q t => some (decimal (max p q) (max s t))
  | decimal p s, int t b => some (decimal (decimalPrecision p s t b) s)
  | decimal .., float32 => some float32
  | decimal .., float64 => some float64
  | date, datetime u z => some (datetime u z)
  | date, int true 32 => some (int true 32)
  | date, int _ 32 => some int64
  | date, int _ 64 => some int64
  | date, float32 => some float32
  | date, float64 => some float64
  | time, int true b => if b = 32 ∨ b = 64 then some int64 else none
  | time, float32 => some float64
  | time, float64 => some float64
  | datetime u z, datetime v w => if z = w then some (datetime (u.coarser v) z) else none
  | datetime .., int _ b => if b = 32 ∨ b = 64 then some int64 else none
  | datetime .., float32 => some float64
  | datetime .., float64 => some float64
  | duration u, duration v => some (duration (u.coarser v))
  | duration _, int _ b => if b = 32 ∨ b = 64 then some int64 else none
  | duration _, float32 => some float64
  | duration _, float64 => some float64
  | string, type => if type.hasPlainText then some string else none
  | _, _ => none

/-- The type of a field. -/
def fieldType? (fields : List (String × DataType)) (name : String) : Option DataType :=
  (fields.find? fun f => f.1 == name).map (·.2)

/-- The fields of two structs together, given the first struct's fields with their common types.
The struct with more fields decides on the order. -/
def joinFields (unified others : List (String × DataType)) : List (String × DataType) :=
  if unified.length < others.length then
    others.map (fun f => (f.1, (fieldType? unified f.1).getD f.2)) ++
      unified.filter fun f => (fieldType? others f.1).isNone
  else unified ++ others.filter fun f => (fieldType? unified f.1).isNone

mutual

/-- The common type of two types that differ. -/
def unifyNested : DataType → DataType → Option DataType
  | list a, list b => (if a = b then some a else unifyNested a b).map list
  | list a, array b _ => (if a = b then some a else unifyNested a b).map list
  | array a _, list b => (if a = b then some a else unifyNested a b).map list
  | array a n, array b m =>
    if n = m then (if a = b then some a else unifyNested a b).map fun t => array t n else none
  | struct fs, struct gs => (unifyFields fs gs).map fun unified => struct (joinFields unified gs)
  | null, b => some b
  | a, null => some a
  -- `unifyPlain` lists each pair in one of its two orders
  | a, b => (unifyPlain a b).or (unifyPlain b a)

/-- The fields of a struct with the types that they share with a second struct. -/
def unifyFields : List (String × DataType) → List (String × DataType) →
    Option (List (String × DataType))
  | [], _ => some []
  | (name, type) :: fs, gs =>
    match fieldType? gs name, unifyFields fs gs with
    | none, some rest => some ((name, type) :: rest)
    | some other, some rest =>
      (if type = other then some type else unifyNested type other).map fun t => (name, t) :: rest
    | _, none => none

end

/-- The common type of two types. -/
def unify? (a b : DataType) : Option DataType :=
  if a = b then some a else unifyNested a b

@[simp] theorem unify?_self (a : DataType) : unify? a a = some a := by
  simp [unify?]

/-- The common type of a sequence of types, taken from left to right. -/
def unifyAll? : List DataType → Option DataType
  | [] => none
  | a :: rest => rest.foldlM unify? a

end DataType

end SharedTables
