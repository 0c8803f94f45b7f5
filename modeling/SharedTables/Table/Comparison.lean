import SharedTables.Calendar.Zone
import SharedTables.Failure
import SharedTables.Table.Basic
import SharedTables.Text.Utf8

/-!
# Comparing a column with a literal

Before rows are looked at, the literal of a predicate is converted for its column
(`Operand.ofLiteral`), which fails if the two can never be compared.  `Operand.compareCell` then
orders one cell against it; a null cell and a column without values have no answer.

* integers are compared exactly; against a floating-point number the cell is converted to 64 bits;
* a literal is rounded to the format of a column of floating-point numbers;
* texts are ordered by their bytes, those of an enumeration by the place of their category;
* a point in time is compared in microseconds, or in milliseconds if the column counts these, with
  the whole units up to it.

A literal that has been converted may still be of no use.  Integers of more than 128 bits and points
in time without a date in universal time are turned down at once (`Comparison.checked`).  Other
comparisons are found to be undefined only when rows are looked at (`Comparison.fault?`): the order
of an enumeration against a text that is none of its categories, a reading of a clock that the
column's time zone never shows or shows twice, and a point in universal time against a column in
another zone.
-/

namespace SharedTables

/-- The literal of a predicate as it is compared with the cells of a column. -/
inductive Operand where
  /-- The predicate asks for null. -/
  | null
  /-- The column has no values, so no comparison holds. -/
  | nothing
  | integer (n : Int)
  | number (x : Binary)
  | text (s : String)
  | bool (b : Bool)
  | date (days : Int)
  | moment (m : Moment)
deriving DecidableEq, Repr

namespace Operand

/-- Converts the literal of a predicate for a column of the given type. -/
def ofLiteral (p : Predicate) (type : DataType) : Except FilterError Operand :=
  let mismatch := FilterError.incompatibleTypes p.column type p.value
  match p.value with
  | .null => if p.operator.isEquality then .ok null else .error mismatch
  | value =>
    -- a column without values can be compared with anything
    if type = .null then .ok nothing
    else
      match value with
      | .integer n => if type.isNumeric then .ok (integer n) else .error mismatch
      | .float x => if type.isNumeric then .ok (number x) else .error mismatch
      | .bool b => if type = .boolean then .ok (bool b) else .error mismatch
      | .text s =>
        -- only here a text is read: as a date, or as a point in time
        if type.isTextual then .ok (text s)
        else
          match type with
          | .date =>
            match Date.read? s with
            | some d => .ok (date d.daysSinceEpoch)
            | none => .error (.invalidDate p.column s)
          | .datetime .. =>
            match Moment.read? s with
            | some m => .ok (moment m)
            | none => .error (.invalidDate p.column s)
          | _ => .error mismatch
      | .null => .error mismatch

/-- Why there is no value for the literal, if there is none: integers have at most 128 bits, and for
a column without a time zone a point in time with an offset needs a date in universal time. -/
def failure? (o : Operand) (type : DataType) : Option Failure :=
  match o, type with
  | integer n, _ =>
    if DataType.holdsInt true 128 n then none else some (.table .invalidOperation)
  | moment m, .datetime _ none =>
    if m.offset.isNone || Moment.inCalendar m.instant then none else some .dateOutOfRange
  | _, _ => none

/-- The two reasons for which there is no value for a literal. -/
theorem failure?_cases {o : Operand} {type : DataType} {e : Failure}
    (h : o.failure? type = some e) : e = .table .invalidOperation ∨ e = .dateOutOfRange := by
  unfold failure? at h
  split at h
  · split at h <;> cases h
    exact .inl rfl
  · split at h <;> cases h
    exact .inr rfl
  · cases h

/-- The places of the categories of two texts, if the column is an enumeration that has them. -/
def places? (type : DataType) (s t : String) : Option (Nat × Nat) :=
  match type with
  | .enum categories => do
    let i ← categories.findIdx? (· == s)
    let j ← categories.findIdx? (· == t)
    return (i, j)
  | _ => none

/-- How a cell compares with the operand. -/
def compareCell (o : Operand) (type : DataType) (cell : Cell) : Option Ordering :=
  match o, cell with
  | integer n, .int m => some (compare m n)
  -- an integer literal becomes a number of the column's format
  | integer n, .float x => some (Binary.compareTotal x (type.floatFormat.ofInt n))
  | integer n, .decimal units =>
    match type with
    | .decimal _ scale => some (compare units (n * Nat.pow 10 scale))
    | _ => none
  -- an integer cell becomes a number of 64 bits
  | number x, .int m => some (Binary.compareTotal (Binary.double.ofInt m) x)
  | number x, .float y => some (Binary.compareTotal y (type.floatFormat.round x))
  | number x, .decimal units =>
    match type with
    | .decimal _ scale =>
      some (Binary.compareTotal
        (Binary.double.ofRatio (units < 0) units.natAbs (Nat.pow 10 scale)) x)
    | _ => none
  | text s, .text t =>
    match places? type t s with
    | some (i, j) => some (compare i j)
    -- texts, and categories that are not listed, go by their bytes
    | none => some (Text.Utf8.compareBytes t s)
  | bool b, .bool c => some (compare c.toNat b.toNat)
  | date d, .date e => some (compare e d)
  | moment m, .datetime ticks =>
    match type with
    | .datetime unit zone => do
      let instant ← m.instantIn? zone
      -- the literal counts microseconds; the coarser of both units decides
      let shared := unit.coarser .micro
      return compare (unit.convert shared ticks) (TimeUnit.micro.convert shared instant)
    | _ => none
  | _, _ => none

end Operand

/-- A predicate on the column at a place, with its literal converted. -/
structure Comparison where
  place : Nat
  type : DataType
  operator : Operator
  operand : Operand
deriving DecidableEq, Repr

namespace Comparison

/-- Prepares a predicate for a column. -/
def ofPredicate (place : Nat) (type : DataType) (p : Predicate) : Except FilterError Comparison :=
  (Operand.ofLiteral p type).map fun o => ⟨place, type, p.operator, o⟩

/-- Why the literal cannot be used, if it cannot. -/
def failure? (c : Comparison) : Option Failure :=
  c.operand.failure? c.type

/-- The comparison, if its literal can be used. -/
def checked (c : Comparison) : Except Failure Comparison :=
  match c.failure? with
  | none => .ok c
  | some e => .error e

/-- Why the comparison is not defined on the column, if it is not. -/
def fault? (c : Comparison) : Option TableError :=
  match c.operand, c.type with
  | .text s, .enum categories =>
    if c.operator.isEquality || categories.contains s then none else some .invalidOperation
  | .moment m, .datetime _ (some z) =>
    -- with an offset the literal is in universal time, which is another type
    if m.offset.isSome then if z = .utc then none else some .typeMismatch
    else if (z.instant? m.reading).isSome then none
    else some .unclearReading
  | _, _ => none

/-- Whether a row passes the comparison. -/
def holds (c : Comparison) (row : Row) : Bool :=
  let cell := Row.cell row c.place
  match c.operand with
  | .null => if c.operator = .eq then cell.isNull else !cell.isNull
  | o =>
    match o.compareCell c.type cell with
    | some order => c.operator.accepts order
    -- a comparison without an answer lets no row pass, also one for inequality
    | none => false

end Comparison

end SharedTables
