import SharedTables.Predicate.Basic
import SharedTables.Text.Lowercase
import SharedTables.Run
import SharedTables.Sharing.Manifest

/-!
# Pruning

A file whose partition values cannot satisfy the predicates of a query is not downloaded.  A column
that the file is not partitioned by rules nothing out; a value that cannot be compared with the
literal does.

* A partition value that looks like a number is one (`PartitionValue.coerce`), and numbers are
  compared exactly, integers and floating-point numbers alike.
* A text literal is compared with the text of the value.  Ordering it against a value that looks
  like a number is a mismatch.
* A truth value is compared with the words for truth values.
-/

namespace SharedTables

/-- What stands after a minus sign that may be missing.  One line feed at the end is left out. -/
def numberBody (s : String) : List Char :=
  let digits := match s.toList with
    | '-' :: rest => rest
    | cs => cs
  if digits.getLast? = some '\n' then digits.dropLast else digits

/-- Whether a text is a minus sign that may be missing and digits of any script.  One line feed at
the end is allowed. -/
def looksInteger (s : String) : Bool :=
  let body := numberBody s
  !body.isEmpty && body.all Text.isDecimalDigit

/-- Whether a text is a minus sign that may be missing, digits, a point and digits.  One line feed
at the end is allowed. -/
def looksDecimal (s : String) : Bool :=
  let (whole, rest) := (numberBody s).span Text.isDecimalDigit
  match rest with
  | '.' :: fraction =>
    !whole.isEmpty && !fraction.isEmpty && fraction.all Text.isDecimalDigit
  | _ => false

namespace PartitionValue

/-- The number that a partition value looks like, or the value itself. -/
def coerce (raw : Value) : Except NumberError Value :=
  match raw with
  | .text s =>
    if looksInteger s then (Number.readInteger s).map .int
    else if looksDecimal s then (Number.readFloat s).map .float
    else .ok raw
  -- numbers, truth values and dates are what they are
  | _ => .ok raw

/-- Whether a value is a number. -/
def number? : Value → Option Binary
  | .int n => some (Binary.ofInt n)
  | .float x => some x
  | _ => none

/-- The truth value that a text stands for. -/
def truthOfText? (text : String) : Option Bool :=
  let word := Text.lowercase (String.ofList (Text.trim text.toList))
  if word = "true" then some true else if word = "false" then some false else none

/-- The truth value that a value stands for. -/
def truth? (raw : Value) : Except NumberError (Option Bool) :=
  match raw with
  | .bool b => .ok (some b)
  | _ => raw.toText.map truthOfText?

/-- What comparing a partition value with a literal says: nothing if they cannot be compared, and
otherwise whether the operator accepts.  "Not a number" differs from all and has no order. -/
def verdict (raw : Value) (p : Predicate) : Except NumberError (Option Bool) :=
  match p.value with
  | .text s => do
    let text ← raw.toText
    -- equality is decided by the texts alone, also of numbers
    if p.operator.isEquality then return some (p.operator.accepts (compare text s))
    else
      let v ← coerce (.text text)
      return if (number? v).isSome then none else some (p.operator.accepts (compare text s))
  | .integer n => do
    let v ← coerce raw
    return (number? v).map fun x => acceptsNumber p.operator x (Binary.ofInt n)
  | .float y => do
    let v ← coerce raw
    return (number? v).map fun x => acceptsNumber p.operator x y
  | .bool b => do
    let truth ← truth? raw
    return truth.map fun c => p.operator.accepts (compare c.toNat b.toNat)
  -- no partition value is null here, so only inequality holds
  | .null => .ok (some (p.operator == .ne))
where
  /-- Whether the operator accepts two numbers. -/
  acceptsNumber (op : Operator) (x y : Binary) : Bool :=
    match Binary.compare? x y with
    | some order => op.accepts order
    | none => op == .ne

end PartitionValue

namespace FileReference

/-- Whether the partition values of the file allow a row that passes the predicate. -/
def admits (file : FileReference) (p : Predicate) : Run Bool :=
  match file.partitionValues.lookup? p.column with
  | none => pure true
  -- the file may hold rows without a value
  | some .null => pure true
  | some raw =>
    match PartitionValue.verdict raw p with
    | .error e => Run.fail (.number e)
    | .ok (some accepted) => pure accepted
    | .ok none => do
      Run.log .debug ("Partition value " ++ raw.literal ++ " of " ++ p.column ++
        " is not comparable with " ++ p.value.toValue.literal)
      return false

/-- Whether the partition values of the file allow a row that passes every predicate. -/
def admitsAll (file : FileReference) : List Predicate → Run Bool
  | [] => pure true
  | p :: rest => do
    if ← file.admits p then file.admitsAll rest else return false

end FileReference

/-- The files that may hold rows that pass every predicate. -/
def pruneFiles (files : List FileReference) (predicates : List Predicate) :
    Run (List FileReference) :=
  if predicates.isEmpty then pure files
  else do
    let verdicts ← Run.forEach (fun file => file.admitsAll predicates) files
    let kept := ((files.zip verdicts).filter (·.2)).map (·.1)
    -- nothing is said when nothing is left out
    if kept.length < files.length then
      Run.log .info ("Partition pruning kept " ++ natText kept.length ++ " of " ++
        natText files.length ++ " files")
    return kept

end SharedTables
