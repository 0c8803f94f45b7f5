import SharedTables.Predicate.Printer
import SharedTables.Run
import SharedTables.Table.Comparison

/-!
# Filtering and selecting

There are two ways to filter rows by several predicates, of which a row has to pass all:

* `Table.filterStrict` is for a table in hand.  Every predicate has to be readable, to name a column
  and to be comparable with it, or else no row is filtered and the first problem is the answer.
* `Table.filterLenient` is for tables as they come in.  A predicate that is not usable is passed
  over with a message.

`Table.selectColumns` keeps columns; if none of the requested ones exists it keeps all.
-/

namespace SharedTables

namespace Predicate

/-- Reads a predicate from a value, which has to be a text. -/
def ofValue (v : Value) : Except Failure Predicate :=
  match v with
  | .text s => (parse s).mapError .parse
  | _ => .error (.predicate (.notText v.typeName))

/-- The message about a text that is no predicate. -/
def parseFailureText (e : ParseError) : String :=
  "Failed to parse predicate " ++ Text.quote e.text ++ ": " ++ e.message

/-- Reads predicates and passes over the texts that are none, with a message. -/
def parseAll : List Value → Run (List Predicate)
  | [] => pure []
  | v :: rest =>
    match ofValue v with
    | .ok p => do
      let ps ← parseAll rest
      return p :: ps
    | .error (.parse e) => do
      Run.log .error (parseFailureText e)
      parseAll rest
    -- a value that is no text is the fault of the caller
    | .error e => Run.fail e

end Predicate

/-- A predicate, or a text to be read as one. -/
inductive FilterItem where
  | text (s : String)
  | predicate (p : Predicate)

namespace Table

/-- Why some comparisons cannot be made, if they cannot: types are looked at before cells. -/
def fault? (comparisons : List Comparison) : Option TableError :=
  let faults := comparisons.filterMap Comparison.fault?
  if faults.contains .typeMismatch then some .typeMismatch else faults.head?

/-- The rows that pass all comparisons, if each of them is defined. -/
def keepAll (t : Table) (comparisons : List Comparison) : Except Failure Table :=
  match fault? comparisons with
  | none => .ok (t.filterRows fun row => comparisons.all fun c => c.holds row)
  | some e => .error (.table e)

/-- Prepares a predicate for the table. -/
def comparison (t : Table) (p : Predicate) : Except FilterError Comparison :=
  match t.indexOf? p.column, t.typeOf? p.column with
  | some place, some type => Comparison.ofPredicate place type p
  | _, _ => .error (.unknownColumn p.column)

/-- Prepares the text of a predicate for the table. -/
def strictComparison (t : Table) (text : Value) : Except Failure Comparison :=
  match Predicate.ofValue text with
  | .error (.parse e) => .error (.filter (.invalidPredicate e))
  | .error e => .error e
  | .ok p =>
    match t.comparison p with
    | .error e => .error (.filter e)
    -- the literal is built here, so this failure comes before those of later texts
    | .ok c => c.checked

/-- Keeps the rows that pass every predicate, all of which have to be usable. -/
def filterStrict (t : Table) (texts : List Value) : Except Failure Table := do
  -- all predicates are prepared before any row is looked at
  let comparisons ← texts.mapM t.strictComparison
  t.keepAll comparisons

/-- Prepares a predicate for the table, or passes over it with a message. -/
def lenientComparison (t : Table) (p : Predicate) : Run (Option Comparison) :=
  if t.hasColumn p.column then
    match t.comparison p with
    | .error e => do
      Run.log .warning ("Skip predicate " ++ p.render ++ ": " ++ e.message)
      return none
    -- a literal without a value is not passed over
    | .ok c => Run.ofExcept (c.checked.map some)
  else do
    Run.log .debug ("Skip predicate on absent column " ++ p.column)
    return none

/-- Prepares one item of a lenient filter. -/
def lenientItem (t : Table) : Option FilterItem → Run (Option Comparison)
  | none => pure none
  | some (.predicate p) => t.lenientComparison p
  | some (.text s) =>
    match Predicate.parse s with
    | .ok p => t.lenientComparison p
    | .error e => do
      Run.log .error (Predicate.parseFailureText e)
      return none

/-- Keeps the rows that pass every usable item. -/
def filterLenient (t : Table) (items : List (Option FilterItem)) : Run Table := do
  let comparisons ← Run.forEach t.lenientItem items
  Run.ofExcept (t.keepAll (comparisons.filterMap id))

/-- Keeps the rows that pass every usable predicate. -/
def filterBy (t : Table) (predicates : List Predicate) : Run Table :=
  t.filterLenient (predicates.map fun p => some (.predicate p))

/-- Keeps the requested columns, in the order of the request.  If the table has none of them it
keeps all its columns. -/
def selectColumns (t : Table) (columns : Option (List String)) : Run Table :=
  match columns with
  | none => pure t
  | some requested =>
    -- a column that is requested twice is kept once
    let keep := (distinct requested).filter t.hasColumn
    if keep.isEmpty then do
      Run.log .warning ("No valid columns found: requested=" ++ Text.quoteList requested ++
        " available=" ++ Text.quoteList t.names)
      return t
    else return t.select keep

end Table

end SharedTables
