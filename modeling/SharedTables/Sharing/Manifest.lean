import SharedTables.Failure
import SharedTables.Json.Reader
import SharedTables.Text.Blank
import SharedTables.Text.Split

/-!
# Manifests

The server answers the query for a table with a manifest: one JSON object per line, first the
protocol, then the metadata of the table, then one action per line.  An action under `add` or `file`
names a file of the table (`FileReference`); all other actions are passed over.  Blank lines do not
count.

Partition values are an object, or a list of pairs.  In the list names may also be numbers, truth
values and null; no column has such a name, so these pairs are kept apart from the others.
-/

namespace SharedTables

/-- A file of a table and the partition it belongs to. -/
structure FileReference where
  url : String
  partitionValues : Members
  id : Value
  size : Option Int
  stats : Value
  /-- Values under names that are no texts. -/
  unnamed : List (Value × Value)
deriving Inhabited

/-- What the server says about a table. -/
structure Manifest where
  protocol : Members
  metadata : Members
  files : List FileReference
deriving Inhabited

namespace Manifest

/-- Whether a value can be a name; lists and objects cannot. -/
def isName : Value → Bool
  | .list _ => false
  | .object _ => false
  | _ => true

/-- The integer that a name is equal to. -/
def integerOf? : Value → Option Int
  | .int n => some n
  | .bool b => some b.toNat
  | .float x => (x.truncate.toOption).filter fun n => Binary.compare? x (Binary.ofInt n) == some .eq
  | _ => none

/-- Whether two names are the same.  Numbers and truth values of equal value are; "not a number"
differs from all. -/
def sameName (a b : Value) : Bool :=
  match integerOf? a, integerOf? b with
  | some m, some n => m == n
  -- a text, null or a fraction is equal to its like alone
  | none, none => a != .float .nan && a == b
  | _, _ => false

/-- Writes a value under a name; a name that is present already keeps its place. -/
def insertUnnamed : List (Value × Value) → Value × Value → List (Value × Value)
  | [], m => [m]
  | (name, w) :: rest, m =>
    -- the name that came first stays, with the new value
    if sameName name m.1 then (name, m.2) :: rest else (name, w) :: insertUnnamed rest m

/-- The pair that an element of a list of pairs is; `index` is its place. -/
def pair (index : Nat) (element : Value) : Except ManifestError (Value × Value) :=
  match element.elements? with
  | none => .error .notPairs
  | some [name, v] => if isName name then .ok (name, v) else .error .notPairs
  | some items => .error (.pairLength index items.length)

/-- The pairs that a list consists of; `index` is the place of its first element. -/
def pairs (index : Nat) : List Value → Except ManifestError (List (Value × Value))
  | [] => .ok []
  | element :: rest => do
    let m ← pair index element
    let ms ← pairs (index + 1) rest
    return m :: ms

/-- The pairs whose names are texts, of several under one name the last. -/
def named (ps : List (Value × Value)) : Members :=
  Members.ofPairs (ps.filterMap fun p =>
    match p.1 with
    | .text name => some (name, p.2)
    | _ => none)

/-- The pairs whose names are no texts, of several under one name the value of the last. -/
def unnamed (ps : List (Value × Value)) : List (Value × Value) :=
  ps.foldl (fun acc p =>
    match p.1 with
    | .text _ => acc
    | _ => insertUnnamed acc p) []

/-- The partition values that an action gives, under texts and under other names.  What counts as
not given is empty. -/
def partitionValues (v : Value) : Except ManifestError (Members × List (Value × Value)) :=
  if v.isSet then
    match v with
    | .object members => .ok (members, [])
    | _ =>
      match v.elements? with
      | some elements => (pairs 0 elements).map fun ps => (named ps, unnamed ps)
      | none => .error .notPairs
  else .ok ([], [])

/-- The file that an action names. -/
def fileOfAction (action : Members) : Except Failure FileReference := do
  let member := fun name => (action.lookup? name).getD .null
  if !(member "url").isSet then .error (.catalog .fileWithoutUrl)
  let values ← (partitionValues (member "partitionValues")).mapError .manifest
  -- a size that is missing is none, any other has to be an integer
  let size ←
    match member "size" with
    | .null => pure none
    | v => (v.toInteger.map some).mapError .number
  return {
    url := (member "url").display
    partitionValues := values.1
    id := member "id"
    size := size
    stats := member "stats"
    unnamed := values.2 }

/-- The action of a line, if there is one that names a file. -/
def action? (line : Members) : Option Members :=
  let member := fun name => (line.lookup? name).getD .null
  -- an `add` that is nothing gives way to `file`
  let payload := if (member "add").isSet then member "add" else member "file"
  match payload with
  | .object members => some members
  | _ => none

/-- Reads a line of a manifest. -/
def readLine (line : List Char) : Except Failure Value :=
  match Json.read (String.ofList line) with
  | .ok v => .ok v
  | .error .malformed => .error (.catalog .notJson)
  | .error (.tooManyDigits count) => .error (.number (.tooManyDigits count))

/-- The members of an object. -/
def members? : Value → Option Members
  | .object members => some members
  | _ => none

/-- Reads a manifest. -/
def read (body : String) : Except Failure Manifest := do
  let written := (Text.splitOn '\n' body.toList).filter fun line => !line.all Text.isBlank
  -- every line has to be JSON before any of them is understood
  let values ← written.mapM readLine
  match values.mapM members? with
  -- at least two lines, and all of them objects
  | some (protocol :: metadata :: actions) =>
    let files ← (actions.filterMap action?).mapM fileOfAction
    return ⟨protocol, metadata, files⟩
  | _ => .error (.catalog .notManifest)

end Manifest

end SharedTables
