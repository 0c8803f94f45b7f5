import Mathlib
import SharedTables.Proofs.Run
import SharedTables.Query.Fetch

/-!
# How the files of a query are read

A query reads its files one after another or with several workers.  `ofFilesBy` leaves open how a
list of readings is carried out, and the query is one instance of it.  What the reading of one file
comes to (`outcome`) depends on the file and not on its place among the others.

## Key results

- `map_result_readings`: the readings of files come to the outcomes of the files
- `ofFiles_eq_ofFilesBy`: a query is a query whose files are read as its number of workers says
- `result_ofFilesBy_eq_ok_iff`: when a query has a result, whatever the way its files are read
-/

namespace SharedTables

namespace QueryResult

variable {server : Server} {predicates : List Predicate} {columns : Option (List String)}

/-! ### One file -/

/-- What reading a file comes to, whatever its place among the files. -/
def outcome (server : Server) (predicates : List Predicate) (columns : Option (List String))
    (file : FileReference) : Except Failure (Option Table) :=
  match (loadFile server predicates columns file).result with
  | .error e => if e.concernsFile then .ok none else .error e
  | .ok t => .ok (if t.height = 0 then none else some t)

/-- The label of a file changes nothing about what reading it comes to. -/
private theorem result_readFile (label : String) (file : FileReference) :
    (readFile label (loadFile server predicates columns file)).result =
      outcome server predicates columns file := by
  have hattempt : (loadFile server predicates columns file).attempt.result =
      .ok (loadFile server predicates columns file).result := rfl
  rw [readFile, Run.result_bind_of_ok hattempt, outcome]
  -- what went wrong is either passed over or handed on
  cases (loadFile server predicates columns file).result with
  | error e =>
    dsimp only
    split <;> rfl
  | ok t =>
    dsimp only
    split <;> rfl

/-! ### A list of files -/

/-- The readings of the files, in the order of the files. -/
def readings (server : Server) (predicates : List Predicate) (columns : Option (List String))
    (files : List FileReference) : List (Run (Option Table)) :=
  (labelled files).map fun item => readFile item.2 (loadFile server predicates columns item.1)

/-- Labels are given to the files in their order. -/
theorem labelled_fst (files : List FileReference) : (labelled files).map Prod.fst = files := by
  rw [labelled, List.map_map]
  exact List.zipIdx_map_fst 1 files

/-- There is one reading for each file. -/
private theorem length_readings (files : List FileReference) :
    (readings server predicates columns files).length = files.length := by
  rw [readings, List.length_map, ← List.length_map (f := Prod.fst), labelled_fst]

/-- The readings of files come to the outcomes of the files. -/
theorem map_result_readings (files : List FileReference) :
    (readings server predicates columns files).map Run.result =
      files.map (outcome server predicates columns) := by
  -- the label of a file is all that its place decides on
  conv_rhs => rw [← labelled_fst files, List.map_map]
  rw [readings, List.map_map]
  exact List.map_congr_left fun item _ => result_readFile item.2 item.1

/-! ### The whole query -/

/-- The result of a query whose files have been read. -/
def stackFound (columns : Option (List String)) (total : Nat) (tables : List (Option Table)) :
    Run QueryResult := do
  let found := tables.filterMap id
  Run.log .info ("Processed " ++ natText found.length ++ " of " ++ natText total ++
    " files with matching rows")
  let table ← Table.stack found (columns.getD [])
  return ⟨table, found.length, total⟩

/-- A query, with the files that are left after pruning read by `readAll`. -/
def ofFilesBy (readAll : List (Run (Option Table)) → Run (List (Option Table))) (server : Server)
    (files : List FileReference) (filters : List Value) (columns : Option (List String)) :
    Run QueryResult := do
  let predicates ← Predicate.parseAll filters
  let relevant ← pruneFiles files predicates
  if relevant.isEmpty then return empty (columns.getD [])
  else do
    let tables ← readAll (readings server predicates columns relevant)
    stackFound columns relevant.length tables

/-- Readings carried out by a number of workers: several go on when one of them stops. -/
def readBy (workers : Value) (tasks : List (Run (Option Table))) : Run (List (Option Table)) := do
  let several ← Run.ofExcept (isSeveral workers)
  if several && 1 < tasks.length then Run.forAll id tasks else Run.forEach id tasks

/-- A query is a query whose files are read as its number of workers says. -/
theorem ofFiles_eq_ofFilesBy (server : Server) (files : List FileReference) (filters : List Value)
    (columns : Option (List String)) (workers : Value) :
    ofFiles server files filters columns workers =
      ofFilesBy (readBy workers) server files filters columns := by
  -- the two differ in nothing but how the list of readings is carried out
  refine congrArg (Predicate.parseAll filters >>= ·) (funext fun predicates => ?_)
  refine congrArg (pruneFiles files predicates >>= ·) (funext fun relevant => ?_)
  refine congrArg (ite _ (pure (empty (columns.getD [])))) ?_
  rw [readBy, length_readings, bind_assoc]
  refine congrArg (Run.ofExcept (isSeveral workers) >>= ·) (funext fun several => ?_)
  rw [readings, Run.forAll_id_map, Run.forEach_id_map]
  dsimp only
  split <;> rfl

/-- One worker reads the files one after another. -/
theorem readBy_one (tasks : List (Run (Option Table))) :
    readBy (.int 1) tasks = Run.forEach id tasks :=
  rfl

/-- The result of a query whose files are read in some way. -/
theorem result_ofFilesBy_eq_ok_iff
    {readAll : List (Run (Option Table)) → Run (List (Option Table))} {files : List FileReference}
    {filters : List Value} {r : QueryResult} :
    (ofFilesBy readAll server files filters columns).result = .ok r ↔
      ∃ predicates relevant, (Predicate.parseAll filters).result = .ok predicates ∧
        (pruneFiles files predicates).result = .ok relevant ∧
        if relevant = [] then r = empty (columns.getD [])
        else ∃ tables, (readAll (readings server predicates columns relevant)).result = .ok tables ∧
          (stackFound columns relevant.length tables).result = .ok r := by
  rw [ofFilesBy, Run.result_bind_eq_ok_iff]
  refine exists_congr fun predicates => ?_
  rw [Run.result_bind_eq_ok_iff, ← exists_and_left]
  refine exists_congr fun relevant => and_congr_right fun _ => and_congr_right fun _ => ?_
  by_cases hempty : relevant = []
  · -- there is nothing to read
    subst hempty
    simp [eq_comm]
  · rw [if_neg (by simpa using hempty), if_neg hempty, Run.result_bind_eq_ok_iff]

end QueryResult

end SharedTables
