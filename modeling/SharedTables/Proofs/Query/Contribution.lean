import Mathlib
import SharedTables.Proofs.Query.Reading
import SharedTables.Proofs.Table.Stacking

/-!
# What files contribute

A file contributes its rows that pass the predicates, unless it cannot be read or has none.  The
result has the stack of what the files contribute.

Which columns are requested changes nothing about the number of rows of one file.  In the stack all
rows are there unless several files contribute and no column is left of them: then the result has
no rows at all, and counts the files all the same.

## Key results

- `contribution_spec`: what a file contributes has the rows that are left of it
- `ofFiles_eq_ok_iff`: when a query has a result, and which, for one worker or several
- `all_rows_iff`: whether all rows of the files that are counted are in the result
-/

namespace SharedTables

/-- A server that has the given files at their locations. -/
def Server.holding (files : List (String × Table)) : Server :=
  { query := .missing
    file := fun url =>
      match files.lookup url with
      | some t => .answered successStatus (.table t)
      | none => .missing }

/-- A file of which nothing is known but where it is. -/
def FileReference.ofUrl (url : String) : FileReference :=
  { url, partitionValues := [], id := .null, size := none, stats := .null, unnamed := [] }

namespace QueryResult

/-- The rows of a file that pass the predicates, with all columns. -/
def filterFile (server : Server) (predicates : List Predicate) (file : FileReference) :
    Run Table := do
  let payload ← Client.fetch server file.url
  let table ← Run.ofExcept (payload.decode.mapError .decode)
  table.filterBy predicates

/-- The number of rows of a file that pass the predicates; a file that cannot be read has none. -/
def rowsLeft (server : Server) (predicates : List Predicate) (file : FileReference) : Nat :=
  match (filterFile server predicates file).result with
  | .ok t => t.height
  | .error _ => 0

/-- What a file contributes. -/
def contribution (server : Server) (predicates : List Predicate) (columns : Option (List String))
    (file : FileReference) : Option Table :=
  match (loadFile server predicates columns file).result with
  | .ok t => if t.height = 0 then none else some t
  | .error _ => none

variable {server : Server} {predicates : List Predicate} {columns : Option (List String)}

/-! ### One file -/

/-- Columns are selected in what is left of the rows. -/
theorem loadFile_eq (file : FileReference) :
    loadFile server predicates columns file =
      filterFile server predicates file >>= fun t => t.selectColumns columns := by
  simp only [loadFile, filterFile, bind_assoc]

/-- A file that contributes nothing has no rows left, any other contributes all that are left. -/
theorem contribution_spec (server : Server) (predicates : List Predicate)
    (columns : Option (List String)) (file : FileReference) :
    match contribution server predicates columns file with
    | none => rowsLeft server predicates file = 0
    | some t => 0 < t.height ∧ t.height = rowsLeft server predicates file := by
  rw [contribution, loadFile_eq, rowsLeft]
  cases hfilter : (filterFile server predicates file).result with
  | error e =>
    rw [Run.result_bind_of_error hfilter]
  | ok filtered =>
    -- the columns that are requested keep all of the rows
    obtain ⟨u, hu, hheight⟩ := filtered.height_selectColumns columns
    rw [Run.result_bind_of_ok hfilter, hu]
    by_cases hnone : u.height = 0
    · simp only [hnone, if_true]
      rw [← hheight, hnone]
    · simp only [hnone, if_false]
      exact ⟨Nat.pos_of_ne_zero hnone, hheight⟩

/-- Reading the file lets the query go on: if it fails, this concerns nothing but the file. -/
def Readable (server : Server) (predicates : List Predicate) (columns : Option (List String))
    (file : FileReference) : Prop :=
  ∀ e, (loadFile server predicates columns file).result = .error e → e.concernsFile = true

/-- A file that does not stop the query comes to what it contributes. -/
private theorem outcome_eq_ok_iff {file : FileReference} {found : Option Table} :
    outcome server predicates columns file = .ok found ↔
      Readable server predicates columns file ∧
        found = contribution server predicates columns file := by
  rw [outcome, Readable, contribution]
  -- a file that fails still has an outcome, unless the failure is not the file's own
  cases (loadFile server predicates columns file).result with
  | error e =>
    dsimp only
    by_cases hconcerns : e.concernsFile = true
    · rw [if_pos hconcerns]
      simp [hconcerns, @eq_comm _ found]
    · rw [if_neg hconcerns]
      simp [hconcerns]
  | ok t => simp [@eq_comm _ found]

/-! ### All files -/

/-- Files come to what they contribute, if none of them stops the query. -/
theorem map_outcome_eq_ok_iff {files : List FileReference} {tables : List (Option Table)} :
    files.map (outcome server predicates columns) = tables.map .ok ↔
      (∀ file ∈ files, Readable server predicates columns file) ∧
        tables = files.map (contribution server predicates columns) := by
  induction files generalizing tables with
  | nil => cases tables <;> simp
  | cons file rest ih =>
    cases tables with
    | nil => simp
    | cons found others =>
      rw [List.map_cons, List.map_cons, List.cons.injEq, outcome_eq_ok_iff, ih, List.map_cons,
        List.cons.injEq, List.forall_mem_cons]
      -- the conditions on the first file and on the rest only change their order
      tauto

/-- Reading files comes to what they contribute, one after another and by several workers alike. -/
private theorem result_readBy_eq_ok_iff {workers : Value} {files : List FileReference}
    {tables : List (Option Table)} :
    (readBy workers (readings server predicates columns files)).result = .ok tables ↔
      (∃ several, isSeveral workers = .ok several) ∧
        (∀ file ∈ files, Readable server predicates columns file) ∧
          tables = files.map (contribution server predicates columns) := by
  rw [readBy, Run.result_bind_eq_ok_iff, ← map_outcome_eq_ok_iff, ← map_result_readings,
    ← exists_and_right]
  refine exists_congr fun several => and_congr_right fun _ => ?_
  -- several workers read all files and one stops early, but both need all outcomes
  split
  · exact Run.result_forAll_eq_ok_iff
  · exact Run.result_forEach_eq_ok_iff

/-- The result of files that have been read is the stack of what they contribute. -/
private theorem result_stackFound_eq_ok_iff {files : List FileReference} {total : Nat}
    {r : QueryResult} :
    (stackFound columns total (files.map (contribution server predicates columns))).result =
        .ok r ↔
      (Table.stack (files.filterMap (contribution server predicates columns))
          (columns.getD [])).result = .ok r.table ∧
        r.filesProcessed = (files.filterMap (contribution server predicates columns)).length ∧
        r.totalFiles = total := by
  obtain ⟨table, processed, total'⟩ := r
  -- the tables found are the contributions of the files that have one
  have hfound : (files.map (contribution server predicates columns)).filterMap id =
      files.filterMap (contribution server predicates columns) := List.filterMap_map
  simp only [stackFound, hfound, Run.result_log_bind, Run.result_bind_eq_ok_iff, Run.result_pure,
    Except.ok.injEq, mk.injEq]
  constructor
  · rintro ⟨t, hstack, rfl, rfl, rfl⟩
    exact ⟨hstack, rfl, rfl⟩
  · rintro ⟨hstack, rfl, rfl⟩
    exact ⟨table, hstack, rfl, rfl, rfl⟩

/-- A query has a result iff the filters can be read and the files be pruned, no file stops it, and
    what the files contribute can be stacked; the stack is the result. -/
theorem ofFiles_eq_ok_iff {files : List FileReference} {filters : List Value} {workers : Value}
    {r : QueryResult} :
    (ofFiles server files filters columns workers).result = .ok r ↔
      ∃ predicates relevant, (Predicate.parseAll filters).result = .ok predicates ∧
        (pruneFiles files predicates).result = .ok relevant ∧
        (relevant ≠ [] → ∃ several, isSeveral workers = .ok several) ∧
        (∀ file ∈ relevant, Readable server predicates columns file) ∧
        (Table.stack (relevant.filterMap (contribution server predicates columns))
          (columns.getD [])).result = .ok r.table ∧
        r.filesProcessed = (relevant.filterMap (contribution server predicates columns)).length ∧
        r.totalFiles = relevant.length := by
  rw [ofFiles_eq_ofFilesBy, result_ofFilesBy_eq_ok_iff]
  refine exists_congr fun predicates => exists_congr fun relevant =>
    and_congr_right fun _ => and_congr_right fun _ => ?_
  by_cases hempty : relevant = []
  · -- the stack of no tables
    subst hempty
    obtain ⟨table, processed, total⟩ := r
    simp [Table.stack, empty, eq_comm]
  · simp only [result_readBy_eq_ok_iff, ne_eq, hempty, not_false_eq_true,
      forall_const, and_assoc, ← result_stackFound_eq_ok_iff]
    constructor
    · rintro ⟨tables, hseveral, hreadable, rfl, hstack⟩
      exact ⟨hseveral, hreadable, hstack⟩
    · rintro ⟨hseveral, hreadable, hstack⟩
      exact ⟨_, hseveral, hreadable, rfl, hstack⟩

/-- The result is the stack of what the files that are not pruned contribute. -/
theorem ofFiles_spec {files : List FileReference} {filters : List Value} {workers : Value}
    {r : QueryResult} (h : (ofFiles server files filters columns workers).result = .ok r) :
    ∃ predicates relevant, (Predicate.parseAll filters).result = .ok predicates ∧
      (pruneFiles files predicates).result = .ok relevant ∧
      (Table.stack (relevant.filterMap (contribution server predicates columns))
        (columns.getD [])).result = .ok r.table ∧
      r.filesProcessed = (relevant.filterMap (contribution server predicates columns)).length ∧
      r.totalFiles = relevant.length := by
  obtain ⟨predicates, relevant, hparse, hprune, -, -, hresult⟩ := ofFiles_eq_ok_iff.1 h
  exact ⟨predicates, relevant, hparse, hprune, hresult⟩

/-! ### Rows -/

/-- The files that contribute are those with rows left, and they contribute all of these. -/
theorem height_contributions (files : List FileReference) :
    ((files.filterMap (contribution server predicates columns)).map Table.height) =
      (files.filter fun file => 0 < rowsLeft server predicates file).map
        (rowsLeft server predicates) := by
  -- a file is in both lists or in neither
  induction files with
  | nil => rfl
  | cons file rest ih =>
    have hfile := contribution_spec server predicates columns file
    cases hcontribution : contribution server predicates columns file with
    | none =>
      rw [hcontribution] at hfile
      rw [List.filterMap_cons_none hcontribution, ih, List.filter_cons_of_neg]
      simp [hfile]
    | some t =>
      rw [hcontribution] at hfile
      obtain ⟨hpos, hheight⟩ := hfile
      rw [List.filterMap_cons_some hcontribution, List.map_cons, ih, List.filter_cons_of_pos,
        List.map_cons, hheight]
      rw [← hheight]
      exact decide_eq_true hpos

/-- All rows of the files that are counted are in the result, iff not more than one file is counted
    or some column is left in the stack of what they contribute. -/
theorem all_rows_iff {files : List FileReference} {filters : List Value} {workers : Value}
    {r : QueryResult} (h : (ofFiles server files filters columns workers).result = .ok r) :
    ∃ predicates relevant, (Predicate.parseAll filters).result = .ok predicates ∧
      (pruneFiles files predicates).result = .ok relevant ∧
      let counted := relevant.filter fun file => 0 < rowsLeft server predicates file
      r.filesProcessed = counted.length ∧
        ((r.table.height = (counted.map (rowsLeft server predicates)).sum ∧
            (0 < r.filesProcessed → 0 < r.table.height)) ↔
          counted.length ≤ 1 ∨
            Table.stackedNames (relevant.filterMap (contribution server predicates columns)) ≠
              []) := by
  obtain ⟨predicates, relevant, hparse, hprune, hstack, hprocessed, -⟩ := ofFiles_spec h
  refine ⟨predicates, relevant, hparse, hprune, ?_⟩
  dsimp only
  have hheights := @height_contributions server predicates columns relevant
  have hheight := Table.height_stack hstack
  -- from here on only the numbers of rows matter
  generalize relevant.filterMap (contribution server predicates columns) = tables at *
  rw [hheights] at hheight
  have hlength : tables.length =
      (relevant.filter fun file => 0 < rowsLeft server predicates file).length := by
    rw [← List.length_map (f := Table.height), hheights, List.length_map]
  rw [hlength] at hheight hprocessed
  have hpositive : ∀ n ∈ (relevant.filter fun file => 0 < rowsLeft server predicates file).map
      (rowsLeft server predicates), 0 < n := by
    intro n hn
    obtain ⟨file, hfile, rfl⟩ := List.mem_map.1 hn
    simpa using (List.mem_filter.1 hfile).2
  generalize (relevant.filter fun file => 0 < rowsLeft server predicates file) = counted at *
  refine ⟨hprocessed, ?_⟩
  by_cases hleft : counted.length ≤ 1 ∨ Table.stackedNames tables ≠ []
  · rw [if_pos hleft] at hheight
    refine iff_of_true ⟨hheight, fun hcounted => ?_⟩ hleft
    -- every file that is counted adds a row at least
    rw [hheight]
    apply List.sum_pos _ hpositive
    rintro hnil
    rw [List.map_eq_nil_iff] at hnil
    rw [hprocessed, hnil] at hcounted
    exact absurd hcounted (by decide)
  · -- there is more than one file, and there are no rows
    rw [if_neg hleft] at hheight
    refine iff_of_false ?_ hleft
    rintro ⟨-, hrows⟩
    rw [not_or] at hleft
    have hsome := hrows (by omega)
    omega

/-- A server with a file that has one column and a file to which another column was added. -/
def drifted : Server :=
  Server.holding
    [("https://files.example.com/a", ⟨[⟨"id", .int64⟩], [[.int 1]]⟩),
      ("https://files.example.com/b",
        ⟨[⟨"id", .int64⟩, ⟨"email", .string⟩], [[.int 2, .text "x"], [.int 3, .null]]⟩)]

/-- The files of that server. -/
def driftedFiles : List FileReference :=
  [.ofUrl "https://files.example.com/a", .ofUrl "https://files.example.com/b"]

/-- The files are stacked on the column that they share, with all of their rows. -/
theorem all_rows_of_shared_column :
    (ofFiles drifted driftedFiles [] none (.int 1)).result =
        .ok ⟨⟨[⟨"id", .int64⟩], [[.int 1], [.int 2], [.int 3]]⟩, 2, 2⟩ ∧
      3 = (driftedFiles.map (rowsLeft drifted [])).sum := by
  refine ⟨rfl, ?_⟩
  obtain ⟨predicates, relevant, hparse, hprune, -, hrows⟩ :=
    @all_rows_iff drifted none driftedFiles [] (.int 1)
      ⟨⟨[⟨"id", .int64⟩], [[.int 1], [.int 2], [.int 3]]⟩, 2, 2⟩ rfl
  obtain rfl := Except.ok.inj hparse
  obtain rfl := Except.ok.inj hprune
  exact (hrows.2 (.inr (by decide))).1

/-- If the added column is requested, the file that lacks it contributes the other one.  Then they
    share no column, and no row of either is in the result. -/
theorem no_rows_of_missing_column :
    (ofFiles drifted driftedFiles [] (some ["email"]) (.int 1)).result =
        .ok ⟨⟨[], []⟩, 2, 2⟩ ∧
      driftedFiles.map (rowsLeft drifted []) = [1, 2] := by
  refine ⟨?_, ?_⟩
  · rfl
  · rfl

end QueryResult

end SharedTables
