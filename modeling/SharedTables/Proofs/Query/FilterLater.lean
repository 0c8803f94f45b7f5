import Mathlib
import SharedTables.Proofs.Query.Isolation
import SharedTables.Proofs.Query.Served

/-!
# Filtering at once and filtering later

Rows can be filtered file by file, while the files are read, or all together, when the result is
there.  For predicates that the columns accept this makes no difference: the same rows are kept, in
the same order.

## Key results

- `exists_result_of_unfiltered`: without filters the rows of all files are there
- `filter_later`: filtering the result keeps the rows that filtering file by file keeps
-/

namespace SharedTables

namespace QueryResult

variable {server : Server} {columns : List Column} {files : List FileReference}
  {texts : List Value}

/-- Files are not pruned by predicates on columns that they are not partitioned by. -/
private theorem pruneFiles_of_texts {predicates : List Predicate}
    (hreads : texts.map Predicate.ofValue = predicates.map .ok)
    (h : ∀ text ∈ texts, ∀ p, Predicate.ofValue text = .ok p →
      ∀ file ∈ files, file.partitionValues.lookup? p.column = none) :
    (pruneFiles files predicates).result = .ok files := by
  refine pruneFiles_of_unpartitioned fun file hfile p hp => ?_
  have hmem : Except.ok p ∈ texts.map Predicate.ofValue := hreads ▸ List.mem_map_of_mem hp
  obtain ⟨text, htext, hread⟩ := List.mem_map.1 hmem
  exact h text htext p hread file hfile

/-- A query without filters has all rows of the files. -/
theorem exists_result_of_unfiltered (h : server.Serves columns files) (n : Int) :
    ∃ r, (ofFiles server files [] none (.int n)).result = .ok r ∧
      r.table.rows = files.flatMap (fun file => server.rowsAt file.url) ∧
      (r.table.rows ≠ [] → r.table.columns = columns) := by
  -- without filters nothing is parsed, pruned or filtered out
  have hparse : (Predicate.parseAll []).result = .ok [] := rfl
  have hprune : (pruneFiles files []).result = .ok files := rfl
  have hkeep : ∀ t : Table, t.columns = columns →
      (t.filterBy []).result = .ok (t.filterRows fun _ => true) := fun _ _ => rfl
  obtain ⟨r, hr, hrows, hcolumns⟩ := exists_result_of_kept h hparse hprune hkeep n
  simp only [List.filter_true] at hrows
  exact ⟨r, hr, hrows, hcolumns⟩

/-- Files with the same columns, one of which has a row, are queried with filters that these columns
    accept and that no file is partitioned by.  Then the query has the rows that filtering the
    result of the query without filters keeps, in the same order. -/
theorem filter_later (hserves : server.Serves columns files)
    (hrow : ∃ file ∈ files, server.rowsAt file.url ≠ [])
    (haccepts : Table.Accepts columns texts)
    (hunpartitioned : ∀ text ∈ texts, ∀ p, Predicate.ofValue text = .ok p →
      ∀ file ∈ files, file.partitionValues.lookup? p.column = none) (n : Int) :
    ∃ filtered all narrowed,
      (ofFiles server files texts none (.int n)).result = .ok filtered ∧
      (ofFiles server files [] none (.int n)).result = .ok all ∧
      all.filter texts = .ok narrowed ∧
      filtered.table.rows = narrowed.table.rows := by
  obtain ⟨predicates, keep, hreads, hparse, hkeep⟩ := Table.exists_keep_of_accepts haccepts
  obtain ⟨filtered, hfiltered, hrows, -⟩ := exists_result_of_kept hserves hparse
    (pruneFiles_of_texts hreads hunpartitioned) (fun t ht => (hkeep t ht).2) n
  obtain ⟨all, hall, hallRows, hcolumns⟩ := exists_result_of_unfiltered hserves n
  -- the result of all files has their columns, since there is a row
  have hne : all.table.rows ≠ [] := by
    obtain ⟨file, hfile, hfileRows⟩ := hrow
    rw [hallRows]
    intro hnil
    exact hfileRows (List.flatMap_eq_nil_iff.1 hnil file hfile)
  -- both filters use one test `keep`, which is what makes them agree
  have hstrict := (hkeep all.table (hcolumns hne)).1
  refine ⟨filtered, all, { all with table := all.table.filterRows keep }, hfiltered, hall, ?_, ?_⟩
  · rw [QueryResult.filter, hstrict]
    rfl
  · rw [hrows, Table.filterRows, hallRows, List.filter_flatMap]

/-- Two files of numbers, one of which has no number above one. -/
def numberFiles : List FileReference :=
  [FileReference.ofYear "https://files.example.com/a" "2024",
    FileReference.ofYear "https://files.example.com/c" "2025"]

theorem serves_numberFiles : partlyMissing.Serves [⟨"id", .int64⟩] numberFiles := by
  -- any rows of one 64-bit integer make up a table of these columns
  have hnumbers : ∀ rows : List Row,
      (∀ row ∈ rows, ∃ n, DataType.holdsInt true 64 n = true ∧ row = [.int n]) →
      (Table.mk [⟨"id", .int64⟩] rows).HasColumns [⟨"id", .int64⟩] := by
    intro rows hrows
    refine ⟨⟨List.nodup_singleton _, fun row hrow => ?_, nofun⟩, rfl⟩
    obtain ⟨n, hn, rfl⟩ := hrows row hrow
    exact .cons (.int hn) .nil
  intro file hfile
  rw [numberFiles, List.mem_cons, List.mem_singleton] at hfile
  obtain rfl | rfl := hfile
  · refine ⟨_, rfl, hnumbers _ ?_⟩
    simp [DataType.holdsInt, DataType.minInt, DataType.maxInt]
  · refine ⟨_, rfl, hnumbers _ ?_⟩
    simp [DataType.holdsInt, DataType.minInt, DataType.maxInt]

/-- Of the three numbers in two files the query that filters them has one. -/
theorem filter_later_numbers :
    partlyMissing.Serves [⟨"id", .int64⟩] numberFiles ∧
      Table.Accepts [⟨"id", .int64⟩] [.text "id > 1"] ∧
      ∃ filtered all narrowed,
        (ofFiles partlyMissing numberFiles [.text "id > 1"] none (.int 1)).result = .ok filtered ∧
        (ofFiles partlyMissing numberFiles [] none (.int 1)).result = .ok all ∧
        all.filter [.text "id > 1"] = .ok narrowed ∧
        filtered.table.rows = [[.int 2]] ∧ narrowed.table.rows = [[.int 2]] := by
  have haccepts : Table.Accepts [⟨"id", .int64⟩] [.text "id > 1"] := ⟨_, rfl⟩
  refine ⟨serves_numberFiles, haccepts, ?_⟩
  obtain ⟨filtered, all, narrowed, hfiltered, hall, hnarrowed, hrows⟩ :=
    filter_later serves_numberFiles ⟨_, List.mem_cons_self .., by decide⟩ haccepts (by
      intro text htext p hread file hfile
      obtain rfl := List.mem_singleton.1 htext
      obtain rfl := Except.ok.inj hread
      rw [numberFiles, List.mem_cons, List.mem_singleton] at hfile
      obtain rfl | rfl := hfile <;> rfl) 1
  have hone : filtered.table.rows = [[.int 2]] := by
    rw [← Except.ok.inj hfiltered]
    rfl
  exact ⟨filtered, all, narrowed, hfiltered, hall, hnarrowed, hone, hrows ▸ hone⟩

end QueryResult

end SharedTables
