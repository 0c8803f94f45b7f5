import Mathlib
import SharedTables.Proofs.Query.Contribution
import SharedTables.Proofs.Table.Requested

/-!
# Queries for some of the columns

Asking for columns changes nothing about which files contribute to the result of a query, nor how
many are looked at.  It cuts down what each of them contributes, and so the columns of the result.

## Key results

- `contribution_some`: what a file contributes to a query for some of the columns
- `requested_columns_project`: the result of such a query next to that of a query for all columns
-/

namespace SharedTables

namespace QueryResult

variable {server : Server} {predicates : List Predicate} {names : List String}

/-- A file contributes what the request leaves of all that it has. -/
theorem contribution_some (file : FileReference) :
    contribution server predicates (some names) file =
      (contribution server predicates none file).map (Table.wanted names) := by
  rw [contribution, contribution, loadFile_eq, loadFile_eq]
  cases hfilter : (filterFile server predicates file).result with
  | error e => rw [Run.result_bind_of_error hfilter, Run.result_bind_of_error hfilter]; rfl
  | ok t =>
    have hall : (t.selectColumns none).result = .ok t := rfl
    rw [Run.result_bind_of_ok hfilter, Run.result_bind_of_ok hfilter, hall,
      Table.result_selectColumns]
    -- all rows are kept, so both are left out or neither
    have hheight : (t.wanted names).height = t.height := by
      obtain ⟨u, hu, hheight⟩ := t.height_selectColumns (some names)
      rw [Table.result_selectColumns] at hu
      rwa [Except.ok.inj hu]
    dsimp only
    rw [hheight]
    split <;> rfl

private theorem filterMap_contribution_some (files : List FileReference) :
    files.filterMap (contribution server predicates (some names)) =
      (files.filterMap (contribution server predicates none)).map (Table.wanted names) := by
  rw [List.map_filterMap]
  exact List.filterMap_congr fun file _ => contribution_some file

/-- Asking for columns changes nothing about the files that contribute or are looked at.  Which
    columns there are depends on how many of the files that contribute have a requested one. -/
theorem requested_columns_project {files : List FileReference} {filters : List Value}
    {workers workers' : Value} {part whole : QueryResult}
    (hpart : (ofFiles server files filters (some names) workers).result = .ok part)
    (hwhole : (ofFiles server files filters none workers').result = .ok whole) :
    ∃ predicates kept, (Predicate.parseAll filters).result = .ok predicates ∧
      (pruneFiles files predicates).result = .ok kept ∧
      part.filesProcessed = whole.filesProcessed ∧ part.totalFiles = whole.totalFiles ∧
      let tables := kept.filterMap (contribution server predicates none)
      whole.filesProcessed = tables.length ∧
        Table.Projects names tables whole.table part.table := by
  obtain ⟨predicates, kept, hparse, hprune, hstack, hprocessed, htotal⟩ := ofFiles_spec hpart
  obtain ⟨predicates', kept', hparse', hprune', hstack', hprocessed', htotal'⟩ :=
    ofFiles_spec hwhole
  obtain rfl := Except.ok.inj (hparse.symm.trans hparse')
  obtain rfl := Except.ok.inj (hprune.symm.trans hprune')
  rw [filterMap_contribution_some] at hstack hprocessed
  refine ⟨predicates, kept, hparse, hprune, ?_, htotal.trans htotal'.symm, hprocessed',
    Table.projects_stack hstack' hstack⟩
  rw [hprocessed, hprocessed', List.length_map]

/-- A server with two files whose columns are in another order, one of them with one more. -/
def reordered : Server :=
  Server.holding
    [("https://files.example.com/a", ⟨[⟨"id", .int64⟩, ⟨"x", .boolean⟩], [[.int 1, .bool true]]⟩),
      ("https://files.example.com/b", ⟨[⟨"x", .date⟩, ⟨"email", .string⟩, ⟨"id", .int64⟩],
        [[.date 0, .null, .int 2]]⟩)]

/-- Of the four names in the request two are shared: the result has these, the first of them as
    texts. -/
theorem requested_columns_of_reordered :
    (ofFiles reordered driftedFiles [] (some ["x", "email", "id", "x"]) (.int 2)).result =
        .ok ⟨⟨[⟨"x", .string⟩, ⟨"id", .int64⟩],
          [[.text "true", .int 1], [.text "1970-01-01", .int 2]]⟩, 2, 2⟩ ∧
      (ofFiles reordered driftedFiles [] none (.int 1)).result =
        .ok ⟨⟨[⟨"id", .int64⟩, ⟨"x", .string⟩],
          [[.int 1, .text "true"], [.int 2, .text "1970-01-01"]]⟩, 2, 2⟩ ∧
      ∃ tables : List Table, tables.length = 2 ∧ ["x", "id"] =
        (Table.distinct ["x", "email", "id", "x"]).filter fun n =>
          (tables.all fun t => t.hasColumn n) && Table.stackable (Table.typesOf tables n) := by
  have hpart : (ofFiles reordered driftedFiles [] (some ["x", "email", "id", "x"])
      (.int 2)).result = .ok ⟨⟨[⟨"x", .string⟩, ⟨"id", .int64⟩],
        [[.text "true", .int 1], [.text "1970-01-01", .int 2]]⟩, 2, 2⟩ := rfl
  have hwhole : (ofFiles reordered driftedFiles [] none (.int 1)).result =
      .ok ⟨⟨[⟨"id", .int64⟩, ⟨"x", .string⟩],
        [[.int 1, .text "true"], [.int 2, .text "1970-01-01"]]⟩, 2, 2⟩ := rfl
  refine ⟨hpart, hwhole, ?_⟩
  obtain ⟨predicates, kept, hparse, hprune, -, -, hprocessed, hprojects⟩ :=
    requested_columns_project hpart hwhole
  obtain rfl := Except.ok.inj hparse
  obtain rfl := Except.ok.inj hprune
  exact ⟨_, rfl, hprojects.of_all (List.cons_ne_nil _ _) (by decide)⟩

end QueryResult

end SharedTables
