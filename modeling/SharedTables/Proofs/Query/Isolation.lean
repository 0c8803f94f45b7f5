import Mathlib
import SharedTables.Proofs.Query.Contribution
import SharedTables.Proofs.Requests
import SharedTables.Proofs.Sharing.Pruned

/-!
# Files that fail and files that match nothing

A query reads every file that pruning keeps, once and in the order of the manifest.  Its table is
made of the files that contribute, and of nothing else: it is the table of a query for these files
alone.  A file that cannot be downloaded, holds no table or has no matching row leaves no trace in
the table, only in the number of files that were looked at.

## Key results

- `filterMap_contributing`: the files that contribute make up the contributions of all
- `loadFile_congr`: what a file comes to depends on the answer for its location alone
- `contributing_files_decide`: the table, the numbers and the requests of a query by one worker
-/

namespace SharedTables

/-- A file of a year. -/
def FileReference.ofYear (url year : String) : FileReference :=
  { FileReference.ofUrl url with partitionValues := [("year", .text year)] }

namespace QueryResult

/-- The files that contribute: those with rows left. -/
def contributing (server : Server) (predicates : List Predicate) (files : List FileReference) :
    List FileReference :=
  files.filter fun file => 0 < rowsLeft server predicates file

variable {server server' : Server} {predicates : List Predicate} {columns : Option (List String)}

/-! ### The files that contribute -/

private theorem contribution_eq_none_iff {file : FileReference} :
    contribution server predicates columns file = none ↔ ¬ 0 < rowsLeft server predicates file := by
  have hspec := contribution_spec server predicates columns file
  cases hfile : contribution server predicates columns file with
  | none =>
    rw [hfile] at hspec
    simp [hspec]
  | some t =>
    rw [hfile] at hspec
    obtain ⟨hpos, hheight⟩ := hspec
    simp [← hheight, hpos]

/-- The files that contribute make up the contributions of all. -/
theorem filterMap_contributing (files : List FileReference) :
    (contributing server predicates files).filterMap (contribution server predicates columns) =
      files.filterMap (contribution server predicates columns) := by
  induction files with
  | nil => rfl
  | cons file rest ih =>
    -- a file without rows left is in neither of the lists
    by_cases hrows : 0 < rowsLeft server predicates file
    · rw [contributing, List.filter_cons_of_pos (by simpa using hrows), List.filterMap_cons,
        List.filterMap_cons, ← contributing, ih]
    · rw [contributing, List.filter_cons_of_neg (by simpa using hrows), ← contributing, ih,
        List.filterMap_cons_none (contribution_eq_none_iff.2 hrows)]

private theorem length_contributions (files : List FileReference) :
    (files.filterMap (contribution server predicates columns)).length =
      (contributing server predicates files).length := by
  rw [← List.length_map (f := Table.height), height_contributions, List.length_map, contributing]

/-! ### The answers of the server -/

/-- What a file comes to depends on the answer for its location alone. -/
theorem loadFile_congr {file : FileReference} (h : server'.file file.url = server.file file.url) :
    loadFile server' predicates columns file = loadFile server predicates columns file := by
  have hfetch : Client.fetch server' file.url = Client.fetch server file.url := by
    rw [Client.fetch, Client.fetch, h]
  rw [loadFile, loadFile, hfetch]

private theorem contribution_congr {file : FileReference}
    (h : server'.file file.url = server.file file.url) :
    contribution server' predicates columns file = contribution server predicates columns file := by
  rw [contribution, contribution, loadFile_congr h]

/-! ### Whole queries -/

/-- A query by one worker counts the files that pruning keeps and those of them that contribute, and
    asks for the former in their order.  Its table is that of a query for the latter alone, so any
    other query with the same contributing files has the same table. -/
theorem contributing_files_decide {files : List FileReference} {filters : List Value}
    {r : QueryResult} (h : (ofFiles server files filters columns (.int 1)).result = .ok r) :
    ∃ predicates kept, (Predicate.parseAll filters).result = .ok predicates ∧
      (pruneFiles files predicates).result = .ok kept ∧
      r.totalFiles = kept.length ∧
      r.filesProcessed = (contributing server predicates kept).length ∧
      Event.requests (ofFiles server files filters columns (.int 1)).events =
        kept.map (fun file => .get file.url) ∧
      (∃ alone, (ofFiles server (contributing server predicates kept) filters columns
          (.int 1)).result = .ok alone ∧ alone.table = r.table) ∧
      ∀ (server' : Server) (files' kept' : List FileReference) (r' : QueryResult),
        (ofFiles server' files' filters columns (.int 1)).result = .ok r' →
        (pruneFiles files' predicates).result = .ok kept' →
        contributing server' predicates kept' = contributing server predicates kept →
        (∀ file ∈ contributing server predicates kept,
          server'.file file.url = server.file file.url) →
        r'.table = r.table := by
  obtain ⟨predicates, kept, hparse, hprune, -, hreadable, hstack, hprocessed, htotal⟩ :=
    ofFiles_eq_ok_iff.1 h
  refine ⟨predicates, kept, hparse, hprune, htotal, ?_, requests_ofFiles_one h hparse hprune,
    ?_, ?_⟩
  · rw [hprocessed, length_contributions]
  · -- pruning keeps these files again, and they contribute what they contributed
    have hsublist : (contributing server predicates kept).Sublist kept := List.filter_sublist
    refine ⟨⟨r.table, _, _⟩, ofFiles_eq_ok_iff.2 ⟨predicates, _, hparse,
      pruneFiles_of_sublist hprune hsublist, fun _ => ⟨_, rfl⟩,
      fun file hfile => hreadable file (hsublist.subset hfile), ?_, rfl, rfl⟩, rfl⟩
    rw [filterMap_contributing]
    exact hstack
  · intro server' files' kept' r' h' hprune' hsame hanswers
    obtain ⟨predicates', relevant', hparse', hprune'', -, -, hstack', -, -⟩ :=
      ofFiles_eq_ok_iff.1 h'
    obtain rfl := Except.ok.inj (hparse.symm.trans hparse')
    obtain rfl := Except.ok.inj (hprune'.symm.trans hprune'')
    -- both tables are the stack of the same contributions
    have hcontributions : kept'.filterMap (contribution server' predicates columns) =
        kept.filterMap (contribution server predicates columns) := by
      rw [← filterMap_contributing kept', hsame, ← filterMap_contributing kept]
      exact List.filterMap_congr fun file hfile => contribution_congr (hanswers file hfile)
    rw [hcontributions, hstack] at hstack'
    exact (Except.ok.inj hstack').symm

/-- A server with two files of numbers; all other files are missing. -/
def partlyMissing : Server :=
  Server.holding
    [("https://files.example.com/a", ⟨[⟨"id", .int64⟩], [[.int 1], [.int 2]]⟩),
      ("https://files.example.com/c", ⟨[⟨"id", .int64⟩], [[.int 0]]⟩)]

/-- Of four files one is pruned, one is missing and one matches nothing: the first alone decides on
    the table. -/
theorem first_file_decides :
    (ofFiles partlyMissing
        [FileReference.ofYear "https://files.example.com/a" "2024",
          FileReference.ofYear "https://files.example.com/b" "2024",
          FileReference.ofYear "https://files.example.com/c" "2025",
          FileReference.ofYear "https://files.example.com/d" "2023"]
        [.text "year >= 2024", .text "id > 1"] none (.int 1)).result =
        .ok ⟨⟨[⟨"id", .int64⟩], [[.int 2]]⟩, 1, 3⟩ ∧
      ∃ alone, (ofFiles partlyMissing [FileReference.ofYear "https://files.example.com/a" "2024"]
          [.text "year >= 2024", .text "id > 1"] none (.int 1)).result = .ok alone ∧
        alone.table = ⟨[⟨"id", .int64⟩], [[.int 2]]⟩ := by
  refine ⟨rfl, ?_⟩
  obtain ⟨predicates, kept, hparse, hprune, -, -, -, halone, -⟩ :=
    @contributing_files_decide partlyMissing none
      [FileReference.ofYear "https://files.example.com/a" "2024",
        FileReference.ofYear "https://files.example.com/b" "2024",
        FileReference.ofYear "https://files.example.com/c" "2025",
        FileReference.ofYear "https://files.example.com/d" "2023"]
      [.text "year >= 2024", .text "id > 1"] ⟨⟨[⟨"id", .int64⟩], [[.int 2]]⟩, 1, 3⟩ rfl
  obtain rfl := Except.ok.inj hparse
  obtain rfl := Except.ok.inj hprune
  exact halone

end QueryResult

end SharedTables
