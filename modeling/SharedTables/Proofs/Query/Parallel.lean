import Mathlib
import SharedTables.Proofs.Pool
import SharedTables.Proofs.Query.Isolation

/-!
# Queries by several workers

With several workers the files are given to a pool, which has not more workers than files.  Whatever
the order in which the workers take files, go on with them and finish them, the query comes to the
same as by one worker, and asks for the same files.  If a failure stops it, then it is the failure
of the first file that has one, although others may have failed earlier.

## Key results

- `Scheduled.sameUpToOrder`: whatever the order, the query is that of one worker
- `result_ofFiles_one_of_error`: the first file that stops the query decides on the failure
- `schedules_agree`: queries by one worker and by several
-/

namespace SharedTables

namespace QueryResult

/-- A way to carry out readings by several workers: several readings are given to a pool. -/
def ReadsInPool (workers : Nat)
    (readAll : List (Run (Option Table)) → Run (List (Option Table))) : Prop :=
  ∀ tasks, if 1 < tasks.length then Pool.Yields (min workers tasks.length) tasks (readAll tasks)
    else readAll tasks = Run.forEach id tasks

/-- Some order of what the workers do carries out the query as `run`. -/
def Scheduled (workers : Nat) (server : Server) (files : List FileReference)
    (filters : List Value) (columns : Option (List String)) (run : Run QueryResult) : Prop :=
  ∃ readAll, ReadsInPool workers readAll ∧ run = ofFilesBy readAll server files filters columns

variable {server : Server} {predicates : List Predicate} {columns : Option (List String)}
  {files : List FileReference} {filters : List Value} {workers : Nat}

/-! ### Orders of work -/

theorem ReadsInPool.sameUpToOrder {readAll : List (Run (Option Table)) → Run (List (Option Table))}
    (h : ReadsInPool workers readAll) (hworkers : 0 < workers) (tasks : List (Run (Option Table))) :
    (readAll tasks).SameUpToOrder (Run.forEach id tasks) := by
  have htasks := h tasks
  split at htasks
  · exact htasks.sameUpToOrder (by omega)
  · rw [htasks]
    exact .rfl

/-- Whatever the order, the query comes to the same as by one worker. -/
theorem Scheduled.sameUpToOrder {run : Run QueryResult}
    (h : Scheduled workers server files filters columns run) (hworkers : 0 < workers) :
    run.SameUpToOrder (ofFiles server files filters columns (.int 1)) := by
  obtain ⟨readAll, hreads, rfl⟩ := h
  rw [ofFiles_eq_ofFilesBy]
  refine Run.SameUpToOrder.bind .rfl fun predicates => ?_
  refine Run.SameUpToOrder.bind .rfl fun relevant => ?_
  split
  · exact .rfl
  · exact (hreads.sameUpToOrder hworkers _).bind fun _ => .rfl

/-- Carrying out all readings before their outcomes are looked at is one of the orders. -/
private theorem scheduled_ofFiles {n : Int} (hn : 1 < n) :
    Scheduled n.toNat server files filters columns
      (ofFiles server files filters columns (.int n)) := by
  refine ⟨readBy (.int n), fun tasks => ?_, ofFiles_eq_ofFilesBy ..⟩
  have hseveral : isSeveral (.int n) = .ok true := by simp [isSeveral, hn]
  have hread : readBy (.int n) tasks =
      if 1 < tasks.length then Run.forAll id tasks else Run.forEach id tasks := by
    rw [readBy, hseveral, Run.ofExcept_ok, pure_bind]
    simp only [Bool.true_and, decide_eq_true_eq]
  split
  · -- first the pool does all of the work, then the outcomes are collected
    rename_i htasks
    rw [hread, if_pos htasks]
    exact Pool.yields_forAll (by omega) tasks
  · rename_i htasks
    rw [hread, if_neg htasks]

/-! ### Failures -/

/-- A file stops the query if it cannot be read for a reason that does not concern it alone. -/
private theorem outcome_eq_error_iff {file : FileReference} {e : Failure} :
    outcome server predicates columns file = .error e ↔
      (loadFile server predicates columns file).result = .error e ∧ e.concernsFile = false := by
  rw [outcome]
  cases (loadFile server predicates columns file).result with
  | ok t => simp
  | error e' =>
    dsimp only
    rw [Except.error.injEq]
    by_cases hconcerns : e'.concernsFile = true
    · -- the file is passed over
      rw [if_pos hconcerns]
      constructor
      · intro h
        cases h
      · rintro ⟨rfl, hnot⟩
        rw [hconcerns] at hnot
        cases hnot
    · rw [if_neg hconcerns, Except.error.injEq, iff_self_and]
      rintro rfl
      rwa [Bool.not_eq_true] at hconcerns

/-- The first file that stops the query decides on the failure. -/
theorem result_ofFiles_one_of_error {before after : List FileReference} {file : FileReference}
    {e : Failure} (hparse : (Predicate.parseAll filters).result = .ok predicates)
    (hprune : (pruneFiles files predicates).result = .ok (before ++ file :: after))
    (hbefore : ∀ f ∈ before, Readable server predicates columns f)
    (hfile : (loadFile server predicates columns file).result = .error e)
    (hconcerns : e.concernsFile = false) :
    (ofFiles server files filters columns (.int 1)).result = .error e := by
  -- one worker looks at the files in order, up to this one
  have hread : (readBy (.int 1)
      (readings server predicates columns (before ++ file :: after))).result = .error e := by
    -- the outcomes are tables up to the file, and there the failure
    have hfirst := map_outcome_eq_ok_iff.2 ⟨hbefore, rfl⟩
    have hstop := outcome_eq_error_iff.2 ⟨hfile, hconcerns⟩
    have houtcomes := @map_result_readings server predicates columns (before ++ file :: after)
    rw [List.map_append, List.map_cons, hfirst, hstop] at houtcomes
    rw [readBy_one, Run.result_forEach_eq_mapM]
    simp only [id_eq]
    rw [houtcomes, Run.mapM_id_of_error]
  rw [ofFiles_eq_ofFilesBy, ofFilesBy, Run.result_bind_of_ok hparse, Run.result_bind_of_ok hprune,
    if_neg (by simp), Run.result_bind_of_error hread]

/-! ### Queries -/

/-- Several workers take files, go on with them and finish them in some order, and come to an end.
    Whatever the order, the query comes to the table, the numbers or the failure that it comes to by
    one worker; if it has a result, it asks for the same files.  A failure is that of the first file
    that stops the query. -/
theorem schedules_agree {n : Int} (hn : 1 < n) (server : Server) (files : List FileReference)
    (filters : List Value) (columns : Option (List String)) :
    (∀ run, Scheduled n.toNat server files filters columns run →
      run.result = (ofFiles server files filters columns (.int 1)).result ∧
        ∀ r, run.result = .ok r → (Event.requests run.events).Perm
          (Event.requests (ofFiles server files filters columns (.int 1)).events)) ∧
      Scheduled n.toNat server files filters columns
        (ofFiles server files filters columns (.int n)) ∧
      (∀ (tasks : Nat) (steps : Nat → Pool (Option Table)),
        ¬ ∀ i, Pool.Step (min n.toNat tasks) (steps i) (steps (i + 1))) ∧
      ∀ predicates before file after e, (Predicate.parseAll filters).result = .ok predicates →
        (pruneFiles files predicates).result = .ok (before ++ file :: after) →
        (∀ f ∈ before, Readable server predicates columns f) →
        (loadFile server predicates columns file).result = .error e → e.concernsFile = false →
        ∀ run, Scheduled n.toNat server files filters columns run → run.result = .error e := by
  have hworkers : 0 < n.toNat := by omega
  refine ⟨fun run hrun => ?_, scheduled_ofFiles hn, fun _ steps => Pool.not_forever steps, ?_⟩
  · -- all schedules are compared with one worker, whose run is known
    have hsame := hrun.sameUpToOrder hworkers
    exact ⟨hsame.result_eq, fun r hr => (hsame.events_perm r hr).filterMap _⟩
  · intro predicates before file after e hparse hprune hbefore hfile hconcerns run hrun
    rw [(hrun.sameUpToOrder hworkers).result_eq]
    exact result_ofFiles_one_of_error hparse hprune hbefore hfile hconcerns

/-- The files of the server that has two of them, after one that is missing. -/
def missingFirst : List FileReference :=
  [.ofUrl "https://files.example.com/b", .ofUrl "https://files.example.com/a",
    .ofUrl "https://files.example.com/c"]

/-- Two workers pass over the missing file, but not over a comparison that is not defined. -/
theorem two_workers_agree :
    (1 : Int) < 2 ∧
      (ofFiles partlyMissing missingFirst [.text "id > 1"] none (.int 2)).result =
        .ok ⟨⟨[⟨"id", .int64⟩], [[.int 2]]⟩, 1, 3⟩ ∧
      (ofFiles partlyMissing missingFirst
        [.text "id < 170141183460469231731687303715884105728"] none (.int 2)).result =
          .error (.table .invalidOperation) := by
  have hseveral : (1 : Int) < 2 := by decide
  refine ⟨hseveral, ?_, ?_⟩
  · obtain ⟨hsame, hscheduled, -⟩ :=
      schedules_agree hseveral partlyMissing missingFirst [.text "id > 1"] none
    exact (hsame _ hscheduled).1.trans rfl
  · obtain ⟨-, hscheduled, -, hfailure⟩ := schedules_agree hseveral partlyMissing missingFirst
      [.text "id < 170141183460469231731687303715884105728"] none
    -- the missing file in front concerns itself alone, so it is passed over
    refine hfailure _ [.ofUrl "https://files.example.com/b"] (.ofUrl "https://files.example.com/a")
      [.ofUrl "https://files.example.com/c"] _ rfl rfl ?_ rfl rfl _ hscheduled
    intro f hf e he
    obtain rfl := List.mem_singleton.1 hf
    obtain rfl := Except.error.inj he
    rfl

end QueryResult

end SharedTables
