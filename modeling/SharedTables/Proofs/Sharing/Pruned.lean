import Mathlib
import SharedTables.Proofs.Run
import SharedTables.Sharing.Pruning

/-!
# Which files pruning keeps

Pruning looks at every file by itself.  It stops at a partition value that cannot be read, and
otherwise keeps the files that admit every predicate, in their order.  Files that were kept are kept
again, also without some of the others.

## Key results

- `FileReference.result_admits`: what one predicate says about one file
- `pruneFiles_eq_ok_iff`: when pruning has a result, and which
- `pruneFiles_of_sublist`: the files that were kept, or some of them, are kept again
- `pruneFiles_of_unpartitioned`: predicates on other columns than those of the partition keep all
-/

namespace SharedTables

/-- The file admits every predicate, and its partition values can be read as far as that takes. -/
def FileReference.isAdmitted (predicates : List Predicate) (file : FileReference) : Bool :=
  match (file.admitsAll predicates).result with
  | .ok admitted => admitted
  | .error _ => false

variable {files kept : List FileReference} {predicates : List Predicate} {file : FileReference}
  {p : Predicate} {raw : Value}

theorem FileReference.isAdmitted_of_result {admitted : Bool}
    (h : (file.admitsAll predicates).result = .ok admitted) :
    file.isAdmitted predicates = admitted := by
  rw [isAdmitted, h]

/-! ### One file and one predicate -/

namespace FileReference

open PartitionValue

/-- The value that a file has in a partition column, unless it is null. -/
def value? (file : FileReference) (column : String) : Option Value :=
  (file.partitionValues.lookup? column).filter fun raw => !raw.isNull

theorem value?_of_text {column s : String}
    (h : file.partitionValues.lookup? column = some (.text s)) :
    file.value? column = some (.text s) := by
  rw [value?, h]
  rfl

/-- A file without a value is admitted, one with a value as the verdict on it says. -/
theorem result_admits (file : FileReference) (p : Predicate) :
    (file.admits p).result =
      match file.value? p.column with
      | none => .ok true
      | some raw =>
        match verdict raw p with
        | .error e => .error (.number e)
        | .ok accepted => .ok (accepted.getD false) := by
  rw [admits, value?]
  cases file.partitionValues.lookup? p.column with
  | none => rfl
  | some raw =>
    cases raw with
    | null => rfl
    | _ =>
      simp only [Option.filter_some, Value.isNull, Bool.not_false, if_true]
      -- a failure, a verdict, or no verdict, in the order in which the definition has them
      split
      · rename_i hverdict
        rw [hverdict]
        rfl
      · rename_i accepted hverdict
        rw [hverdict]
        rfl
      · rename_i hverdict
        rw [hverdict]
        rfl

/-- A file is admitted as the verdict on its value says, and not where there is nothing to
    compare. -/
theorem result_admits_of_verdict {accepted : Option Bool} (hraw : file.value? p.column = some raw)
    (h : verdict raw p = .ok accepted) : (file.admits p).result = .ok (accepted.getD false) := by
  simp only [result_admits, hraw, h]

/-- Without a verdict on its value a file is not judged. -/
theorem result_admits_of_error {e : NumberError} (hraw : file.value? p.column = some raw)
    (h : verdict raw p = .error e) : (file.admits p).result = .error (.number e) := by
  simp only [result_admits, hraw, h]

end FileReference

/-! ### All files -/

/-- Files beside the verdicts on them, of which the favourable ones count. -/
private theorem keep_zip_map {α : Type} (p : α → Bool) (as : List α) :
    ((as.zip (as.map p)).filter (·.2)).map (·.1) = as.filter p := by
  induction as with
  | nil => rfl
  | cons a rest ih =>
    rw [List.map_cons, List.zip_cons_cons]
    cases hp : p a with
    | true =>
      rw [List.filter_cons_of_pos rfl, List.map_cons, ih, List.filter_cons_of_pos hp]
    | false =>
      rw [List.filter_cons_of_neg (by simp), ih, List.filter_cons_of_neg (by simp [hp])]

/-- Pruning has a result iff there is a verdict on every file; it keeps the files that are
    admitted. -/
theorem pruneFiles_eq_ok_iff :
    (pruneFiles files predicates).result = .ok kept ↔
      (∀ file ∈ files, ∃ admitted, (file.admitsAll predicates).result = .ok admitted) ∧
        kept = files.filter (FileReference.isAdmitted predicates) := by
  rw [pruneFiles]
  cases predicates with
  | nil =>
    -- without predicates no file is looked at, and all are kept
    have hadmitted : ∀ file : FileReference, (file.admitsAll []).result = .ok true := fun _ => rfl
    have hall : files.filter (FileReference.isAdmitted []) = files :=
      List.filter_eq_self.2 fun file _ => rfl
    simp [hadmitted, hall, eq_comm]
  | cons p rest =>
    rw [if_neg (by simp), Run.result_bind_eq_ok_iff]
    simp only [apply_ite Run.result, Run.result_log_bind, ite_self, Run.result_pure,
      Except.ok.injEq]
    -- where there is a verdict on every file, the list of verdicts is known
    have hverdicts (h : ∀ file ∈ files, ∃ admitted,
        (file.admitsAll (p :: rest)).result = .ok admitted) :
        (Run.forEach (fun file : FileReference => file.admitsAll (p :: rest)) files).result =
          .ok (files.map (FileReference.isAdmitted (p :: rest))) := by
      refine Run.result_forEach fun file hfile => ?_
      obtain ⟨admitted, hadmitted⟩ := h file hfile
      rw [hadmitted, FileReference.isAdmitted_of_result hadmitted]
    constructor
    · rintro ⟨verdicts, hresult, rfl⟩
      have hall := fun file => @Run.exists_result_of_forEach _ _ _ _ _ hresult file
      rw [hverdicts hall] at hresult
      obtain rfl := Except.ok.inj hresult
      exact ⟨hall, keep_zip_map _ files⟩
    · rintro ⟨hall, rfl⟩
      exact ⟨_, hverdicts hall, keep_zip_map _ files⟩

/-- The first value on the way stops pruning with its failure. -/
theorem pruneFiles_of_error {e : Failure} (h : (file.admits p).result = .error e) :
    (pruneFiles (file :: files) (p :: predicates)).result = .error e := by
  have hall : (file.admitsAll (p :: predicates)).result = .error e := by
    rw [FileReference.admitsAll, Run.result_bind_of_error h]
  rw [pruneFiles, if_neg (by simp), Run.result_bind_of_error]
  rw [Run.forEach, Run.result_bind_of_error hall]

/-- One file is kept or dropped as one predicate says. -/
theorem pruneFiles_singleton {admitted : Bool} (h : (file.admits p).result = .ok admitted) :
    (pruneFiles [file] [p]).result = .ok (if admitted then [file] else []) := by
  have hall : (file.admitsAll [p]).result = .ok admitted := by
    rw [FileReference.admitsAll, Run.result_bind_of_ok h]
    cases admitted <;> rfl
  refine pruneFiles_eq_ok_iff.2 ⟨?_, ?_⟩
  · rintro _ (⟨⟩ | ⟨_, ⟨⟩⟩)
    exact ⟨admitted, hall⟩
  · rw [List.filter_singleton, FileReference.isAdmitted_of_result hall]
    cases admitted <;> rfl

/-- The files that were kept, or some of them, are kept again. -/
theorem pruneFiles_of_sublist {some : List FileReference}
    (h : (pruneFiles files predicates).result = .ok kept) (hsome : some.Sublist kept) :
    (pruneFiles some predicates).result = .ok some := by
  obtain ⟨hall, rfl⟩ := pruneFiles_eq_ok_iff.1 h
  -- verdicts do not depend on which other files there are
  have hkept : ∀ file ∈ some, file ∈ files ∧ file.isAdmitted predicates = true :=
    fun file hfile => List.mem_filter.1 (hsome.subset hfile)
  refine pruneFiles_eq_ok_iff.2 ⟨fun file hfile => hall file (hkept file hfile).1, ?_⟩
  exact (List.filter_eq_self.2 fun file hfile => (hkept file hfile).2).symm

/-- A file without values in the columns of the predicates is admitted. -/
theorem FileReference.admitsAll_of_no_value
    (h : ∀ p ∈ predicates, file.value? p.column = none) :
    (file.admitsAll predicates).result = .ok true := by
  -- each predicate admits the file, so all are looked at
  induction predicates with
  | nil => rfl
  | cons p rest ih =>
    rw [List.forall_mem_cons] at h
    have hadmits : (file.admits p).result = .ok true := by rw [result_admits, h.1]
    rw [admitsAll, Run.result_bind_of_ok hadmits]
    exact ih h.2

/-- A file is admitted by predicates on columns that it is not partitioned by. -/
private theorem FileReference.admitsAll_of_unpartitioned
    (h : ∀ p ∈ predicates, file.partitionValues.lookup? p.column = none) :
    (file.admitsAll predicates).result = .ok true := by
  refine admitsAll_of_no_value fun p hp => ?_
  rw [value?, h p hp]
  rfl

/-- Predicates on columns that no file is partitioned by keep all files. -/
theorem pruneFiles_of_unpartitioned
    (h : ∀ file ∈ files, ∀ p ∈ predicates, file.partitionValues.lookup? p.column = none) :
    (pruneFiles files predicates).result = .ok files := by
  have hadmitted := fun file hfile => FileReference.admitsAll_of_unpartitioned (h file hfile)
  refine pruneFiles_eq_ok_iff.2 ⟨fun file hfile => ⟨true, hadmitted file hfile⟩, ?_⟩
  exact (List.filter_eq_self.2 fun file hfile =>
    FileReference.isAdmitted_of_result (hadmitted file hfile)).symm

end SharedTables
