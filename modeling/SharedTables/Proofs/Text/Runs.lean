import Mathlib

/-!
# Runs of characters

Generic lemmas about the run at the front of a list, about what is cut off its two ends and about
its last element.

## Key results

- `span_append`: a run ends where the first other character stands
- `trim_append`: the run at the end is cut off
- `getLast?_cons_of_eq_some`: an element in front is not the last one
-/

namespace SharedTables

variable {α : Type} {p : α → Bool}

/-- A run ends where the first other element stands. -/
theorem span_append {run rest : List α} (hrun : ∀ c ∈ run, p c = true)
    (hrest : ∀ c ∈ rest.head?, p c = false) :
    (run ++ rest).takeWhile p = run ∧ (run ++ rest).dropWhile p = rest := by
  have hstop : rest.takeWhile p = [] ∧ rest.dropWhile p = rest := by
    cases rest with
    | nil => exact ⟨rfl, rfl⟩
    | cons c rest =>
      have hc := hrest c rfl
      simp [hc]
  rw [List.takeWhile_append_of_pos hrun, List.dropWhile_append_of_pos hrun, hstop.1, hstop.2,
    List.append_nil]
  exact ⟨rfl, rfl⟩

/-- The run at the end of a list that has no other element of it is cut off. -/
theorem trim_append {cs ending : List α} (hcs : ∀ c ∈ cs, p c = false)
    (hending : ∀ c ∈ ending, p c = true) :
    (((cs ++ ending).dropWhile p).reverse.dropWhile p).reverse = cs := by
  have hback : (ending.reverse ++ cs.reverse).dropWhile p = cs.reverse :=
    (span_append (fun c hc => hending c (List.mem_reverse.1 hc))
      fun c hc => hcs c (List.mem_reverse.1 (List.mem_of_mem_head? hc))).2
  cases cs with
  | nil =>
    rw [List.nil_append, List.dropWhile_eq_nil_iff.2 hending]
    rfl
  | cons c cs =>
    have hc : p c = false := hcs c (by simp)
    rw [List.cons_append, List.dropWhile_cons_of_neg (by rw [hc]; exact Bool.false_ne_true),
      ← List.cons_append, List.reverse_append, hback, List.reverse_reverse]

/-- An element in front of others is not the last one. -/
theorem getLast?_cons_of_eq_some {c d : α} {cs : List α} (h : cs.getLast? = some d) :
    (c :: cs).getLast? = some d := by
  rw [List.getLast?_cons, h]
  rfl

end SharedTables
