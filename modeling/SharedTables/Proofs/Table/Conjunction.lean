import Mathlib
import SharedTables.Proofs.Table.Filtering

/-!
# Filters as conjunctions

The strict filter keeps the rows that pass the comparison of each predicate.  It matters which
predicates there are, and neither in which order nor how often.  As preparing a predicate looks at
the columns alone, the predicates can also be taken one part after the other.

## Key results

- `filterStrict_eq_ok_iff_applies`: what the strict filter keeps, said of each predicate by itself
- `filterStrict_of_mem_iff`: the same predicates in any order and number keep the same rows
- `filterStrict_append`: some predicates first and the others afterwards keep the same rows
- `filters_compose`: all of this together
-/

namespace SharedTables

namespace Table

variable {t u : Table} {texts others : List Value} {comparisons : List Comparison}

/-- The text is prepared as a comparison in which there is no fault. -/
def Applies (t : Table) (text : Value) : Prop :=
  ∃ c, t.strictComparison text = .ok c ∧ c.fault? = none

/-- Whether the row passes the comparison that the text is prepared as. -/
def satisfies (t : Table) (text : Value) (row : Row) : Bool :=
  match t.strictComparison text with
  | .ok c => c.holds row
  | .error _ => false

/-! ### Each predicate by itself -/

/-- A row passes the comparisons iff it passes that of each text. -/
private theorem passes_of_prepared (h : texts.map t.strictComparison = comparisons.map .ok)
    (row : Row) :
    passes comparisons row = texts.all fun text => t.satisfies text row := by
  -- the texts and their comparisons are gone through side by side
  induction texts generalizing comparisons with
  | nil =>
    obtain rfl : comparisons = [] := by simpa [eq_comm] using h
    rfl
  | cons text rest ih =>
    cases comparisons with
    | nil => simp at h
    | cons c cs =>
      obtain ⟨hc, hrest⟩ := List.cons.inj h
      have hone : t.satisfies text row = c.holds row := by
        rw [satisfies, hc]
      rw [List.all_cons, hone, ← ih hrest]
      rfl

/-- There is no fault in the comparisons iff each text applies. -/
private theorem fault?_of_prepared (h : texts.map t.strictComparison = comparisons.map .ok) :
    (∀ c ∈ comparisons, c.fault? = none) ↔ ∀ text ∈ texts, t.Applies text := by
  induction texts generalizing comparisons with
  | nil =>
    obtain rfl : comparisons = [] := by simpa [eq_comm] using h
    exact iff_of_true (List.forall_mem_nil _) (List.forall_mem_nil _)
  | cons text rest ih =>
    cases comparisons with
    | nil => simp at h
    | cons c cs =>
      obtain ⟨hc, hrest⟩ := List.cons.inj h
      have hone : t.Applies text ↔ c.fault? = none := by
        rw [Applies, hc]
        simp
      rw [List.forall_mem_cons, List.forall_mem_cons, ih hrest, hone]

/-- Texts that apply are prepared. -/
private theorem exists_prepared (h : ∀ text ∈ texts, t.Applies text) :
    ∃ comparisons, texts.mapM t.strictComparison = .ok comparisons :=
  Run.exists_mapM_eq_ok_iff.2 fun text ht => (h text ht).imp fun _ => And.left

/-- The strict filter has a result iff each text applies, and it keeps the rows that satisfy each
    text. -/
theorem filterStrict_eq_ok_iff_applies :
    t.filterStrict texts = .ok u ↔ (∀ text ∈ texts, t.Applies text) ∧
      u = t.filterRows fun row => texts.all fun text => t.satisfies text row := by
  rw [filterStrict_eq_ok_iff]
  constructor
  · rintro ⟨comparisons, hprepared, hfaults, rfl⟩
    rw [Run.mapM_eq_ok_iff] at hprepared
    refine ⟨(fault?_of_prepared hprepared).1 hfaults, ?_⟩
    rw [funext (passes_of_prepared hprepared)]
  · rintro ⟨happlies, rfl⟩
    obtain ⟨comparisons, hprepared⟩ := exists_prepared happlies
    have hmap := Run.mapM_eq_ok_iff.1 hprepared
    refine ⟨comparisons, hprepared, (fault?_of_prepared hmap).2 happlies, ?_⟩
    rw [funext (passes_of_prepared hmap)]

/-- Whether a text applies, and which rows satisfy it, depends on the columns alone. -/
private theorem applies_congr (h : t.columns = u.columns) : t.Applies = u.Applies := by
  funext text
  rw [Applies, Applies, strictComparison_congr h]

private theorem satisfies_congr (h : t.columns = u.columns) : t.satisfies = u.satisfies := by
  funext text row
  rw [satisfies, satisfies, strictComparison_congr h]

/-- Of some of the rows the strict filter keeps those that it keeps of all. -/
theorem filterStrict_filterRows_eq_ok_iff (keep : Row → Bool) :
    (t.filterRows keep).filterStrict texts = .ok u ↔ (∀ text ∈ texts, t.Applies text) ∧
      u = t.filterRows fun row => (texts.all fun text => t.satisfies text row) && keep row := by
  have hcolumns := t.columns_filterRows keep
  rw [filterStrict_eq_ok_iff_applies, applies_congr hcolumns, satisfies_congr hcolumns,
    filterRows_filterRows]

/-! ### Several predicates -/

/-- The same predicates in any order and number keep the same rows. -/
theorem filterStrict_of_mem_iff (h : t.filterStrict texts = .ok u)
    (hsame : ∀ text, text ∈ others ↔ text ∈ texts) : t.filterStrict others = .ok u := by
  obtain ⟨happlies, rfl⟩ := filterStrict_eq_ok_iff_applies.1 h
  refine filterStrict_eq_ok_iff_applies.2 ⟨fun text ht => happlies text ((hsame text).1 ht), ?_⟩
  have hall : ∀ row, (texts.all fun text => t.satisfies text row) =
      others.all fun text => t.satisfies text row := by
    intro row
    rw [Bool.eq_iff_iff, List.all_eq_true, List.all_eq_true]
    exact forall_congr' fun text => by rw [hsame text]
  rw [funext hall]

/-- Some predicates first and the others afterwards keep the same rows. -/
theorem filterStrict_append (h : t.filterStrict (texts ++ others) = .ok u) :
    ∃ v, t.filterStrict texts = .ok v ∧ v.filterStrict others = .ok u := by
  obtain ⟨happlies, rfl⟩ := filterStrict_eq_ok_iff_applies.1 h
  rw [List.forall_mem_append] at happlies
  refine ⟨_, filterStrict_eq_ok_iff_applies.2 ⟨happlies.1, rfl⟩, ?_⟩
  refine (filterStrict_filterRows_eq_ok_iff _).2 ⟨happlies.2, ?_⟩
  -- a row that is kept twice passes the predicates of both parts
  simp only [List.all_append, Bool.and_comm]

/-- Predicates that have filtered a table leave the result as it is. -/
private theorem filterStrict_again (h : t.filterStrict texts = .ok u) :
    u.filterStrict texts = .ok u := by
  -- twice the same predicates are the same predicates
  have htwice : t.filterStrict (texts ++ texts) = .ok u :=
    filterStrict_of_mem_iff h fun text => by rw [List.mem_append, or_self]
  obtain ⟨v, hfirst, hagain⟩ := filterStrict_append htwice
  obtain rfl : u = v := Except.ok.inj (h.symm.trans hfirst)
  exact hagain

/-- A strict filter keeps the columns, and of the rows, in their order, those that pass the
    comparison of each predicate.  It can be carried out in two parts, the order and number of the
    predicates do not matter, and a second time nothing changes. -/
theorem filters_compose (h : t.filterStrict (texts ++ others) = .ok u) :
    (u.columns = t.columns ∧ u.rows.Sublist t.rows ∧
      ∀ row ∈ t.rows, row ∈ u.rows ↔ ∀ text ∈ texts ++ others,
        ∃ c, t.strictComparison text = .ok c ∧ c.holds row = true) ∧
    (∃ v, t.filterStrict texts = .ok v ∧ v.filterStrict others = .ok u) ∧
    (∀ same : List Value, (∀ text, text ∈ same ↔ text ∈ texts ++ others) →
      t.filterStrict same = .ok u) ∧
    u.filterStrict (texts ++ others) = .ok u := by
  refine ⟨?_, filterStrict_append h, fun same => filterStrict_of_mem_iff h, filterStrict_again h⟩
  obtain ⟨happlies, rfl⟩ := filterStrict_eq_ok_iff_applies.1 h
  -- rows are taken out and none is moved
  refine ⟨rfl, List.filter_sublist, fun row hrow => ?_⟩
  rw [filterRows, List.mem_filter, and_iff_right hrow, List.all_eq_true]
  refine forall₂_congr fun text htext => ?_
  obtain ⟨c, hc, -⟩ := happlies text htext
  rw [satisfies, hc]
  simp

/-- A table with a null cell and a column without values. -/
def sparse : Table :=
  ⟨[⟨"n", .int64⟩, ⟨"s", .string⟩, ⟨"x", .null⟩],
    [[.int 1, .text "a", .null], [.int 2, .null, .null], [.int 3, .text "b", .null]]⟩

/-- Three predicates, in another order and with one of them twice, and an order on the column
    without values, which leaves nothing to be filtered again. -/
theorem filters_compose_on_sparse :
    sparse.filterStrict (["s != 'a'", "x = null", "n > 1", "s != 'a'"].map .text) =
        .ok ⟨sparse.columns, [[.int 3, .text "b", .null]]⟩ ∧
      (⟨sparse.columns, []⟩ : Table).filterStrict (["n > 1", "x < 5"].map .text) =
        .ok ⟨sparse.columns, []⟩ := by
  have hsome : sparse.filterStrict (["n > 1", "s != 'a'"].map .text ++ ["x = null"].map .text) =
      .ok ⟨sparse.columns, [[.int 3, .text "b", .null]]⟩ := rfl
  have hnone : sparse.filterStrict (["n > 1"].map .text ++ ["x < 5"].map .text) =
      .ok ⟨sparse.columns, []⟩ := rfl
  obtain ⟨-, -, hsame, -⟩ := filters_compose hsome
  obtain ⟨-, -, -, hagain⟩ := filters_compose hnone
  refine ⟨hsame _ fun text => ?_, hagain⟩
  simp only [List.map_cons, List.map_nil, List.cons_append, List.nil_append, List.mem_cons,
    List.not_mem_nil, or_false]
  tauto

end Table

end SharedTables
