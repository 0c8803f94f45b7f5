import Mathlib
import SharedTables.Proofs.Run
import SharedTables.Proofs.Table.Columns
import SharedTables.Table.Filter

/-!
# Filters and the columns that they are for

Whether predicates are usable depends on the columns of a table and not on its rows.  Where they
are, the strict and the lenient filter keep the same rows: those that pass the comparisons.

## Key results

- `filterStrict_eq_ok_iff`: when the strict filter keeps rows, and which
- `strictComparison_congr`: preparing a predicate looks at the columns alone
- `exists_keep_of_accepts`: both filters keep the same rows, if the columns accept the predicates
-/

namespace SharedTables

namespace Table

/-- Whether a row passes all comparisons. -/
def passes (comparisons : List Comparison) (row : Row) : Bool :=
  comparisons.all fun c => c.holds row

/-- The strict filter takes the predicates on a table with the given columns. -/
def Accepts (columns : List Column) (texts : List Value) : Prop :=
  ∃ t, (Table.mk columns []).filterStrict texts = .ok t

variable {t u : Table} {texts : List Value} {comparisons : List Comparison}

/-! ### Strict filters -/

/-- There is no fault in comparisons if there is none in any of them. -/
theorem fault?_eq_none_iff : fault? comparisons = none ↔ ∀ c ∈ comparisons, c.fault? = none := by
  rw [← List.filterMap_eq_nil_iff, fault?]
  split
  · rename_i hmismatch
    refine iff_of_false nofun fun hnone => ?_
    rw [hnone] at hmismatch
    cases hmismatch
  · exact List.head?_eq_none_iff

/-- Rows are kept if there is no fault in any comparison, and then those that pass all of them. -/
theorem keepAll_eq_ok_iff :
    t.keepAll comparisons = .ok u ↔
      (∀ c ∈ comparisons, c.fault? = none) ∧ u = t.filterRows (passes comparisons) := by
  rw [← fault?_eq_none_iff, keepAll]
  split
  · rename_i hnone
    rw [Except.ok.injEq, and_iff_right hnone]
    exact eq_comm
  · rename_i e hfault
    rw [hfault]
    exact iff_of_false nofun nofun

/-- The fault of a single comparison is the fault in it. -/
private theorem fault?_singleton (c : Comparison) : fault? [c] = c.fault? := by
  unfold fault?
  cases hfault : c.fault? with
  | none => simp [hfault]
  | some e => cases e <;> simp [hfault]

/-- A single comparison keeps the rows that pass it, if there is no fault in it. -/
theorem keepAll_singleton (t : Table) (c : Comparison) : t.keepAll [c] =
    match c.fault? with
    | none => .ok (t.filterRows c.holds)
    | some e => .error (.table e) := by
  have hholds : (fun row => [c].all fun d => d.holds row) = c.holds := by
    funext row
    rw [List.all_cons, List.all_nil, Bool.and_true]
  cases hfault : c.fault? with
  | none => simp only [keepAll, fault?_singleton, hfault, hholds]
  | some e => simp only [keepAll, fault?_singleton, hfault]

/-- The strict filter keeps the rows that pass all comparisons, if these can be prepared and there
    is no fault in them. -/
theorem filterStrict_eq_ok_iff :
    t.filterStrict texts = .ok u ↔
      ∃ comparisons, texts.mapM t.strictComparison = .ok comparisons ∧
        (∀ c ∈ comparisons, c.fault? = none) ∧ u = t.filterRows (passes comparisons) := by
  rw [filterStrict]
  cases hprepared : texts.mapM t.strictComparison with
  | error e => exact iff_of_false nofun nofun
  | ok cs =>
    refine Iff.trans keepAll_eq_ok_iff ?_
    simp

/-- A comparison whose literal can be used is prepared, and no other. -/
theorem checked_eq_ok_iff {c c' : Comparison} :
    c.checked = .ok c' ↔ c.failure? = none ∧ c' = c := by
  -- the check changes nothing, it only fails
  unfold Comparison.checked
  split
  · rename_i hnone
    rw [Except.ok.injEq, and_iff_right hnone]
    exact eq_comm
  · rename_i e hfailure
    rw [hfailure]
    exact iff_of_false nofun nofun

/-- Comparisons whose literals can all be used are prepared. -/
theorem mapM_checked_eq_ok_iff {comparisons' : List Comparison} :
    comparisons.mapM Comparison.checked = .ok comparisons' ↔
      (∀ c ∈ comparisons, c.failure? = none) ∧ comparisons' = comparisons := by
  rw [Run.mapM_eq_ok_iff]
  -- a list is checked by checking each of its members
  induction comparisons generalizing comparisons' with
  | nil => simp [eq_comm]
  | cons c rest ih =>
    cases comparisons' with
    | nil => simp
    | cons c' rest' =>
      rw [List.map_cons, List.map_cons, List.cons.injEq, List.cons.injEq, checked_eq_ok_iff, ih,
        List.forall_mem_cons]
      tauto

private theorem comparison_congr (h : t.columns = u.columns) (p : Predicate) :
    t.comparison p = u.comparison p := by
  unfold comparison indexOf? typeOf? column?
  rw [h]

/-- Preparing a predicate looks at the columns alone. -/
theorem strictComparison_congr (h : t.columns = u.columns) :
    t.strictComparison = u.strictComparison := by
  funext text
  unfold strictComparison
  split
  · rfl
  · rfl
  · rw [comparison_congr h]

/-- A predicate is prepared for a table if it is one, its column can be compared with its literal,
    and the literal can be used. -/
theorem strictComparison_eq_ok_iff {text : Value} {c : Comparison} :
    t.strictComparison text = .ok c ↔
      ∃ p, Predicate.ofValue text = .ok p ∧ t.comparison p = .ok c ∧ c.failure? = none := by
  -- the two ways of not being a predicate, and then the column and the literal
  rw [strictComparison]
  split
  · rename_i e hread
    refine iff_of_false nofun ?_
    rintro ⟨p, hp, -⟩
    rw [hread] at hp
    cases hp
  · rename_i e _ hread
    refine iff_of_false nofun ?_
    rintro ⟨p, hp, -⟩
    rw [hread] at hp
    cases hp
  · rename_i p hread
    rw [hread]
    split
    · rename_i e hprepared
      refine iff_of_false nofun ?_
      rintro ⟨p', hp', hc, -⟩
      obtain rfl := Except.ok.inj hp'
      rw [hprepared] at hc
      cases hc
    · rename_i c' hprepared
      rw [checked_eq_ok_iff]
      constructor
      · rintro ⟨hnone, rfl⟩
        exact ⟨p, rfl, hprepared, hnone⟩
      · rintro ⟨p', hp', hc, hnone⟩
        obtain rfl := Except.ok.inj hp'
        rw [hprepared] at hc
        obtain rfl := Except.ok.inj hc
        exact ⟨hnone, rfl⟩

/-! ### Lenient filters -/

theorem hasColumn_of_comparison {p : Predicate} {c : Comparison} (h : t.comparison p = .ok c) :
    t.hasColumn p.column = true := by
  rw [comparison] at h
  split at h
  · exact hasColumn_of_typeOf? ‹_›
  · cases h

/-- The lenient filter prepares what the strict one does. -/
private theorem lenientComparison_of_comparison {p : Predicate} {c : Comparison}
    (h : t.comparison p = .ok c) (hnone : c.failure? = none) :
    (t.lenientComparison p).result = .ok (some c) := by
  rw [lenientComparison, if_pos (hasColumn_of_comparison h), h]
  dsimp only
  rw [checked_eq_ok_iff.2 ⟨hnone, rfl⟩]
  rfl

/-- Predicates that can be prepared for a table are read, and the lenient filter prepares the same
    comparisons. -/
private theorem exists_predicates (h : texts.mapM t.strictComparison = .ok comparisons) :
    ∃ predicates, texts.map Predicate.ofValue = predicates.map .ok ∧
      (Predicate.parseAll texts).result = .ok predicates ∧
      ∀ u : Table, u.columns = t.columns →
        (Run.forEach u.lenientItem (predicates.map fun p => some (.predicate p))).result =
          .ok (comparisons.map some) := by
  -- both filters prepare the predicates one by one, in the same order
  induction texts generalizing comparisons with
  | nil =>
    obtain rfl : [] = comparisons := Except.ok.inj h
    exact ⟨[], rfl, rfl, fun _ _ => rfl⟩
  | cons text rest ih =>
    rw [List.mapM_cons] at h
    cases hfirst : t.strictComparison text with
    | error e =>
      rw [hfirst] at h
      cases h
    | ok c =>
      cases hrest : rest.mapM t.strictComparison with
      | error e =>
        rw [hfirst, hrest] at h
        cases h
      | ok cs =>
        rw [hfirst, hrest] at h
        obtain rfl : c :: cs = comparisons := Except.ok.inj h
        obtain ⟨p, hread, hcomparison, hnone⟩ := strictComparison_eq_ok_iff.1 hfirst
        obtain ⟨ps, hreads, hparse, hlenient⟩ := ih hrest
        refine ⟨p :: ps, ?_, ?_, fun u hu => ?_⟩
        · rw [List.map_cons, List.map_cons, hread, hreads]
        · rw [Predicate.parseAll, hread]
          exact Run.result_bind_of_ok hparse _
        · -- the columns of `u` are those of `t`, and nothing else of a table is looked at
          have hone : (u.lenientItem (some (.predicate p))).result = .ok (some c) :=
            lenientComparison_of_comparison ((comparison_congr hu p).trans hcomparison) hnone
          rw [List.map_cons, Run.forEach, Run.result_bind_of_ok hone,
            Run.result_bind_of_ok (hlenient u hu)]
          rfl

/-- Predicates that the columns accept can be read, and both filters keep the rows of any table with
    these columns that pass the same test. -/
theorem exists_keep_of_accepts {columns : List Column} (h : Accepts columns texts) :
    ∃ predicates keep, texts.map Predicate.ofValue = predicates.map .ok ∧
      (Predicate.parseAll texts).result = .ok predicates ∧
      ∀ t : Table, t.columns = columns →
        t.filterStrict texts = .ok (t.filterRows keep) ∧
          (t.filterBy predicates).result = .ok (t.filterRows keep) := by
  obtain ⟨_, h⟩ := h
  obtain ⟨comparisons, hprepared, hdefined, -⟩ := filterStrict_eq_ok_iff.1 h
  obtain ⟨predicates, hreads, hparse, hlenient⟩ := exists_predicates hprepared
  refine ⟨predicates, passes comparisons, hreads, hparse, fun t ht => ⟨?_, ?_⟩⟩
  · rw [filterStrict_eq_ok_iff]
    have hcongr : t.strictComparison = (Table.mk columns []).strictComparison :=
      strictComparison_congr ht
    exact ⟨comparisons, hcongr ▸ hprepared, hdefined, rfl⟩
  · rw [filterBy, filterLenient, Run.result_bind_of_ok (hlenient t ht)]
    have hcomparisons : (comparisons.map some).filterMap id = comparisons := by
      rw [List.filterMap_map]
      exact List.filterMap_some
    rw [hcomparisons]
    exact keepAll_eq_ok_iff.2 ⟨hdefined, rfl⟩

/-- A lenient filter keeps the columns, and some of the rows. -/
theorem filterRows_of_filterBy {predicates : List Predicate}
    (h : (t.filterBy predicates).result = .ok u) : ∃ keep, u = t.filterRows keep := by
  obtain ⟨comparisons, -, hkeep⟩ := Run.result_bind_eq_ok_iff.1 h
  exact ⟨_, (keepAll_eq_ok_iff.1 hkeep).2⟩

end Table

end SharedTables
