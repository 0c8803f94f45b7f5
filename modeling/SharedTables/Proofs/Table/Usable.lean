import Mathlib
import SharedTables.Proofs.Table.FilterFailures

/-!
# The lenient filter is the strict filter on usable texts

Whether a text is usable is decided by the strict filter on that text alone (`taken`).  Where every
text by itself keeps rows or is refused, the lenient filter keeps the rows that the strict one keeps
by the texts that it takes.  The strict filter refuses a list of texts for its first text that it
does not take, and for the same reason.

## Key results

- `takes_iff`, `refuses_iff`: what the strict filter says about a single text
- `exists_comparisons_of_taken`: both filters prepare the same comparisons
- `filterStrict_eq_error_iff`: which refusal counts
- `filterLenient_eq_filterStrict_taken`: how the two filters agree
-/

namespace SharedTables

namespace Table

variable {t : Table} {s : String} {texts : List String} {c : Comparison} {e : FilterError}

/-- By itself the text keeps rows or is refused. -/
inductive KeepsOrRefuses (t : Table) (s : String) : Prop
  | keeps {u : Table} (keeps : t.filterStrict [.text s] = .ok u)
  | refuses {e : FilterError} (refuses : t.filterStrict [.text s] = .error (.filter e))

/-- The texts that the strict filter takes by themselves. -/
def taken (t : Table) (texts : List String) : List String :=
  texts.filter fun s => (t.filterStrict [.text s]).isOk

/-! ### A single text -/

/-- The strict filter with one text. -/
theorem filterStrict_singleton (t : Table) (s : String) : t.filterStrict [.text s] =
    match t.strictComparison (.text s) with
    | .error e => .error e
    | .ok c => t.keepAll [c] := by
  rw [filterStrict, List.mapM_cons]
  cases t.strictComparison (.text s) <;> rfl

/-- A text is taken if it is prepared and there is no fault in the comparison. -/
theorem takes_iff : (t.filterStrict [.text s]).isOk = true ↔
    ∃ c, t.strictComparison (.text s) = .ok c ∧ c.fault? = none := by
  rw [filterStrict_singleton]
  cases t.strictComparison (.text s) with
  | error e => simp [Except.isOk, Except.toBool]
  | ok c =>
    dsimp only
    rw [keepAll_singleton]
    cases hfault : c.fault? <;> simp [Except.isOk, Except.toBool, hfault]

/-- A text is refused if it is not prepared, and for the same reason. -/
theorem refuses_iff : t.filterStrict [.text s] = .error (.filter e) ↔
    t.strictComparison (.text s) = .error (.filter e) := by
  rw [filterStrict_singleton]
  cases t.strictComparison (.text s) with
  | error e' => simp only [Except.error.injEq]
  | ok c =>
    -- a fault in the comparison is no reason to refuse the text
    refine iff_of_false ?_ nofun
    dsimp only
    rw [keepAll_singleton]
    split <;> exact nofun

/-- The lenient filter prepares the comparison that the strict one prepares. -/
private theorem usable?_text_of_ok (h : t.strictComparison (.text s) = .ok c) :
    t.usable? (some (.text s)) = some c ∧ c.failure? = none := by
  obtain ⟨p, hparse, hc, hvalue⟩ := strictComparison_text_eq_ok_iff.1 h
  refine ⟨?_, (failure?_eq_none_iff hc).2 hvalue⟩
  rw [usable?_text, hparse]
  show (t.comparison p).toOption = some c
  rw [hc]
  rfl

/-- The lenient filter passes over a text that the strict one refuses. -/
private theorem usable?_text_of_refused (h : t.strictComparison (.text s) = .error (.filter e)) :
    t.usable? (some (.text s)) = none := by
  rw [strictComparison_text] at h
  rw [usable?_text]
  cases hparse : Predicate.parse s with
  | error e' => rfl
  | ok p =>
    rw [hparse] at h
    dsimp only at h
    show (t.comparison p).toOption = none
    -- a refusal is a failure of parsing or of the conversion, never of a literal's value
    cases hc : t.comparison p with
    | error e' => rfl
    | ok c =>
      -- a literal without a value is no reason to refuse the text
      simp only [hc, Comparison.checked] at h
      split at h
      · cases h
      · rename_i e' hfailure
        exact absurd (Except.error.inj h) (ne_filter_of_failure? hfailure e)

/-! ### Lists of texts -/

/-- The lenient filter prepares for the texts what the strict one prepares for those it takes. -/
theorem exists_comparisons_of_taken (h : ∀ s ∈ texts, t.KeepsOrRefuses s) :
    ∃ comparisons, ((t.taken texts).map Value.text).mapM t.strictComparison = .ok comparisons ∧
      (texts.map fun s => some (FilterItem.text s)).filterMap t.usable? = comparisons ∧
      (∀ c ∈ comparisons, c.failure? = none) ∧ ∀ c ∈ comparisons, c.fault? = none := by
  -- each text adds a comparison to both filters, or to neither
  induction texts with
  | nil => exact ⟨[], rfl, rfl, List.forall_mem_nil _, List.forall_mem_nil _⟩
  | cons s rest ih =>
    rw [List.forall_mem_cons] at h
    obtain ⟨cs, hcs, husable, hfailures, hfaults⟩ := ih h.2
    rw [taken] at hcs
    cases h.1 with
    | keeps hkeeps =>
      have htakes : (t.filterStrict [.text s]).isOk = true := by rw [hkeeps]; rfl
      obtain ⟨c, hc, hone⟩ := takes_iff.1 htakes
      obtain ⟨hitem, hvalue⟩ := usable?_text_of_ok hc
      refine ⟨c :: cs, ?_, ?_, ?_, ?_⟩
      · rw [taken, List.filter_cons, if_pos htakes, List.map_cons, List.mapM_cons, hc, hcs]
        rfl
      · rw [List.map_cons, List.filterMap_cons_some hitem, husable]
      · exact List.forall_mem_cons.2 ⟨hvalue, hfailures⟩
      · exact List.forall_mem_cons.2 ⟨hone, hfaults⟩
    | refuses hrefuses =>
      have htakes : ¬ (t.filterStrict [.text s]).isOk = true := by rw [hrefuses]; exact nofun
      have hitem := usable?_text_of_refused (refuses_iff.1 hrefuses)
      refine ⟨cs, ?_, ?_, hfailures, hfaults⟩
      · rw [taken, List.filter_cons, if_neg htakes, hcs]
      · rw [List.map_cons, List.filterMap_cons_none hitem, husable]

/-- A text that is prepared is taken, unless it stops the filter in another way. -/
private theorem takes_of_ok (h : t.KeepsOrRefuses s) (hc : t.strictComparison (.text s) = .ok c) :
    (t.filterStrict [.text s]).isOk = true := by
  cases h with
  | keeps hkeeps => rw [hkeeps]; rfl
  | refuses hrefuses =>
    rw [refuses_iff.1 hrefuses] at hc
    cases hc

private theorem taken_eq_self_iff :
    t.taken texts = texts ↔ ∀ s ∈ texts, (t.filterStrict [.text s]).isOk = true :=
  List.filter_eq_self

/-- A list of texts is taken only if each of them is. -/
private theorem taken_eq_self_of_prepared {comparisons : List Comparison}
    (h : ∀ s ∈ texts, t.KeepsOrRefuses s)
    (hprepared : (texts.map Value.text).mapM t.strictComparison = .ok comparisons) :
    t.taken texts = texts := by
  rw [taken_eq_self_iff]
  intro s hs
  obtain ⟨c, hc⟩ := prepares_iff.1 (exists_mapM_iff_prepares.1 ⟨_, hprepared⟩ s hs)
  exact takes_of_ok (h s hs) hc

/-- A list of texts stops the strict filter for the reason for which its first text that is not
    taken does. -/
theorem filterStrict_eq_error_iff {f : Failure} (h : ∀ s ∈ texts, t.KeepsOrRefuses s) :
    t.filterStrict (texts.map .text) = .error f ↔
      ∃ before s after, texts = before ++ s :: after ∧ t.taken before = before ∧
        t.filterStrict [.text s] = .error f := by
  constructor
  · intro hstrict
    obtain ⟨comparisons, htaken, -, -, hfaults⟩ := exists_comparisons_of_taken h
    cases hprepared : (texts.map Value.text).mapM t.strictComparison with
    | ok cs =>
      -- all texts are prepared, so nothing stops the filter
      have hall := taken_eq_self_of_prepared h hprepared
      rw [hall] at htaken
      have hkeeps := filterStrict_eq_ok_iff.2 ⟨comparisons, htaken, hfaults, rfl⟩
      rw [hstrict] at hkeeps
      cases hkeeps
    | error f' =>
      rw [filterStrict, hprepared] at hstrict
      obtain rfl : f' = f := Except.error.inj hstrict
      rw [List.mapM_map, Run.mapM_eq_error_iff] at hprepared
      obtain ⟨before, s, after, rfl, hbefore, hs⟩ := hprepared
      -- what comes before the first text that fails has been prepared, and so is taken
      refine ⟨before, s, after, rfl, ?_, ?_⟩
      · rw [taken_eq_self_iff]
        intro r hr
        obtain ⟨c, hc⟩ := hbefore r hr
        exact takes_of_ok (h r (List.mem_append_left _ hr)) hc
      · rw [Function.comp_apply] at hs
        rw [filterStrict_singleton, hs]
  · rintro ⟨before, s, after, rfl, hbefore, hs⟩
    have hrefused : t.strictComparison (.text s) = .error f := by
      cases h s (by simp) with
      | keeps hkeeps =>
        rw [hkeeps] at hs
        cases hs
      | refuses hrefuses =>
        obtain rfl := Except.error.inj (hrefuses.symm.trans hs)
        exact refuses_iff.1 hrefuses
    have hprepared : ((before ++ s :: after).map Value.text).mapM t.strictComparison =
        .error f := by
      rw [List.mapM_map, Run.mapM_eq_error_iff]
      refine ⟨before, s, after, rfl, fun r hr => ?_, hrefused⟩
      obtain ⟨c, hc, -⟩ := takes_iff.1 (taken_eq_self_iff.1 hbefore r hr)
      exact ⟨c, hc⟩
    rw [filterStrict, hprepared]
    rfl

/-- Where every text by itself keeps rows or is refused, the lenient filter keeps the rows that the
    strict one keeps by the texts that it takes.  Exactly if there are others, the strict filter
    stops, with the refusal of the first of these; otherwise it keeps the same rows. -/
theorem filterLenient_eq_filterStrict_taken (h : ∀ s ∈ texts, t.KeepsOrRefuses s) :
    (∃ u, (t.filterLenient (texts.map fun s => some (.text s))).result = .ok u ∧
      t.filterStrict ((t.taken texts).map .text) = .ok u ∧
      (t.taken texts = texts → t.filterStrict (texts.map .text) = .ok u)) ∧
    ((∃ f, t.filterStrict (texts.map .text) = .error f) ↔ t.taken texts ≠ texts) ∧
    ∀ f, t.filterStrict (texts.map .text) = .error f ↔
      ∃ before s after, texts = before ++ s :: after ∧ t.taken before = before ∧
        t.filterStrict [.text s] = .error f := by
  obtain ⟨comparisons, hprepared, husable, hfailures, hfaults⟩ := exists_comparisons_of_taken h
  -- both filters keep the rows that pass the same comparisons
  have htaken : t.filterStrict ((t.taken texts).map .text) =
      .ok (t.filterRows (passes comparisons)) :=
    filterStrict_eq_ok_iff.2 ⟨comparisons, hprepared, hfaults, rfl⟩
  refine ⟨⟨_, ?_, htaken, fun hall => hall ▸ htaken⟩, ?_, fun f => filterStrict_eq_error_iff h⟩
  · rw [result_filterLenient_eq_ok_iff, husable]
    exact ⟨⟨hfailures, hfaults⟩, rfl⟩
  · constructor
    · rintro ⟨f, hf⟩ hall
      rw [hall, hf] at htaken
      cases htaken
    · intro hne
      cases hstrict : t.filterStrict (texts.map .text) with
      | error f => exact ⟨f, rfl⟩
      | ok u =>
        obtain ⟨cs, hcs, -⟩ := filterStrict_eq_ok_iff.1 hstrict
        exact absurd (taken_eq_self_of_prepared h hcs) hne

/-- A table of days. -/
def days : Table :=
  ⟨[⟨"day", .date⟩, ⟨"n", .int64⟩], [[.date 19723, .int 1], [.date 19724, .int 2], [.null, .int 3]]⟩

/-- Of five texts two are taken, and the first of the others is the one that is reported. -/
theorem filters_agree_on_days :
    (days.filterLenient (["n >= 2", "day = 'soon'", "size > 1", "n ~ 1",
        "day > '2024-01-01'"].map fun s => some (.text s))).result =
        .ok ⟨days.columns, [[.date 19724, .int 2]]⟩ ∧
      days.filterStrict (["n >= 2", "day = 'soon'", "size > 1", "n ~ 1",
        "day > '2024-01-01'"].map .text) = .error (.filter (.invalidDate "day" "soon")) := by
  obtain ⟨⟨u, hlenient, hstrict, -⟩, -, hfailure⟩ := @filterLenient_eq_filterStrict_taken days
    ["n >= 2", "day = 'soon'", "size > 1", "n ~ 1", "day > '2024-01-01'"] (by
      simp only [List.forall_mem_cons]
      exact ⟨.keeps rfl, .refuses rfl, .refuses rfl, .refuses rfl, .keeps rfl, nofun⟩)
  refine ⟨hlenient.trans (hstrict.symm.trans rfl), (hfailure _).2 ?_⟩
  exact ⟨["n >= 2"], "day = 'soon'", ["size > 1", "n ~ 1", "day > '2024-01-01'"], rfl, rfl, rfl⟩

end Table

end SharedTables
