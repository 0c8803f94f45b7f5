import Mathlib
import SharedTables.Table.Filter

/-!
# Keeping columns

`Table.select` keeps the columns of the given names, with all rows.  Only where no column is left
there are no rows either.

## Key results

- `mem_distinct`, `nodup_distinct`, `distinct_of_nodup`: the first occurrences of names
- `columns_select`, `names_select`, `column?_select`: the columns that are kept
- `height_select`: the rows that are kept
- `height_selectColumns`: a request for columns keeps all rows, whatever it asks for
-/

namespace SharedTables

namespace Table

@[simp] theorem filterRows_true (t : Table) : (t.filterRows fun _ => true) = t :=
  congrArg (Table.mk t.columns) (List.filter_true _)

/-- Filters that keep the same rows agree on every row. -/
theorem eq_of_filterRows_eq {t : Table} {keep keep' : Row → Bool}
    (h : t.filterRows keep = t.filterRows keep') {row : Row} (hrow : row ∈ t.rows) :
    keep row = true ↔ keep' row = true := by
  have hrows : t.rows.filter keep = t.rows.filter keep' := congrArg Table.rows h
  have hmem : row ∈ t.rows.filter keep ↔ row ∈ t.rows.filter keep' := by rw [hrows]
  simpa only [List.mem_filter, hrow, true_and] using hmem

/-! ### First occurrences -/

/-- A name that comes last counts if it has not been there before. -/
private theorem distinct_append_singleton (names : List String) (name : String) :
    distinct (names ++ [name]) =
      if (distinct names).contains name then distinct names else distinct names ++ [name] := by
  rw [distinct, List.foldl_append]
  rfl

/-- The first occurrences are those of the same names. -/
theorem mem_distinct {names : List String} {name : String} :
    name ∈ distinct names ↔ name ∈ names := by
  -- names are added at the end, so the induction takes off the last one
  induction names using List.reverseRecOn with
  | nil => rfl
  | append_singleton names n ih =>
    rw [distinct_append_singleton]
    split
    · rename_i hseen
      rw [List.contains_iff_mem] at hseen
      rw [List.mem_append, List.mem_singleton, ← ih, iff_self_or]
      rintro rfl
      exact hseen
    · rw [List.mem_append, List.mem_append, ih]

/-- No name occurs twice among the first occurrences. -/
theorem nodup_distinct (names : List String) : (distinct names).Nodup := by
  induction names using List.reverseRecOn with
  | nil => exact .nil
  | append_singleton names n ih =>
    rw [distinct_append_singleton]
    split
    · exact ih
    · rename_i hnew
      rw [List.contains_iff_mem] at hnew
      exact List.nodup_append.2 ⟨ih, List.nodup_singleton n, by
        rintro m hm n' hn' rfl
        exact hnew (List.mem_singleton.1 hn' ▸ hm)⟩

/-- A list without a name twice is the list of its first occurrences. -/
theorem distinct_of_nodup {names : List String} (h : names.Nodup) : distinct names = names := by
  induction names using List.reverseRecOn with
  | nil => rfl
  | append_singleton names n ih =>
    rw [List.nodup_append] at h
    have hnew : (names.contains n) ≠ true := by
      rw [ne_eq, List.contains_iff_mem]
      exact fun hn => h.2.2 n hn n (List.mem_singleton_self n) rfl
    rw [distinct_append_singleton, ih h.1, if_neg hnew]

/-! ### Columns and their places -/

/-- A column is what stands at its place. -/
theorem column?_eq_bind (t : Table) (name : String) :
    t.column? name = (t.indexOf? name).bind fun i => t.columns[i]? :=
  List.find?_eq_bind_findIdx?_getElem?

/-- A column is missing exactly if it has no place. -/
theorem column?_eq_none_iff {t : Table} {name : String} :
    t.column? name = none ↔ t.indexOf? name = none := by
  rw [column?, indexOf?, List.find?_eq_none, List.findIdx?_eq_none_iff]
  simp

/-- The column that is found under a name has it. -/
theorem name_of_column? {t : Table} {name : String} {c : Column} (h : t.column? name = some c) :
    c.name = name := by
  have hname := List.find?_some h
  simpa using hname

/-- A column without a type is none of the table. -/
theorem typeOf?_eq_none_iff {t : Table} {name : String} :
    t.typeOf? name = none ↔ name ∉ t.names := by
  rw [typeOf?, Option.map_eq_none_iff, mem_names_iff, hasColumn, Option.not_isSome_iff_eq_none]

/-- A column that has a type is there. -/
theorem hasColumn_of_typeOf? {t : Table} {name : String} {type : DataType}
    (h : t.typeOf? name = some type) : t.hasColumn name = true := by
  rw [typeOf?, Option.map_eq_some_iff] at h
  obtain ⟨c, hc, -⟩ := h
  rw [hasColumn, hc]
  rfl

/-- A column that is there has a place. -/
theorem exists_indexOf?_of_hasColumn {t : Table} {name : String} (h : t.hasColumn name = true) :
    ∃ place, t.indexOf? name = some place := by
  cases hplace : t.indexOf? name with
  | none =>
    rw [hasColumn, column?_eq_none_iff.2 hplace] at h
    cases h
  | some place => exact ⟨place, rfl⟩

/-- A column that has a type has a place. -/
theorem exists_indexOf?_of_typeOf? {t : Table} {name : String} {type : DataType}
    (h : t.typeOf? name = some type) : ∃ place, t.indexOf? name = some place :=
  exists_indexOf?_of_hasColumn (hasColumn_of_typeOf? h)

/-- A column that has a place has a type. -/
theorem exists_typeOf?_of_indexOf? {t : Table} {name : String} {place : Nat}
    (h : t.indexOf? name = some place) : ∃ type, t.typeOf? name = some type := by
  cases htype : t.typeOf? name with
  | none =>
    rw [typeOf?, Option.map_eq_none_iff, column?_eq_none_iff, h] at htype
    cases htype
  | some type => exact ⟨type, rfl⟩

/-! ### Selecting -/

/-- The columns that are kept stand in the order in which they are asked for. -/
theorem columns_select (t : Table) (names : List String) :
    (t.select names).columns = names.filterMap t.column? := by
  rw [select, project, List.filterMap_filterMap]
  apply List.filterMap_congr
  intro name _
  exact (t.column?_eq_bind name).symm

/-- The columns that are kept are those that the table has. -/
theorem names_select (t : Table) (names : List String) :
    (t.select names).names = names.filter t.hasColumn := by
  rw [Table.names, columns_select]
  induction names with
  | nil => rfl
  | cons name rest ih =>
    -- a name is kept exactly if the table has a column for it
    cases hcolumn : t.column? name with
    | none =>
      rw [List.filterMap_cons_none hcolumn, ih, List.filter_cons_of_neg]
      simp [hasColumn, hcolumn]
    | some c =>
      rw [List.filterMap_cons_some hcolumn, List.map_cons, ih, name_of_column? hcolumn,
        List.filter_cons_of_pos]
      simp [hasColumn, hcolumn]

/-- A column that is kept is what it was. -/
theorem column?_select (t : Table) (names : List String) (name : String) :
    (t.select names).column? name = if name ∈ names then t.column? name else none := by
  rw [column?, columns_select]
  induction names with
  | nil => rfl
  | cons n rest ih =>
    by_cases hn : name = n
    · subst hn
      -- the first name that is asked for is this one
      rw [if_pos (List.mem_cons_self ..)]
      cases hcolumn : t.column? name with
      | none =>
        rw [List.filterMap_cons_none hcolumn, ih, hcolumn, ite_self]
      | some c =>
        rw [List.filterMap_cons_some hcolumn, List.find?_cons_of_pos]
        simp [name_of_column? hcolumn]
    · -- the first column has another name
      simp only [List.mem_cons, hn, false_or]
      rw [← ih]
      cases hcolumn : t.column? n with
      | none => rw [List.filterMap_cons_none hcolumn]
      | some c =>
        rw [List.filterMap_cons_some hcolumn, List.find?_cons_of_neg]
        simp [name_of_column? hcolumn, Ne.symm hn]

/-- Where no column is kept there are no rows. -/
theorem rows_select_eq_nil {t : Table} {names : List String}
    (h : (t.select names).columns = []) : (t.select names).rows = [] := by
  have hplaces : names.filterMap t.indexOf? = [] := by
    rw [columns_select, List.filterMap_eq_nil_iff] at h
    rw [List.filterMap_eq_nil_iff]
    intro name hname
    exact column?_eq_none_iff.1 (h name hname)
  rw [select, hplaces]
  rfl

/-- All rows are kept if some column is. -/
theorem height_select {t : Table} {names : List String} (h : (t.select names).columns ≠ []) :
    (t.select names).height = t.height := by
  have hplaces : (names.filterMap t.indexOf?).isEmpty = false := by
    -- if no place were left, no column would be
    rw [Bool.eq_false_iff]
    intro hempty
    apply h
    rw [List.isEmpty_iff] at hempty
    rw [select, hempty]
    rfl
  simp [select, project, height, hplaces]

/-- A request for columns keeps all rows, whatever it asks for. -/
theorem height_selectColumns (t : Table) (columns : Option (List String)) :
    ∃ u, (t.selectColumns columns).result = .ok u ∧ u.height = t.height := by
  cases columns with
  | none => exact ⟨t, rfl, rfl⟩
  | some requested =>
    rw [selectColumns]
    split
    · exact ⟨t, rfl, rfl⟩
    · rename_i hkeep
      refine ⟨_, rfl, height_select ?_⟩
      -- some of the columns are there, so not all of them are dropped
      intro hnone
      have hnames := t.names_select ((distinct requested).filter t.hasColumn)
      rw [Table.names, hnone, List.filter_filter] at hnames
      simp only [Bool.and_self] at hnames
      exact hkeep (List.isEmpty_iff.2 hnames.symm)

end Table

end SharedTables
