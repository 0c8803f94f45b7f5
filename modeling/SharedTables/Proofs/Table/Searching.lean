import Mathlib
import SharedTables.Proofs.Run
import SharedTables.Proofs.Table.Conjunction
import SharedTables.Query.Result
import SharedTables.Table.Search

/-!
# Searches as unions of columns

A search by several columns keeps the rows that a search by one of them keeps.  So it matters which
columns of the table are asked for, and neither in which order nor how often; columns whose cells
have no texts add nothing.  As it looks at each row by itself, a search can be carried out before
or after a filter or another search.

## Key results

- `result_search`: what a search comes to
- `search_eq_ok_iff`: when a search keeps rows, and which
- `search_unites_columns`: the union, and the order of operations
-/

namespace SharedTables

namespace Table

variable {t u : Table} {text : String} {names others : List String} {name : String} {row : Row}

/-- Those of the columns that the table has can be searched or passed over. -/
def Renders (t : Table) (names : List String) : Prop :=
  ∀ name ∈ names, ∀ type, t.typeOf? name = some type → type.textForm ≠ .undefined

/-- Columns can be rendered if none of them is of a type whose text is not defined. -/
private theorem renders_iff : t.Renders names ↔ (names.any fun name =>
    (t.typeOf? name).any fun type => type.textForm == .undefined) = false := by
  rw [List.any_eq_false]
  refine forall₂_congr fun name _ => ?_
  cases t.typeOf? name <;> simp

/-- Whether the row has a text in the column, and it holds the text that is given in small
    letters. -/
def columnMatches (t : Table) (needle : String) (row : Row) (name : String) : Bool :=
  (t.typeOf? name).any (fun type => type.textForm == .present) && t.rowMatches needle [name] row

/-! ### What a search comes to -/

/-- The columns that are searched are those that have texts or cannot be rendered. -/
private theorem result_searchable (t : Table) (names : List String) :
    (t.searchable names).result = .ok (names.filter fun name =>
      (t.typeOf? name).any fun type => type.textForm != .absent) := by
  -- column by column
  induction names with
  | nil => rfl
  | cons name rest ih =>
    rw [searchable, List.filter_cons]
    cases t.typeOf? name with
    | none => exact ih
    | some type =>
      dsimp only
      rw [Option.any_some]
      by_cases hform : type.textForm = .absent
      · -- the column is passed over with a message
        rw [if_pos hform, Run.result_log_bind, ih, if_neg (by simp [hform])]
      · rw [if_neg hform, Run.result_bind_of_ok ih, if_pos (by simpa using hform)]
        rfl

/-- Columns are searched one by one. -/
private theorem rowMatches_eq_any (t : Table) (needle : String) (names : List String) (row : Row) :
    t.rowMatches needle names row = names.any fun name => t.rowMatches needle [name] row := by
  simp only [rowMatches, List.any_cons, List.any_nil, Bool.or_false]

/-- If all columns can be rendered, those that are searched are those that have texts. -/
private theorem rowMatches_filter (h : t.Renders names) (needle : String) (row : Row) :
    t.rowMatches needle (names.filter fun name =>
      (t.typeOf? name).any fun type => type.textForm != .absent) row =
      names.any (t.columnMatches needle row) := by
  rw [rowMatches_eq_any, List.any_filter, Bool.eq_iff_iff, List.any_eq_true, List.any_eq_true]
  refine exists_congr fun name => and_congr_right fun hname => ?_
  rw [columnMatches]
  cases htype : t.typeOf? name with
  | none => rfl
  | some type =>
    -- what is not absent is present, as nothing is undefined
    have hform := h name hname type htype
    cases hcase : type.textForm <;> simp_all

/-- A search for a text fails without any of the columns, and fails if one of them cannot be
    rendered; otherwise it keeps the rows that hold the text in one of them. -/
theorem result_search (htext : text ≠ "") : (t.search text names).result =
    if names.any t.hasColumn then
      if (names.any fun name => (t.typeOf? name).any fun type => type.textForm == .undefined) then
        .error (.search .notSearchable)
      else .ok (t.filterRows fun row => names.any (t.columnMatches (Text.lowercase text) row))
    else .error (.search (.noMatchingColumns names)) := by
  -- the search looks for the columns first, and then for one that cannot be rendered
  rw [search, if_neg (by simpa using htext)]
  -- without any of the columns the search fails
  cases hany : names.any t.hasColumn with
  | false => rfl
  | true =>
    rw [Bool.not_true, if_neg Bool.false_ne_true, if_pos rfl,
      Run.result_bind_of_ok (result_searchable t names), List.any_filter]
    -- a column that cannot be rendered is among those that are searched
    have hundefined : (fun name =>
        ((t.typeOf? name).any fun type => type.textForm != .absent) &&
          (t.typeOf? name).any fun type => type.textForm == .undefined) =
        fun name => (t.typeOf? name).any fun type => type.textForm == .undefined := by
      funext name
      cases t.typeOf? name with
      | none => rfl
      | some type => cases hcase : type.textForm <;> simp [hcase]
    dsimp only
    rw [hundefined]
    split
    · rfl
    · rename_i hrenders
      rw [Bool.not_eq_true, ← renders_iff] at hrenders
      rw [funext (rowMatches_filter hrenders _)]
      rfl

/-! ### Searches that keep rows -/

/-- The text is empty, or the table has one of the columns and can render those that it has. -/
def Searches (t : Table) (text : String) (names : List String) : Prop :=
  text = "" ∨ (∃ name ∈ names, name ∈ t.names) ∧ t.Renders names

/-- Whether a search keeps the row. -/
def finds (t : Table) (text : String) (names : List String) (row : Row) : Bool :=
  text.isEmpty || names.any (t.columnMatches (Text.lowercase text) row)

/-- Some of the columns are there if one of them is. -/
private theorem any_hasColumn_iff :
    names.any t.hasColumn = true ↔ ∃ name ∈ names, name ∈ t.names := by
  simp only [List.any_eq_true, mem_names_iff]

/-- A search has a result if it can be carried out, and it keeps the rows that it finds. -/
theorem search_eq_ok_iff : (t.search text names).result = .ok u ↔
    t.Searches text names ∧ u = t.filterRows (t.finds text names) := by
  by_cases htext : text = ""
  · -- the empty text is in every row
    subst htext
    have hall : t.filterRows (t.finds "" names) = t := t.filterRows_true
    rw [hall, and_iff_right (show t.Searches "" names from .inl rfl)]
    show Except.ok t = .ok u ↔ u = t
    rw [Except.ok.injEq, eq_comm]
  · have hfinds : t.finds text names =
        fun row => names.any (t.columnMatches (Text.lowercase text) row) := by
      funext row
      simp [finds, htext]
    rw [result_search htext, Searches, or_iff_right htext, hfinds, renders_iff, ← any_hasColumn_iff]
    split
    · rename_i hsome
      split
      · -- a column without texts fails the search, and so does the want of all columns
        rename_i hundefined
        simp [hundefined]
      · rename_i hrenders
        rw [Bool.not_eq_true] at hrenders
        rw [and_iff_right ⟨hsome, hrenders⟩, Except.ok.injEq, eq_comm]
    · rename_i hnone
      simp [hnone]

/-- What a column is searched for depends on where the column is and on its type. -/
private theorem columnMatches_congr (h : t.columns = u.columns) :
    t.columnMatches = u.columnMatches := by
  funext needle row name
  simp only [columnMatches, rowMatches, typeOf?, column?, indexOf?, h]

/-- Whether a search can be carried out, and which rows it finds, depends on the columns alone. -/
private theorem searches_congr (h : t.columns = u.columns) : t.Searches = u.Searches := by
  funext text names
  simp only [Searches, Renders, Table.names, typeOf?, column?, h]

private theorem finds_congr (h : t.columns = u.columns) : t.finds = u.finds := by
  funext text names row
  rw [finds, finds, columnMatches_congr h]

/-- A search of some of the rows finds among them what a search of all finds. -/
private theorem search_filterRows_eq_ok_iff (keep : Row → Bool) :
    ((t.filterRows keep).search text names).result = .ok u ↔
      t.Searches text names ∧ u = t.filterRows fun row => t.finds text names row && keep row := by
  rw [search_eq_ok_iff, searches_congr (t.columns_filterRows keep),
    finds_congr (t.columns_filterRows keep), filterRows_filterRows]

/-- A search by one column keeps the rows that have the text there. -/
theorem search_singleton (htext : text ≠ "") (hname : name ∈ t.names) (h : t.Renders [name]) :
    (t.search text [name]).result =
      .ok (t.filterRows fun row => t.columnMatches (Text.lowercase text) row name) := by
  refine search_eq_ok_iff.2 ⟨.inr ⟨⟨name, List.mem_singleton_self _, hname⟩, h⟩, ?_⟩
  refine congrArg t.filterRows (funext fun row => ?_)
  simp [finds, htext]

/-- A search by a column whose cells have no texts keeps nothing. -/
private theorem search_of_absent {type : DataType} (htext : text ≠ "")
    (htype : t.typeOf? name = some type)
    (hform : type.textForm = .absent) :
    (t.search text [name]).result = .ok (t.filterRows fun _ => false) := by
  have hname : name ∈ t.names := mem_names_iff.2 (hasColumn_of_typeOf? htype)
  have hrenders : t.Renders [name] := by
    simp [Renders, htype, hform]
  have hnone : (fun row => t.columnMatches (Text.lowercase text) row name) = fun _ => false := by
    funext row
    simp [columnMatches, htype, hform]
  rw [search_singleton htext hname hrenders, hnone]

/-- Names that the table does not have do not match. -/
private theorem columnMatches_of_not_mem (hname : name ∉ t.names) (needle : String) (row : Row) :
    t.columnMatches needle row name = false := by
  rw [columnMatches, typeOf?_eq_none_iff.2 hname, Option.any_none, Bool.false_and]

/-- A search with one of the columns depends on which columns of the table are asked for. -/
private theorem search_congr (htext : text ≠ "") (hsome : ∃ name ∈ names, name ∈ t.names)
    (hsame : ∀ name ∈ t.names, name ∈ others ↔ name ∈ names) :
    (t.search text others).result = (t.search text names).result := by
  -- what is false of the names that the table lacks is said of the others alone
  have hany : ∀ f : String → Bool, (∀ name, name ∉ t.names → f name = false) →
      others.any f = names.any f := by
    intro f hf
    rw [Bool.eq_iff_iff, List.any_eq_true, List.any_eq_true]
    refine exists_congr fun name => and_congr_left fun hname => hsame name ?_
    by_contra habsent
    rw [hf name habsent] at hname
    cases hname
  have hsome' : others.any t.hasColumn = true := by
    obtain ⟨name, hname, hmem⟩ := hsome
    exact any_hasColumn_iff.2 ⟨name, (hsame name hmem).2 hname, hmem⟩
  rw [result_search htext, result_search htext, if_pos hsome', if_pos (any_hasColumn_iff.2 hsome)]
  -- neither test looks at names that the table lacks
  rw [hany _ fun name hname => by rw [typeOf?_eq_none_iff.2 hname, Option.any_none]]
  simp only [hany _ fun name hname => columnMatches_of_not_mem hname _ _]

/-- Exactly if the table has none of the columns the search fails for that reason. -/
theorem search_eq_noMatchingColumns_iff (htext : text ≠ "") {asked : List String} :
    (t.search text names).result = .error (.search (.noMatchingColumns asked)) ↔
      asked = names ∧ ∀ name ∈ names, name ∉ t.names := by
  have hnone : (∀ name ∈ names, name ∉ t.names) ↔ ¬ names.any t.hasColumn = true := by
    simp only [any_hasColumn_iff, not_exists, not_and]
  rw [result_search htext, hnone]
  split
  · -- if some column is there, the search fails for another reason or not at all
    rename_i hsome
    refine iff_of_false ?_ fun h => h.2 hsome
    split <;> exact nofun
  · rename_i habsent
    rw [and_iff_left habsent]
    simp [eq_comm]

end Table

/-! ### Results -/

namespace QueryResult

variable {r filtered first second : QueryResult} {predicates : List Value} {text other : String}
  {names others : List String}

/-- Filtering a result filters its table. -/
theorem filter_eq_ok_iff : r.filter predicates = .ok filtered ↔
    ∃ t, r.table.filterStrict predicates = .ok t ∧ filtered = { r with table := t } := by
  rw [filter]
  cases r.table.filterStrict predicates <;> simp [Except.map, eq_comm]

/-- Searching a result searches its table. -/
theorem search_eq_ok_iff : (r.search text names).result = .ok first ↔
    ∃ t, (r.table.search text names).result = .ok t ∧ first = { r with table := t } := by
  refine Run.result_bind_eq_ok_iff.trans (exists_congr fun t => and_congr_right fun _ => ?_)
  show Except.ok _ = .ok first ↔ _
  rw [Except.ok.injEq, eq_comm]

/-- A filter and a search can be carried out in either order. -/
private theorem filter_search_comm (hfilter : r.filter predicates = .ok filtered)
    (hsearch : (r.search text names).result = .ok first) :
    ∃ both, (filtered.search text names).result = .ok both ∧
      first.filter predicates = .ok both := by
  obtain ⟨t, ht, rfl⟩ := filter_eq_ok_iff.1 hfilter
  obtain ⟨u, hu, rfl⟩ := search_eq_ok_iff.1 hsearch
  obtain ⟨happlies, rfl⟩ := Table.filterStrict_eq_ok_iff_applies.1 ht
  obtain ⟨hsearches, rfl⟩ := Table.search_eq_ok_iff.1 hu
  -- either way the rows are those that pass both tests
  refine ⟨_, search_eq_ok_iff.2 ⟨_, (Table.search_filterRows_eq_ok_iff _).2 ⟨hsearches, rfl⟩, rfl⟩,
    filter_eq_ok_iff.2 ⟨_, (Table.filterStrict_filterRows_eq_ok_iff _).2 ⟨happlies, rfl⟩, ?_⟩⟩
  simp only [Bool.and_comm]

/-- Two searches can be carried out in either order. -/
private theorem search_search_comm (h : (r.search text names).result = .ok first)
    (h' : (r.search other others).result = .ok second) :
    ∃ both, (first.search other others).result = .ok both ∧
      (second.search text names).result = .ok both := by
  obtain ⟨t, ht, rfl⟩ := search_eq_ok_iff.1 h
  obtain ⟨u, hu, rfl⟩ := search_eq_ok_iff.1 h'
  obtain ⟨hfirst, rfl⟩ := Table.search_eq_ok_iff.1 ht
  obtain ⟨hsecond, rfl⟩ := Table.search_eq_ok_iff.1 hu
  refine ⟨_, search_eq_ok_iff.2 ⟨_, (Table.search_filterRows_eq_ok_iff _).2 ⟨hsecond, rfl⟩, rfl⟩,
    search_eq_ok_iff.2 ⟨_, (Table.search_filterRows_eq_ok_iff _).2 ⟨hfirst, rfl⟩, ?_⟩⟩
  -- either way the rows are those that both searches keep
  simp only [Bool.and_comm]

end QueryResult

namespace Table

/-! ### The union -/

variable {t : Table} {text : String} {names : List String}

/-- A search for a text fails if the table has none of the columns.  Otherwise, if the cells of the
    others can be rendered, it keeps the rows that a search by one of them keeps, and those whose
    cells have no texts keep none; it does not matter in which order and how often columns are given
    and which absent names are given with them.  On a result, a search and a filter, or two
    searches, come to the same in either order. -/
theorem search_unites_columns (htext : text ≠ "") :
    (∀ asked, (t.search text names).result = .error (.search (.noMatchingColumns asked)) ↔
      asked = names ∧ ∀ name ∈ names, name ∉ t.names) ∧
    ((∃ name ∈ names, name ∈ t.names) → t.Renders names → ∃ keep : String → Row → Bool,
      (∀ name ∈ names, name ∈ t.names →
        (t.search text [name]).result = .ok (t.filterRows (keep name))) ∧
      (t.search text names).result =
        .ok (t.filterRows fun row => names.any fun name => t.hasColumn name && keep name row)) ∧
    ((∃ name ∈ names, name ∈ t.names) → ∀ others,
      (∀ name ∈ t.names, name ∈ others ↔ name ∈ names) →
      (t.search text others).result = (t.search text names).result) ∧
    (∀ name type, t.typeOf? name = some type → type.textForm = .absent →
      (t.search text [name]).result = .ok (t.filterRows fun _ => false)) ∧
    (∀ (r filtered found : QueryResult) predicates wanted columns,
      r.filter predicates = .ok filtered → (r.search wanted columns).result = .ok found →
      ∃ both, (filtered.search wanted columns).result = .ok both ∧
        found.filter predicates = .ok both) ∧
    ∀ (r first second : QueryResult) wanted columns wanted' columns',
      (r.search wanted columns).result = .ok first →
      (r.search wanted' columns').result = .ok second →
      ∃ both, (first.search wanted' columns').result = .ok both ∧
        (second.search wanted columns).result = .ok both := by
  refine ⟨fun asked => search_eq_noMatchingColumns_iff htext, fun hsome hrenders => ?_,
    fun hsome others => search_congr htext hsome, fun name type => search_of_absent htext,
    fun _ _ _ _ _ _ => QueryResult.filter_search_comm,
    fun _ _ _ _ _ _ _ => QueryResult.search_search_comm⟩
  -- what a column keeps by itself is what it adds to the union
  refine ⟨fun name row => t.columnMatches (Text.lowercase text) row name, ?_, ?_⟩
  · intro name hname hmem
    refine search_singleton htext hmem fun n hn => ?_
    rw [List.mem_singleton.1 hn]
    exact hrenders name hname
  · refine search_eq_ok_iff.2 ⟨.inr ⟨hsome, hrenders⟩, congrArg t.filterRows (funext fun row => ?_)⟩
    have hcolumn : ∀ name, (t.hasColumn name && t.columnMatches (Text.lowercase text) row name) =
        t.columnMatches (Text.lowercase text) row name := by
      intro name
      by_cases hmem : name ∈ t.names
      · rw [mem_names_iff.1 hmem, Bool.true_and]
      · rw [columnMatches_of_not_mem hmem, Bool.and_false]
    simp only [finds, hcolumn]
    simp [htext]

/-- A table of texts, lists of texts and lists of lists, with null cells. -/
def notes : Table :=
  ⟨[⟨"title", .string⟩, ⟨"tags", .list .string⟩, ⟨"grid", .list (.list .int64)⟩],
    [[.text "Spring", .null, .null],
      [.null, .list [.text "spring", .null], .list []],
      [.text "autumn", .list [.text "leaf"], .null]]⟩

/-- A search that asks for a column twice and for one that is not there, before and after a filter
    that drops null titles. -/
theorem search_unites_notes :
    (notes.search "SPRING" ["tags", "size", "title", "grid", "tags"]).result =
      .ok ⟨notes.columns, [[.text "Spring", .null, .null],
        [.null, .list [.text "spring", .null], .list []]]⟩ ∧
    (notes.search "SPRING" ["grid"]).result = .ok ⟨notes.columns, []⟩ ∧
    ∃ both, (QueryResult.search ⟨⟨notes.columns, [[.text "Spring", .null, .null],
        [.text "autumn", .list [.text "leaf"], .null]]⟩, 1, 1⟩ "SPRING" ["title"]).result =
          .ok both ∧
      QueryResult.filter ⟨⟨notes.columns, [[.text "Spring", .null, .null]]⟩, 1, 1⟩
        [.text "title != null"] = .ok both := by
  obtain ⟨-, -, hsame, habsent, hfilter, -⟩ := @search_unites_columns notes "SPRING"
    ["title", "tags", "grid"] (by decide)
  refine ⟨?_, ?_, ?_⟩
  · refine (hsame ⟨"title", by decide, by decide⟩ _ ?_).trans rfl
    decide
  · exact (habsent "grid" _ rfl rfl).trans rfl
  · exact hfilter ⟨notes, 1, 1⟩ _ _ _ _ _ rfl rfl

end Table

end SharedTables
