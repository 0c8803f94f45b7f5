import Mathlib
import SharedTables.Proofs.Run
import SharedTables.Proofs.Table.Columns
import SharedTables.Table.Stack

/-!
# The columns and rows of a stack

A stack has the common columns of its tables, apart from those that are left out because of their
types.  It has all rows of the tables, unless no column is left.

Tables on the way to a stack are `Aligned`: they have the same columns, and the rows that they had.
Settling one column keeps them aligned, and so does settling all of them.

## Key results

- `settleColumn_aligned`, `settle_aligned`: what is left after settling columns
- `stack_spec`: the columns and the number of rows of the stack of several tables
- `height_stack`: the number of rows of any stack
-/

namespace SharedTables

namespace Table

/-- Whether columns of the types can be put below each other: the types have a common type, or cells
    of each of them a text. -/
def stackable (types : List DataType) : Bool :=
  (DataType.unifyAll? types).isSome || !types.any fun type => type.textForm == .absent

/-- The columns that are left in the stack of several tables. -/
def stackedNames (tables : List Table) : List String :=
  (common tables).filter fun name => stackable (typesOf tables name)

/-- The tables have columns of the given names and, as long as there are any, the given heights. -/
structure Aligned (tables : List Table) (names : List String) (heights : List Nat) : Prop where
  names_eq : ∀ t ∈ tables, t.names = names
  heights_eq : names ≠ [] → tables.map height = heights
  rows_eq_nil : names = [] → ∀ t ∈ tables, t.rows = []

variable {tables settled : List Table} {names : List String} {heights : List Nat} {name : String}

/-- A table without names has no columns. -/
theorem names_eq_nil_iff {t : Table} : t.names = [] ↔ t.columns = [] :=
  List.map_eq_nil_iff

/-- Keeping columns that all tables have aligns them. -/
private theorem aligned_select {kept : List String} (hkept : ∀ t ∈ tables, ∀ n ∈ kept, n ∈ t.names)
    (hheights : kept ≠ [] → tables.map height = heights) :
    Aligned (tables.map fun t => t.select kept) kept heights := by
  have hnames : ∀ t ∈ tables, (t.select kept).names = kept := by
    intro t ht
    rw [names_select, List.filter_eq_self]
    intro n hn
    exact mem_names_iff.1 (hkept t ht n hn)
  constructor
  · intro u hu
    obtain ⟨t, ht, rfl⟩ := List.mem_map.1 hu
    exact hnames t ht
  · -- the first column that is kept keeps the rows
    intro hne
    rw [← hheights hne, List.map_map]
    apply List.map_congr_left
    intro t ht
    refine height_select fun hnil => hne ?_
    rw [← hnames t ht]
    exact names_eq_nil_iff.2 hnil
  · -- without columns there are no rows either
    intro hnil u hu
    obtain ⟨t, ht, rfl⟩ := List.mem_map.1 hu
    apply rows_select_eq_nil
    rw [← names_eq_nil_iff, hnames t ht, hnil]

/-! ### Columns of texts -/

/-- A column that becomes one of texts keeps its name. -/
private theorem names_withTextColumn (t : Table) (name : String) :
    (t.withTextColumn name).names = t.names := by
  rw [Table.names, withTextColumn, List.map_map]
  apply List.map_congr_left
  intro c _
  simp only [Function.comp_apply]
  split <;> rfl

/-- The other columns keep their types. -/
theorem typeOf?_withTextColumn_of_ne {t : Table} {n : String} (hn : n ≠ name) :
    (t.withTextColumn name).typeOf? n = t.typeOf? n := by
  simp only [typeOf?, column?, withTextColumn]
  -- columns keep their names, so the same one is found
  induction t.columns with
  | nil => rfl
  | cons c rest ih =>
    rw [List.map_cons]
    by_cases hc : c.name = n
    · have hname : c.name ≠ name := by rwa [hc]
      rw [if_neg hname, List.find?_cons_of_pos (by simpa using hc),
        List.find?_cons_of_pos (by simpa using hc)]
    · rw [List.find?_cons_of_neg, List.find?_cons_of_neg (by simpa using hc)]
      · exact ih
      · split <;> simpa using hc

/-- The column itself is one of texts. -/
private theorem typeOf?_withTextColumn_self {t : Table} {type : DataType}
    (h : (t.withTextColumn name).typeOf? name = some type) : type = .string := by
  obtain ⟨c, hc, rfl⟩ := Option.map_eq_some_iff.1 h
  have hname := name_of_column? hc
  obtain ⟨d, -, rfl⟩ := List.mem_map.1 (List.mem_of_find?_eq_some hc)
  split at hname
  · rename_i hd
    rw [if_pos hd]
  · contradiction

/-- Aligned tables stay aligned when a column becomes one of texts. -/
theorem Aligned.withTextColumn (h : Aligned tables names heights) (name : String) :
    Aligned (tables.map fun t => t.withTextColumn name) names heights := by
  constructor
  · intro u hu
    obtain ⟨t, ht, rfl⟩ := List.mem_map.1 hu
    rw [names_withTextColumn, h.names_eq t ht]
  · intro hne
    rw [← h.heights_eq hne, List.map_map]
    -- a row remains a row
    apply List.map_congr_left
    intro t _
    exact List.length_map _
  · intro hnil u hu
    obtain ⟨t, ht, rfl⟩ := List.mem_map.1 hu
    simp [Table.withTextColumn, h.rows_eq_nil hnil t ht]

/-! ### Settling columns -/

/-- So they do without one of their columns. -/
theorem Aligned.withoutColumn (h : Aligned tables names heights) (name : String) :
    Aligned (tables.map fun t => t.withoutColumn name) (names.filter fun n => n != name)
      heights := by
  -- leaving a column out is selecting the others
  have hselect : (tables.map fun t => t.withoutColumn name) =
      tables.map fun t => t.select (names.filter fun n => n != name) := by
    apply List.map_congr_left
    intro t ht
    rw [Table.withoutColumn, h.names_eq t ht]
  rw [hselect]
  apply aligned_select
  · intro t ht n hn
    rw [h.names_eq t ht]
    exact List.mem_of_mem_filter hn
  · intro hne
    apply h.heights_eq
    rintro rfl
    exact hne rfl

/-- The other columns keep their types. -/
theorem typeOf?_withoutColumn_of_ne {t : Table} {n : String} (hn : n ≠ name) :
    (t.withoutColumn name).typeOf? n = t.typeOf? n := by
  rw [typeOf?, withoutColumn, column?_select]
  split
  · rfl
  · rename_i hmem
    have hnot : n ∉ t.names := by simpa [hn] using hmem
    exact (typeOf?_eq_none_iff.2 hnot).symm

/-- What changes no type of a column changes none of its types in a list of tables. -/
theorem typesOf_map {f : Table → Table} {n : String}
    (h : ∀ t ∈ tables, (f t).typeOf? n = t.typeOf? n) :
    typesOf (tables.map f) n = typesOf tables n := by
  rw [typesOf, List.filterMap_map]
  exact List.filterMap_congr h

/-- A column that can be stacked is kept, as it is or as texts; any other is left out. -/
theorem settleColumn_cases (h : (settleColumn tables name).result = .ok settled) :
    (stackable (typesOf tables name) = true ∧ settled = tables) ∨
      (stackable (typesOf tables name) = true ∧
        settled = tables.map fun t => t.withTextColumn name) ∨
      (stackable (typesOf tables name) = false ∧
        settled = tables.map fun t => t.withoutColumn name) := by
  rw [settleColumn] at h
  dsimp only at h
  split at h
  · -- the types have a common type
    rename_i hunified
    refine .inl ⟨?_, (Except.ok.inj h).symm⟩
    rw [stackable, hunified, Bool.true_or]
  · rename_i hunified
    rw [Bool.not_eq_true] at hunified
    split at h
    · -- cells of one of the types have no text
      rename_i habsent
      refine .inr (.inr ⟨?_, (Except.ok.inj h).symm⟩)
      rw [stackable, hunified, habsent]
      rfl
    · -- all cells have texts, as long as these are defined
      rename_i hpresent
      rw [Bool.not_eq_true] at hpresent
      obtain ⟨-, -, htext⟩ := Run.result_bind_eq_ok_iff.1 h
      split at htext
      · cases htext
      · refine .inr (.inl ⟨?_, (Except.ok.inj htext).symm⟩)
        rw [stackable, hpresent, Bool.not_false, Bool.or_true]

/-- Settling a column leaves aligned tables aligned, without the column if it cannot be stacked. -/
theorem settleColumn_aligned (h : (settleColumn tables name).result = .ok settled)
    (ha : Aligned tables names heights) :
    Aligned settled (names.filter fun n => n != name || stackable (typesOf tables name))
      heights := by
  -- in each of the three cases it is known whether the column can be stacked
  obtain ⟨hs, rfl⟩ | ⟨hs, rfl⟩ | ⟨hs, rfl⟩ := settleColumn_cases h
  · simpa [hs] using ha
  · simpa [hs] using ha.withTextColumn name
  · simpa [hs] using ha.withoutColumn name

/-- Settling a column changes nothing about whether columns can be stacked. -/
private theorem stackable_settleColumn (h : (settleColumn tables name).result = .ok settled)
    (n : String)
    (hn : n = name → stackable (typesOf tables name) = true) :
    stackable (typesOf settled n) = stackable (typesOf tables n) := by
  obtain ⟨hs, rfl⟩ | ⟨hs, rfl⟩ | ⟨hs, rfl⟩ := settleColumn_cases h
  · rfl
  · by_cases hname : n = name
    · -- there are only columns of texts now
      subst hname
      rw [hs, stackable, Bool.or_eq_true]
      refine .inr ?_
      rw [Bool.not_eq_true', Bool.eq_false_iff]
      intro habsent
      obtain ⟨type, htype, htext⟩ := List.any_eq_true.1 habsent
      obtain ⟨u, hu, htypeOf⟩ := List.mem_filterMap.1 htype
      obtain ⟨t, -, rfl⟩ := List.mem_map.1 hu
      rw [typeOf?_withTextColumn_self htypeOf] at htext
      cases htext
    · rw [typesOf_map fun t _ => typeOf?_withTextColumn_of_ne hname]
  · -- the column was left out, so it was not one that can be stacked
    have hname : n ≠ name := by
      intro heq
      rw [hn heq] at hs
      cases hs
    rw [typesOf_map fun t _ => typeOf?_withoutColumn_of_ne hname]

/-- Settling columns leaves aligned tables aligned, without those that cannot be stacked. -/
theorem settle_aligned {todo : List String} (h : (settle tables todo).result = .ok settled)
    (ha : Aligned tables names heights) :
    Aligned settled (names.filter fun n => !todo.contains n || stackable (typesOf tables n))
      heights := by
  -- each column is settled in the tables that the columns before it have left
  induction todo generalizing tables names with
  | nil =>
    obtain rfl := Except.ok.inj h
    simpa using ha
  | cons name rest ih =>
    obtain ⟨tables', hstep, hrest⟩ := Run.result_bind_eq_ok_iff.1 h
    have hfinal := ih hrest (settleColumn_aligned hstep ha)
    rw [List.filter_filter] at hfinal
    -- a name may come up again, when its column has been settled
    have hkeep : ∀ n, ((!rest.contains n || stackable (typesOf tables' n)) &&
        (n != name || stackable (typesOf tables name))) =
          (!(name :: rest).contains n || stackable (typesOf tables n)) := by
      intro n
      by_cases hn : n = name
      · subst hn
        cases hs : stackable (typesOf tables n) with
        | false => simp
        | true =>
          have hsame := stackable_settleColumn hstep n fun _ => hs
          simp [hsame, hs]
      · have hsame := stackable_settleColumn hstep n fun heq => absurd heq hn
        simp [hsame, hn]
    simpa only [hkeep] using hfinal

/-! ### Putting tables below each other -/

/-- Casting the columns of a table changes none of their names. -/
private theorem names_castTo {t : Table} {types : List DataType}
    (h : types.length = t.columns.length) :
    (t.castTo types).names = t.names := by
  -- with a type for each of them no column is lost
  have hzip : (t.columns.zip types).map Prod.fst = t.columns :=
    List.map_fst_zip (Nat.le_of_eq h.symm)
  have hname : Column.name ∘ (fun p : Column × DataType => { p.1 with type := p.2 }) =
      Column.name ∘ Prod.fst := rfl
  rw [Table.names, Table.names, castTo]
  conv_rhs => rw [← hzip, List.map_map]
  exact List.map_map

/-- Putting aligned tables below each other keeps their columns and rows, and takes a common type of
    every column. -/
private theorem stackAligned?_spec {r : Table} (h : stackAligned? tables = some r)
    (ha : Aligned tables names heights) :
    r.names = names ∧ r.height = (if names = [] then 0 else heights.sum) ∧
      ∀ n ∈ names, stackable (typesOf tables n) = true := by
  cases tables with
  | nil => cases h
  | cons t rest =>
    obtain ⟨types, htypes, hr⟩ := Option.bind_eq_some_iff.1 h
    obtain rfl := Option.some.inj hr
    have hnames := ha.names_eq t (by simp)
    rw [hnames] at htypes
    -- a type for each column, in the order of the names
    have hunified := Run.map_eq_of_mapM_eq_some htypes
    have hlength : types.length = t.columns.length := by
      rw [← List.length_map (f := some), ← hunified, List.length_map, ← hnames, Table.names,
        List.length_map]
    refine ⟨(names_castTo hlength).trans hnames, ?_, ?_⟩
    · -- casting changes no number of rows
      have hsum : ((((t :: rest).map fun u => u.castTo types).flatMap (·.rows))).length =
          ((t :: rest).map height).sum := by
        rw [List.length_flatMap, List.map_map]
        congr 1
        apply List.map_congr_left
        intro u _
        exact List.length_map _
      rw [height, hsum]
      split
      · rename_i hnil
        rw [List.sum_eq_zero]
        intro n hn
        obtain ⟨u, hu, rfl⟩ := List.mem_map.1 hn
        rw [height, ha.rows_eq_nil hnil u hu, List.length_nil]
      · rename_i hne
        rw [ha.heights_eq hne]
    · intro n hn
      -- every column has found a common type
      have hmem := List.mem_map_of_mem (f := fun n => DataType.unifyAll? (typesOf (t :: rest) n)) hn
      rw [hunified] at hmem
      obtain ⟨type, -, htype⟩ := List.mem_map.1 hmem
      rw [stackable, ← htype]
      rfl

/-! ### Stacks -/

/-- The tables are put below each other on their common columns as they are, or else after the
    columns have been settled. -/
theorem stack_cases {t u : Table} {rest : List Table} {requested : List String} {r : Table}
    (h : (stack (t :: u :: rest) requested).result = .ok r) :
    stackAligned? ((t :: u :: rest).map fun t' => t'.select (common (t :: u :: rest))) = some r ∨
      ∃ settled, (settle ((t :: u :: rest).map fun t' => t'.select (common (t :: u :: rest)))
          (common (t :: u :: rest))).result = .ok settled ∧ stackAligned? settled = some r := by
  unfold stack at h
  simp only [apply_ite Run.result, Run.result_log_bind, ite_self] at h
  split at h
  · -- the columns fit as they are
    rename_i hstack
    obtain rfl := Except.ok.inj h
    exact .inl hstack
  · -- or columns have been settled before
    obtain ⟨settled, hsettled, h⟩ := Run.result_bind_eq_ok_iff.1 h
    split at h
    · rename_i hstack
      obtain rfl := Except.ok.inj h
      exact .inr ⟨settled, hsettled, hstack⟩
    · cases h

/-- The columns and the number of rows of the stack of several tables. -/
theorem stack_spec {t u : Table} {rest : List Table} {requested : List String} {r : Table}
    (h : (stack (t :: u :: rest) requested).result = .ok r) :
    r.names = stackedNames (t :: u :: rest) ∧
      r.height = if stackedNames (t :: u :: rest) = [] then 0
        else ((t :: u :: rest).map height).sum := by
  have hcases := stack_cases h
  rw [stackedNames]
  -- from here on the tables may be any, with columns that all of them have
  generalize hshared : common (t :: u :: rest) = shared at hcases ⊢
  have hall : ∀ t' ∈ t :: u :: rest, ∀ n ∈ shared, n ∈ t'.names := by
    intro t' ht' n hn
    rw [← hshared] at hn
    exact mem_common_iff.1 hn t' ht'
  generalize t :: u :: rest = tables at hcases hall ⊢
  have haligned : Aligned (tables.map fun t' => t'.select shared) shared (tables.map height) :=
    aligned_select hall fun _ => rfl
  -- the columns that are kept have the types that they had
  have htypes : ∀ n ∈ shared,
      typesOf (tables.map fun t' => t'.select shared) n = typesOf tables n := by
    intro n hn
    apply typesOf_map
    intro t' _
    rw [typeOf?, column?_select, if_pos hn, typeOf?]
  have hfilter : (shared.filter fun n => stackable (typesOf tables n)) = shared.filter fun n =>
      !shared.contains n || stackable (typesOf (tables.map fun t' => t'.select shared) n) := by
    apply List.filter_congr
    intro n hn
    rw [htypes n hn]
    simp [hn]
  rcases hcases with hstack | ⟨settled, hsettled, hstack⟩
  · -- all columns have a common type
    obtain ⟨hnames, hheight, hstackable⟩ := stackAligned?_spec hstack haligned
    have hself : (shared.filter fun n => stackable (typesOf tables n)) = shared := by
      rw [List.filter_eq_self]
      intro n hn
      rw [← htypes n hn]
      exact hstackable n hn
    rw [hself]
    exact ⟨hnames, hheight⟩
  · -- the columns that are left have a common type after they have been settled
    obtain ⟨hnames, hheight, -⟩ := stackAligned?_spec hstack (settle_aligned hsettled haligned)
    rw [hfilter]
    exact ⟨hnames, hheight⟩

/-- A stack of tables with rows has all rows, unless no column is left of several tables. -/
theorem height_stack {requested : List String} {r : Table}
    (h : (stack tables requested).result = .ok r) :
    r.height = if tables.length ≤ 1 ∨ stackedNames tables ≠ [] then (tables.map height).sum
      else 0 := by
  cases tables with
  | nil =>
    obtain rfl := Except.ok.inj h
    rfl
  | cons t rest =>
    -- a single table is handed on as it is, with or without columns
    cases rest with
    | nil =>
      obtain rfl := Except.ok.inj h
      simp
    | cons u rest =>
      obtain ⟨-, hheight⟩ := stack_spec h
      by_cases hnone : stackedNames (t :: u :: rest) = []
      · simp [hheight, hnone]
      · simp [hheight, hnone]

end Table

end SharedTables
