import Mathlib
import SharedTables.Proofs.Table.Drifting

/-!
# Requested columns

A request leaves of a table the requested columns that it has, and all columns if it has none of
them.  Where tables are stacked of which a request has left something, the result depends on how
many of them have a requested column.  If all do, the stack is that of the whole tables without the
columns that are not requested.

## Key results

- `result_selectColumns`: what a request leaves of a table
- `names_stack`: the columns of any stack
- `stackedNames_wanted`, `stackedNames_wanted_of_mixed`: the columns of a stack after a request
- `hasTexts_of_stack`: where a stack is there, cells have the texts that it needs
- `stacked_wanted`: a request is a choice among the columns of the stack
-/

namespace SharedTables

namespace Table

variable {t : Table} {tables : List Table} {names : List String} {name : String}

/-! ### One table -/

/-- The table has a requested column. -/
def Offers (t : Table) (names : List String) : Prop :=
  ∃ n ∈ names, n ∈ t.names

instance (t : Table) (names : List String) : Decidable (t.Offers names) :=
  inferInstanceAs (Decidable (∃ n ∈ names, n ∈ t.names))

/-- The requested columns of a table, each once. -/
def offered (t : Table) (names : List String) : List String :=
  (distinct names).filter t.hasColumn

/-- What a request leaves of a table. -/
def wanted (names : List String) (t : Table) : Table :=
  if (t.offered names).isEmpty then t else t.select (t.offered names)

/-- A request leaves what is wanted of a table. -/
theorem result_selectColumns (t : Table) (names : List String) :
    (t.selectColumns (some names)).result = .ok (t.wanted names) := by
  rw [selectColumns, wanted, offered]
  split <;> rfl

/-- What a table offers are the requested columns that it has. -/
private theorem mem_offered : name ∈ t.offered names ↔ name ∈ names ∧ name ∈ t.names := by
  rw [offered, List.mem_filter, mem_distinct, mem_names_iff]

/-- A table has a requested column exactly if it offers one. -/
private theorem offers_iff : t.Offers names ↔ t.offered names ≠ [] := by
  simp only [Offers, ← mem_offered]
  exact ⟨fun ⟨_, hn⟩ => List.ne_nil_of_mem hn, List.exists_mem_of_ne_nil _⟩

/-- A table that has requested columns is cut down to them. -/
private theorem wanted_of_offers (h : t.Offers names) : t.wanted names = t.select
    (t.offered names) := by
  rw [wanted, if_neg]
  rwa [List.isEmpty_iff, ← ne_eq, ← offers_iff]

/-- A table that has none is left as it is. -/
private theorem wanted_of_not_offers (h : ¬ t.Offers names) : t.wanted names = t := by
  rw [wanted, if_pos]
  rwa [offers_iff, not_not, ← List.isEmpty_iff] at h

/-- The columns that are left are those that are offered. -/
private theorem names_wanted (h : t.Offers names) : (t.wanted names).names = t.offered names := by
  rw [wanted_of_offers h, names_select, List.filter_eq_self]
  intro n hn
  exact mem_names_iff.1 (mem_offered.1 hn).2

/-- A requested column is the one that the table has. -/
private theorem typeOf?_wanted (h : name ∈ names) :
    (t.wanted names).typeOf? name = t.typeOf? name := by
  by_cases hoffers : t.Offers names
  · rw [wanted_of_offers hoffers, typeOf?, column?_select]
    split
    · rfl
    · -- a requested column that is not offered is not there
      rename_i hnot
      rw [mem_offered, not_and] at hnot
      exact (typeOf?_eq_none_iff.2 (hnot h)).symm
  · rw [wanted_of_not_offers hoffers]

/-! ### Stacks -/

/-- A column of a single table has one type. -/
private theorem exists_typesOf_singleton (h : name ∈ t.names) : ∃ type, typesOf [t] name =
    [type] := by
  obtain ⟨place, hplace⟩ := exists_indexOf?_of_hasColumn (mem_names_iff.1 h)
  obtain ⟨type, htype⟩ := exists_typeOf?_of_indexOf? hplace
  exact ⟨type, List.filterMap_cons_some htype⟩

/-- The columns of any stack are those that can be stacked. -/
theorem names_stack {requested : List String} {r : Table} (hne : tables ≠ [])
    (h : (stack tables requested).result = .ok r) : r.names = stackedNames tables := by
  -- a single table is handed on as it is, and more are stacked
  match tables with
  | [] => exact absurd rfl hne
  | [t] =>
    obtain rfl := Except.ok.inj h
    -- every type is the common type of itself
    have hstackable : ∀ n ∈ t.names, stackable (typesOf [t] n) = true := by
      intro n hn
      obtain ⟨type, htypes⟩ := exists_typesOf_singleton hn
      rw [stackable, htypes]
      rfl
    have hcommon : common [t] = t.names := by simp [common]
    rw [stackedNames, hcommon, List.filter_eq_self.2 hstackable]
  | t :: u :: rest => exact (stack_spec h).1

/-- A requested column has the types that it had. -/
private theorem typesOf_wanted (h : name ∈ names) :
    typesOf (tables.map (wanted names)) name = typesOf tables name :=
  typesOf_map fun _ _ => typeOf?_wanted h

/-- Where all tables have a requested column, the stack has those requested columns that all of them
    have and that can be stacked. -/
theorem stackedNames_wanted (hne : tables ≠ []) (hoffers : ∀ t ∈ tables, t.Offers names) :
    stackedNames (tables.map (wanted names)) = (distinct names).filter fun n =>
      (tables.all fun t => t.hasColumn n) && stackable (typesOf tables n) := by
  cases tables with
  | nil => exact absurd rfl hne
  | cons t rest =>
    -- a table that is cut down has the same requested columns
    have hall : ∀ n ∈ distinct names, ∀ u ∈ t :: rest,
        (u.wanted names).hasColumn n = u.hasColumn n := by
      intro n hn u hu
      rw [Bool.eq_iff_iff, ← mem_names_iff, ← mem_names_iff, names_wanted (hoffers u hu),
        mem_offered, and_iff_right (mem_distinct.1 hn)]
    rw [stackedNames, List.map_cons, common, names_wanted (hoffers t (List.mem_cons_self ..)),
      offered, List.filter_filter, List.filter_filter]
    -- both are filters of the requested names, so that one name is looked at
    refine List.filter_congr fun n hn => ?_
    rw [← List.map_cons (f := wanted names), typesOf_wanted (mem_distinct.1 hn), List.all_cons,
      List.all_map]
    have hrest : (rest.all fun u => (u.wanted names).hasColumn n) =
        rest.all fun u => u.hasColumn n := by
      rw [Bool.eq_iff_iff, List.all_eq_true, List.all_eq_true]
      exact forall₂_congr fun u hu => by rw [hall n hn u (List.mem_cons_of_mem _ hu)]
    rw [Function.comp_def, hrest]
    ac_rfl

/-- Where some tables have a requested column and others have none, the stack has no columns. -/
theorem stackedNames_wanted_of_mixed {u v : Table} (hu : u ∈ tables) (hv : v ∈ tables)
    (hoffers : u.Offers names) (hnot : ¬ v.Offers names) :
    stackedNames (tables.map (wanted names)) = [] := by
  rw [List.eq_nil_iff_forall_not_mem]
  intro n hn
  -- a common column would be a requested one, and one of the table that has none
  have hcommon := List.mem_of_mem_filter hn
  have huNames := mem_names_of_mem_common (List.mem_map_of_mem hu) hcommon
  have hvNames := mem_names_of_mem_common (List.mem_map_of_mem hv) hcommon
  rw [names_wanted hoffers, mem_offered] at huNames
  rw [wanted_of_not_offers hnot] at hvNames
  exact hnot ⟨n, huNames.1, hvNames⟩

/-- Only the stack of no tables depends on what is requested. -/
private theorem stack_requested (hne : tables ≠ []) (requested requested' : List String) :
    stack tables requested = stack tables requested' := by
  match tables with
  | [] => exact absurd rfl hne
  | [t] => rfl
  | t :: u :: rest => rfl

/-! ### Texts where they are needed -/

/-- A column that has been settled has the texts that it needs. -/
private theorem hasTexts_of_settleColumn {settled : List Table}
    (h : (settleColumn tables name).result = .ok settled) : HasTexts (typesOf tables name) := by
  intro hunified hstackable type htype hundefined
  have hpresent : (typesOf tables name).any (fun type => type.textForm == .absent) = false := by
    simpa [stackable, hunified] using hstackable
  have hsome : (typesOf tables name).any (fun type => type.textForm == .undefined) = true :=
    List.any_eq_true.2 ⟨type, htype, beq_iff_eq.2 hundefined⟩
  -- a type without a text would have made it fail
  rw [settleColumn, hunified, hpresent, hsome] at h
  cases h

/-- So have all columns that have been settled. -/
private theorem hasTexts_of_settle {todo : List String} {settled : List Table}
    (h : (settle tables todo).result = .ok settled) :
    ∀ n ∈ todo, HasTexts (typesOf tables n) := by
  -- each column is settled in the tables that the columns before it have left
  induction todo generalizing tables with
  | nil => exact nofun
  | cons name rest ih =>
    obtain ⟨tables', hstep, hrest⟩ := Run.result_bind_eq_ok_iff.1 h
    intro n hn
    by_cases hname : n = name
    · rw [hname]
      exact hasTexts_of_settleColumn hstep
    · -- the other columns have the types that they had
      have hsame : typesOf tables' n = typesOf tables n := by
        obtain ⟨-, rfl⟩ | ⟨-, rfl⟩ | ⟨-, rfl⟩ := settleColumn_cases hstep
        · rfl
        · exact typesOf_map fun _ _ => typeOf?_withTextColumn_of_ne hname
        · exact typesOf_map fun _ _ => typeOf?_withoutColumn_of_ne hname
      rw [← hsame]
      exact ih hrest n (List.mem_of_ne_of_mem hname hn)

/-- Where a stack is there, the common columns have the texts that it needs. -/
theorem hasTexts_of_stack {requested : List String} {r : Table}
    (h : (stack tables requested).result = .ok r) :
    ∀ n ∈ common tables, HasTexts (typesOf tables n) := by
  intro n hn
  -- one table is not settled at all, and its columns have their own types
  match tables with
  | [] => exact nofun
  | [t] =>
    obtain ⟨type, htypes⟩ := exists_typesOf_singleton
      (mem_names_of_mem_common (List.mem_singleton_self t) hn)
    intro hunified
    rw [htypes] at hunified
    cases hunified
  | t :: u :: rest =>
    -- either the columns have common types at once, or they have been settled
    rcases stack_cases h with hdirect | ⟨settled, hsettle, -⟩
    · rw [map_select_common] at hdirect
      obtain ⟨type, htype⟩ := View.unifyAll?_of_stackAligned? hdirect hn
      intro hunified
      rw [typesOf_common hn, htype] at hunified
      cases hunified
    · have hsame : typesOf ((t :: u :: rest).map fun t' => t'.select (common (t :: u :: rest))) n =
          typesOf (t :: u :: rest) n := by
        refine typesOf_map fun t' _ => ?_
        rw [typeOf?, column?_select, if_pos hn, typeOf?]
      rw [← hsame]
      exact hasTexts_of_settle hsettle n hn

/-! ### Requests and stacks -/

/-- Choosing columns leaves a table as it is stored. -/
theorem WellFormed.select (h : t.WellFormed) {kept : List String} (hnodup : kept.Nodup)
    (hkept : ∀ n ∈ kept, n ∈ t.names) : (t.select kept).WellFormed := by
  rw [View.select_eq_table hkept]
  -- names are distinct, cells fit, and without columns there are no rows
  refine ⟨?_, ?_, ?_⟩
  · rwa [View.names_table]
  · intro row' hrow'
    rw [View.table] at hrow' ⊢
    dsimp only at hrow' ⊢
    split at hrow'
    · cases hrow'
    · obtain ⟨row, hrow, rfl⟩ := List.mem_map.1 hrow'
      -- a chosen cell fits its column as it did before
      rw [List.forall₂_map_left_iff, List.forall₂_map_right_iff, List.forall₂_same]
      intro n hn
      obtain ⟨place, hplace⟩ := exists_indexOf?_of_hasColumn (mem_names_iff.1 (hkept n hn))
      obtain ⟨type, htype⟩ := exists_typeOf?_of_indexOf? hplace
      rw [View.own_type, View.own_cell, htype, hplace]
      exact h.fits_cell hplace htype hrow
  · intro hnone
    rw [View.table, List.map_eq_nil_iff.1 hnone]
    rfl

/-- So does a request for columns. -/
theorem WellFormed.wanted (h : t.WellFormed) (names : List String) :
    (t.wanted names).WellFormed := by
  by_cases hoffers : t.Offers names
  · rw [wanted_of_offers hoffers]
    exact h.select ((nodup_distinct names).filter _) fun n hn => (mem_offered.1 hn).2
  · rwa [wanted_of_not_offers hoffers]

/-- Names that a table lacks do not count in a choice among its columns. -/
private theorem select_eq_select_filter (t : Table) (names : List String) :
    t.select names = t.select (names.filter t.hasColumn) := by
  rw [select, select, List.filterMap_filter]
  congr 2
  funext n
  split
  · rfl
  · rename_i hnot
    rwa [hasColumn, Option.isSome_iff_ne_none, ne_eq, not_not, column?_eq_none_iff] at hnot

/-- The cells of a requested column are those that the table has in it. -/
private theorem rows_wanted (hoffers : t.Offers names) : (t.wanted names).rows =
    t.rows.map fun row => (t.offered names).map (View.own.cell t row) := by
  have hne : (t.offered names).isEmpty = false := by
    rw [List.isEmpty_eq_false_iff]
    exact offers_iff.1 hoffers
  rw [wanted_of_offers hoffers, View.select_eq_table fun n hn => (mem_offered.1 hn).2, View.table,
    hne]
  rfl

/-- The columns of a stack are those that all tables have and that can be stacked. -/
private theorem hasColumn_stacked (hne : tables ≠ []) (name : String) :
    (stacked tables).hasColumn name =
    ((tables.all fun t => t.hasColumn name) && stackable (typesOf tables name)) := by
  obtain ⟨t, rest, rfl⟩ := List.exists_cons_of_ne_nil hne
  rw [Bool.eq_iff_iff, ← mem_names_iff, names_stacked, stackedNames, List.mem_filter,
    mem_common_iff, Bool.and_eq_true, List.all_eq_true]
  simp only [mem_names_iff]

/-- The rows of a stack that has columns. -/
private theorem rows_stacked (h : (stackedNames tables).isEmpty = false) : (stacked tables).rows =
    tables.flatMap fun t => t.rows.map fun row => (stackedNames tables).map fun n =>
      stackedCell (typesOf tables n) (View.own.type t n) (View.own.cell t row n) := by
  rw [stacked, h]
  rfl

/-- A cell of a requested column comes to the same whether the table is cut down to the request
    before it is stacked or after. -/
private theorem cell_stacked_wanted (hoffers : t.Offers names) (hoffered : name ∈ t.offered names)
    (hstacked : name ∈ stackedNames tables) (row : List Cell) :
    View.own.cell (stacked tables) ((stackedNames tables).map fun n =>
        stackedCell (typesOf tables n) (View.own.type t n) (View.own.cell t row n)) name =
      stackedCell (typesOf (tables.map (wanted names)) name)
        (View.own.type (t.wanted names) name)
        (View.own.cell (t.wanted names) ((t.offered names).map (View.own.cell t row)) name) := by
  have hname := (mem_offered.1 hoffered).1
  rw [View.own_cell_map (names_stacked tables) hstacked,
    View.own_cell_map (names_wanted hoffers) hoffered, View.own_type, View.own_type,
    typeOf?_wanted hname, typesOf_wanted hname]

/-- Where all tables have a requested column, a request is a choice among the columns of the
    stack. -/
theorem stacked_wanted (hne : tables ≠ []) (hoffers : ∀ t ∈ tables, t.Offers names) :
    stacked (tables.map (wanted names)) = (stacked tables).select (distinct names) := by
  have hkept : (distinct names).filter (stacked tables).hasColumn =
      stackedNames (tables.map (wanted names)) := by
    rw [stackedNames_wanted hne hoffers]
    exact List.filter_congr fun n _ => hasColumn_stacked hne n
  have hmem : ∀ n ∈ stackedNames (tables.map (wanted names)),
      n ∈ names ∧ n ∈ stackedNames tables := by
    intro n hn
    rw [← hkept, List.mem_filter, mem_distinct] at hn
    exact ⟨hn.1, names_stacked tables ▸ mem_names_iff.2 hn.2⟩
  rw [select_eq_select_filter, hkept,
    View.select_eq_table fun n hn => (names_stacked tables).symm ▸ (hmem n hn).2, View.table,
    stacked]
  generalize stackedNames (tables.map (wanted names)) = kept at hmem
  -- the columns have the same types, and the rows the same cells
  refine congrArg₂ Table.mk ?_ ?_
  · refine List.map_congr_left fun n hn => ?_
    rw [View.own_type, View.typeOf?_of_columns_eq (u := stacked tables) rfl (hmem n hn).2,
      typesOf_wanted (hmem n hn).1]
    rfl
  · cases hempty : kept.isEmpty with
    | true => rfl
    | false =>
      -- some column is left, so the stack has rows
      obtain ⟨n, hn⟩ := List.exists_mem_of_ne_nil kept (List.isEmpty_eq_false_iff.1 hempty)
      rw [rows_stacked (List.isEmpty_eq_false_iff.2 (List.ne_nil_of_mem (hmem n hn).2)),
        List.map_flatMap, List.flatMap_map]
      simp only [Bool.false_eq_true, if_false]
      refine List.flatMap_congr fun t ht => ?_
      rw [rows_wanted (hoffers t ht), List.map_map, List.map_map]
      refine List.map_congr_left fun row _ => List.map_congr_left fun n hn => ?_
      obtain ⟨hname, hstacked⟩ := hmem n hn
      -- the name is in the whole stack, so every table has the column
      have hcolumn : t.hasColumn n = true := by
        rw [← names_stacked, mem_names_iff, hasColumn_stacked hne, Bool.and_eq_true,
          List.all_eq_true] at hstacked
        exact hstacked.1 t ht
      exact (cell_stacked_wanted (hoffers t ht) (mem_offered.2 ⟨hname, mem_names_iff.2 hcolumn⟩)
        hstacked row).symm

/-- So it is for the stack that is put together, as long as the tables are as they are stored. -/
private theorem stack_wanted {requested requested' : List String} {whole part : Table}
    (hne : tables ≠ [])
    (hoffers : ∀ t ∈ tables, t.Offers names) (hwf : ∀ t ∈ tables, t.WellFormed)
    (hwhole : (stack tables requested).result = .ok whole)
    (hpart : (stack (tables.map (wanted names)) requested').result = .ok part) :
    part = whole.select (distinct names) := by
  have htexts := hasTexts_of_stack hwhole
  have hne' : tables.map (wanted names) ≠ [] := by rwa [ne_eq, List.map_eq_nil_iff]
  have hwf' : ∀ t ∈ tables.map (wanted names), t.WellFormed := by
    intro u hu
    obtain ⟨t, ht, rfl⟩ := List.mem_map.1 hu
    exact (hwf t ht).wanted names
  -- both stacks are what `stacked` says, whatever was requested in the messages
  obtain ⟨hstack, -⟩ := stack_drifted hne hwf htexts requested
  obtain rfl := Except.ok.inj (hwhole.symm.trans hstack)
  obtain ⟨hstack', -⟩ := stack_drifted hne' hwf' (hasTexts_of_stack hpart) requested'
  rw [← stacked_wanted hne hoffers]
  exact Except.ok.inj (hpart.symm.trans hstack')

/-- What a request for columns comes to, by the tables that are stacked; without the request their
    stack is `whole`. -/
structure Projects (names : List String) (tables : List Table) (whole part : Table) : Prop where
  /-- No tables: the requested columns, without types. -/
  of_nil : tables = [] → part = ⟨(distinct names).map fun n => ⟨n, .null⟩, []⟩
  /-- All tables have a requested column: the columns that all have and that can be stacked, in the
  order of the request. -/
  of_all : tables ≠ [] → (∀ t ∈ tables, t.Offers names) → part.names =
    (distinct names).filter fun n =>
      (tables.all fun t => t.hasColumn n) && stackable (typesOf tables n)
  /-- They are then a choice among the columns of the stack. -/
  select_of_all : tables ≠ [] → (∀ t ∈ tables, t.Offers names) → (∀ t ∈ tables, t.WellFormed) →
    part = whole.select (distinct names)
  /-- Some tables have a requested column, and some have none: no columns. -/
  of_mixed : (∃ t ∈ tables, t.Offers names) → (∃ t ∈ tables, ¬ t.Offers names) → part.columns = []
  /-- No table has a requested column: all columns. -/
  of_none : tables ≠ [] → (∀ t ∈ tables, ¬ t.Offers names) → part = whole

/-- A request for columns comes to a choice among the columns of the stack, in each of the four
    cases. -/
theorem projects_stack {whole part : Table} (hwhole : (stack tables []).result = .ok whole)
    (hpart : (stack (tables.map (wanted names)) names).result = .ok part) :
    Projects names tables whole part := by
  have hne' : tables ≠ [] → tables.map (wanted names) ≠ [] := by
    rw [ne_eq, ne_eq, List.map_eq_nil_iff]
    exact id
  -- no tables; the names; the whole result; some tables with requested columns; none with any
  refine ⟨?_, ?_, ?_, ?_, ?_⟩
  · rintro rfl
    exact (Except.ok.inj hpart).symm
  · intro hne hoffers
    rw [names_stack (hne' hne) hpart, stackedNames_wanted hne hoffers]
  · exact fun hne hoffers hwf => stack_wanted hne hoffers hwf hwhole hpart
  · rintro ⟨u, hu, hoffers⟩ ⟨v, hv, hnot⟩
    rw [← names_eq_nil_iff, names_stack (hne' (List.ne_nil_of_mem hu)) hpart,
      stackedNames_wanted_of_mixed hu hv hoffers hnot]
  · intro hne hnone
    -- no table is changed, and so neither is the stack
    have hsame : tables.map (wanted names) = tables := by
      conv_rhs => rw [← List.map_id tables]
      exact List.map_congr_left fun t ht => wanted_of_not_offers (hnone t ht)
    rw [hsame, stack_requested hne names [], hwhole] at hpart
    exact (Except.ok.inj hpart).symm

end Table

end SharedTables
