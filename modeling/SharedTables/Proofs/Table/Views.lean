import Mathlib
import SharedTables.Proofs.Table.SameColumns
import SharedTables.Proofs.Table.Stacking

/-!
# Tables by the names of their columns

Where tables are put below each other their columns are told apart by name.  A `View` says what
tables hold under each name, and `View.table` shows some of it as a table again.  What is done to
tables on the way to a stack is done to what they show column by column.

## Key results

- `select_eq_table`: keeping columns shows them
- `table_withoutColumn`, `table_withTextColumn`, `castTo_table`: what operations do to what is shown
- `stackAligned?_tables`, `unifyAll?_of_stackAligned?`: when views can be put below each other, and
  what comes of it
-/

namespace SharedTables

namespace Table

/-- What tables hold under names: the type of a column, and the cells of rows. -/
structure View where
  type : Table → String → DataType
  cell : Table → Row → String → Cell

namespace View

/-- What tables hold by themselves. -/
def own : View where
  type t name := (t.typeOf? name).getD .null
  cell t row name := (t.indexOf? name).elim .null (Row.cell row)

/-- What a table holds by itself has the type of its column. -/
theorem own_type (t : Table) (name : String) : own.type t name = (t.typeOf? name).getD .null := rfl

/-- It is the cell at the place of its column. -/
theorem own_cell (t : Table) (row : Row) (name : String) :
    own.cell t row name = (t.indexOf? name).elim .null (Row.cell row) := rfl

/-- The view with the cells of one column replaced by their texts. -/
def withText (v : View) (name : String) : View where
  type t n := if n = name then .string else v.type t n
  cell t row n :=
    if n = name then ((v.cell t row n).text? (v.type t n)).elim .null .text else v.cell t row n

/-- The view with its cells cast to the given types. -/
def cast (v : View) (type : String → DataType) : View where
  type _ := type
  cell t row n := (v.cell t row n).cast (v.type t n) (type n)

/-- The columns of the given names, as the view has them for a table. -/
def table (v : View) (names : List String) (t : Table) : Table where
  columns := names.map fun n => ⟨n, v.type t n⟩
  rows := if names.isEmpty then [] else t.rows.map fun row => names.map (v.cell t row)

variable {v w : View} {t : Table} {names kept : List String} {name : String}

/-- The columns that are shown have the names that were asked for. -/
theorem names_table (v : View) (names : List String) (t : Table) :
    (v.table names t).names = names := by
  rw [Table.names, table, List.map_map]
  exact List.map_id names

/-- Views that have the same under all names show the same tables. -/
theorem table_congr (htype : ∀ n ∈ names, v.type t n = w.type t n)
    (hcell : ∀ n ∈ names, ∀ row ∈ t.rows, v.cell t row n = w.cell t row n) :
    v.table names t = w.table names t := by
  have hcolumns : names.map (fun n => Column.mk n (v.type t n)) =
      names.map fun n => ⟨n, w.type t n⟩ :=
    List.map_congr_left fun n hn => congrArg (Column.mk n) (htype n hn)
  have hrows : t.rows.map (fun row => names.map (v.cell t row)) =
      t.rows.map fun row => names.map (w.cell t row) :=
    List.map_congr_left fun row hrow => List.map_congr_left fun n hn => hcell n hn row hrow
  rw [table, table, hcolumns, hrows]

/-- The rows of one view are those of another if what is done to them leads from one to the
    other. -/
private theorem map_rows_table {f : Row → Row}
    (h : ∀ row, f (names.map (v.cell t row)) = names.map (w.cell t row)) :
    (v.table names t).rows.map f = (w.table names t).rows := by
  cases hempty : names.isEmpty with
  | true => simp [table, hempty]
  | false =>
    simp only [table, hempty, Bool.false_eq_true, if_false, List.map_map]
    exact List.map_congr_left fun row _ => h row

/-! ### Looking up names -/

/-- A column that is listed under a name has the type that is listed with it. -/
theorem typeOf?_of_columns_eq {u : Table} {type : String → DataType}
    (hcolumns : u.columns = names.map fun n => ⟨n, type n⟩) (h : name ∈ names) :
    u.typeOf? name = some (type name) := by
  have hmem : name ∈ u.names := by
    rw [Table.names, hcolumns, List.map_map]
    exact List.mem_map.2 ⟨name, h, rfl⟩
  obtain ⟨c, hc⟩ := Option.isSome_iff_exists.1 (mem_names_iff.1 hmem)
  -- the column that is found is one of those that are listed
  have hlisted := List.mem_of_find?_eq_some hc
  rw [hcolumns] at hlisted
  obtain ⟨n, -, rfl⟩ := List.mem_map.1 hlisted
  obtain rfl : n = name := name_of_column? hc
  rw [typeOf?, hc]
  rfl

/-- A column that is shown has the type that the view has for it. -/
private theorem typeOf?_table (h : name ∈ names) :
    (v.table names t).typeOf? name = some (v.type t name) :=
  typeOf?_of_columns_eq rfl h

/-- In a row that has a cell for each name, the cell of a column is the one for its name. -/
theorem own_cell_map {u : Table} (hnames : u.names = names) (h : name ∈ names)
    (cell : String → Cell) : own.cell u (names.map cell) name = cell name := by
  obtain ⟨place, hplace⟩ :=
    exists_indexOf?_of_hasColumn (mem_names_iff.1 (hnames.symm ▸ h : name ∈ u.names))
  rw [own_cell, hplace, Option.elim_some]
  -- the name at the place is the one that is looked up
  obtain ⟨hlt, hname, -⟩ := List.findIdx?_eq_some_iff_getElem.1 hplace
  subst hnames
  have hlength : place < u.names.length := by simpa [Table.names] using hlt
  obtain rfl : u.names[place] = name := by simpa [Table.names] using hname
  rw [Row.cell, List.getD_eq_getElem _ _ (by simpa using hlength), List.getElem_map]

/-- Where a view shows a column, the cells of its rows are those of the view. -/
private theorem own_cell_table (h : name ∈ names) (row : Row) :
    own.cell (v.table names t) (names.map (v.cell t row)) name = v.cell t row name :=
  own_cell_map (names_table v names t) h _

/-! ### Operations on tables -/

/-- Keeping columns shows them. -/
theorem select_eq_table (h : ∀ n ∈ kept, n ∈ t.names) : t.select kept = own.table kept t := by
  have hcolumn : ∀ n ∈ kept, t.column? n = some ⟨n, own.type t n⟩ := by
    intro n hn
    obtain ⟨c, hc⟩ := Option.isSome_iff_exists.1 (mem_names_iff.1 (h n hn))
    obtain rfl : c.name = n := name_of_column? hc
    simp [own, typeOf?, hc]
  have hplace : ∀ n ∈ kept, t.indexOf? n = some ((t.indexOf? n).getD 0) := by
    intro n hn
    cases hfound : t.indexOf? n with
    | none =>
      rw [← column?_eq_none_iff, hcolumn n hn] at hfound
      cases hfound
    | some place => rfl
  -- so all places are there
  have hplaces : kept.filterMap t.indexOf? = kept.map fun n => (t.indexOf? n).getD 0 := by
    rw [List.filterMap_congr hplace, List.filterMap_eq_map']
  have hcells : ∀ row, (kept.map fun n => (t.indexOf? n).getD 0).map (Row.cell row) =
      kept.map (own.cell t row) := by
    intro row
    rw [List.map_map]
    refine List.map_congr_left fun n hn => ?_
    rw [own_cell, hplace n hn]
    rfl
  refine congrArg₂ Table.mk ?_ ?_
  · -- every name that is kept is found
    have hcolumns := t.columns_select kept
    rwa [List.filterMap_congr hcolumn, List.filterMap_eq_map'] at hcolumns
  · rw [hplaces, List.isEmpty_map]
    simp only [hcells]

/-- Keeping columns of a view shows fewer. -/
private theorem select_table (h : ∀ n ∈ kept, n ∈ names) :
    (v.table names t).select kept = v.table kept t := by
  have hnames : ∀ n ∈ kept, n ∈ (v.table names t).names := by rwa [names_table]
  rw [select_eq_table hnames]
  refine congrArg₂ Table.mk ?_ ?_
  · refine List.map_congr_left fun n hn => ?_
    rw [own_type, typeOf?_table (h n hn), Option.getD_some]
  · cases kept with
    | nil => rfl
    | cons n rest =>
      have hne : names.isEmpty = false := by
        rw [List.isEmpty_eq_false_iff]
        exact List.ne_nil_of_mem (h n (List.mem_cons_self ..))
      have hrows : (v.table names t).rows = t.rows.map fun row => names.map (v.cell t row) := by
        rw [table, hne]
        rfl
      -- each cell is found again under its name
      rw [hrows, List.map_map, List.isEmpty_cons]
      refine List.map_congr_left fun row _ => List.map_congr_left fun m hm => ?_
      exact own_cell_table (h m hm) row

/-- Dropping a column of a view shows the others. -/
theorem table_withoutColumn (v : View) (names : List String) (t : Table) (name : String) :
    (v.table names t).withoutColumn name = v.table (names.filter fun n => n != name) t := by
  rw [withoutColumn, names_table]
  exact select_table fun n hn => List.mem_of_mem_filter hn

/-- Making a column of a view one of texts shows it as texts. -/
theorem table_withTextColumn (v : View) (names : List String) (t : Table) (name : String) :
    (v.table names t).withTextColumn name = (v.withText name).table names t := by
  refine congrArg₂ Table.mk ?_ (map_rows_table fun row => ?_)
  · rw [table, List.map_map]
    refine List.map_congr_left fun n _ => ?_
    simp only [Function.comp_apply, withText]
    split <;> rfl
  · rw [table, List.zip_map', List.map_map]
    rfl

/-- Casting the columns of a view shows them cast. -/
theorem castTo_table (v : View) (names : List String) (t : Table) (type : String → DataType) :
    (v.table names t).castTo (names.map type) = (v.cast type).table names t := by
  refine congrArg₂ Table.mk ?_ (map_rows_table fun row => ?_)
  · rw [table, List.zip_map', List.map_map]
    rfl
  · rw [table, List.zip_map', List.zip_map', List.map_map]
    rfl

/-! ### Views of several tables -/

/-- The types of a column in a view of tables. -/
def types (v : View) (tables : List Table) (name : String) : List DataType :=
  tables.map fun t => v.type t name

variable {tables : List Table}

/-- The types of a column that is shown are those that the view has for it. -/
theorem typesOf_tables (h : name ∈ names) :
    typesOf (tables.map (v.table names)) name = v.types tables name := by
  rw [typesOf, List.filterMap_map, types, ← List.filterMap_eq_map']
  exact List.filterMap_congr fun t _ => typeOf?_table h

/-- Views can be put below each other if every column has a common type, and then their cells are
    cast to it. -/
theorem stackAligned?_tables (hne : tables ≠ []) {type : String → DataType}
    (htype : ∀ n ∈ names, DataType.unifyAll? (v.types tables n) = some (type n)) :
    stackAligned? (tables.map (v.table names)) =
      some ⟨names.map fun n => ⟨n, type n⟩,
        tables.flatMap fun t => ((v.cast type).table names t).rows⟩ := by
  -- the common types are those of all columns
  have hunified : unifiedTypes? (tables.map (v.table names)) names = some (names.map type) := by
    refine Run.mapM_eq_some_map fun n hn => ?_
    rw [typesOf_tables hn, htype n hn]
  -- the first view has the names, and all views are cast to the common types
  cases tables with
  | nil => exact absurd rfl hne
  | cons t rest =>
    rw [List.map_cons] at hunified
    rw [List.map_cons, stackAligned?, names_table, hunified]
    simp only [Option.bind_eq_bind, Option.bind_some, Option.pure_def, Option.some.injEq]
    refine congrArg₂ Table.mk ?_ ?_
    · rw [castTo_table]
      rfl
    · rw [← List.map_cons (f := v.table names), List.map_map, List.flatMap_map]
      simp only [Function.comp_apply, castTo_table]

/-- Only views whose columns all have common types can be put below each other. -/
theorem unifyAll?_of_stackAligned? {u : Table}
    (h : stackAligned? (tables.map (v.table names)) = some u) (hn : name ∈ names) :
    ∃ type, DataType.unifyAll? (v.types tables name) = some type := by
  cases tables with
  | nil => cases h
  | cons t rest =>
    obtain ⟨types, htypes, -⟩ := Option.bind_eq_some_iff.1 h
    rw [names_table] at htypes
    have hunified := Run.map_eq_of_mapM_eq_some htypes
    have hmem := List.mem_map_of_mem
      (f := fun n => DataType.unifyAll? (typesOf ((t :: rest).map (v.table names)) n)) hn
    rw [← List.map_cons (f := v.table names)] at hunified
    rw [hunified, typesOf_tables hn] at hmem
    obtain ⟨type, -, htype⟩ := List.mem_map.1 hmem
    exact ⟨type, htype.symm⟩

end View

end Table

end SharedTables
