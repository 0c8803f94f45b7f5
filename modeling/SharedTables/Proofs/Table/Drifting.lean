import Mathlib
import SharedTables.Proofs.Table.Views

/-!
# Stacks of tables whose columns have drifted

Tables that were written at different times need not have the same columns, nor columns of the same
types.  Their stack is there all the same, as long as the cells that are to become texts have texts:
it has the columns that all tables have, each with the common type of its types or as texts, and
without those that have neither.

Columns are settled one after another, and each on tables in which others have been settled before.
The step lemma says what settling one column does to a view of the tables, the run lemma what
settling all of them comes to: no column is affected by what is done to another.

## Key results

- `View.settleColumn_tables`, `View.settle_tables`: settling one column, and settling all
- `stackAligned?_settled`: settled tables can always be put below each other
- `stack_drifted`: what the stack of tables is, and that both ways to it agree
-/

namespace SharedTables

/-- Lists without a text: those of lists, arrays or structs. -/
inductive DataType.ListsNested : DataType → Prop
  | list {item : DataType} (nested : item.isNested = true) : ListsNested (.list item)
  | array {item : DataType} {width : Nat} (nested : item.isNested = true) :
      ListsNested (.array item width)

private theorem DataType.textForm_eq_absent_iff {type : DataType} :
    type.textForm = .absent ↔ type.ListsNested := by
  constructor
  · intro h
    -- a list has no texts for the sake of its items alone
    have hitem : ∀ item : DataType, textForm.ofItem item = .absent → item.isNested = true := by
      intro item h
      unfold textForm.ofItem at h
      split at h
      · assumption
      · split at h <;> cases h
    cases type with
    | list item => exact .list (hitem item h)
    | array item width => exact .array (hitem item h)
    | _ => cases h
  · intro h
    cases h with
    | list nested => exact if_pos nested
    | array nested => exact if_pos nested

namespace Table

/-- The type of a column in a stack. -/
def stackedType (types : List DataType) : DataType :=
  (DataType.unifyAll? types).getD .string

/-- A cell as it stands in a stack: cast to the common type, or as a text if there is none. -/
def stackedCell (types : List DataType) (type : DataType) (cell : Cell) : Cell :=
  match DataType.unifyAll? types with
  | some common => cell.cast type common
  | none => (cell.text? type).elim .null .text

/-- The stack of tables, column by column: the rows of one table below those of the one before. -/
def stacked (tables : List Table) : Table where
  columns := (stackedNames tables).map fun n => ⟨n, stackedType (typesOf tables n)⟩
  rows :=
    if (stackedNames tables).isEmpty then []
    else tables.flatMap fun t => t.rows.map fun row => (stackedNames tables).map fun n =>
      stackedCell (typesOf tables n) (View.own.type t n) (View.own.cell t row n)

/-- The columns that are stacked as texts have texts in all tables. -/
def HasTexts (types : List DataType) : Prop :=
  DataType.unifyAll? types = none → stackable types = true →
    ∀ type ∈ types, type.textForm ≠ .undefined

/-- What settling a column comes to, if it has texts where it needs them. -/
private theorem result_settleColumn {tables : List Table} {name : String}
    (htexts : HasTexts (typesOf tables name)) :
    (settleColumn tables name).result =
      .ok (if DataType.unifyAll? (typesOf tables name) ≠ none then tables
        else if stackable (typesOf tables name) then tables.map fun t => t.withTextColumn name
        else tables.map fun t => t.withoutColumn name) := by
  rw [settleColumn]
  dsimp only
  cases hunified : DataType.unifyAll? (typesOf tables name) with
  | some type => rfl
  | none =>
    cases habsent : (typesOf tables name).any fun type => type.textForm == .absent with
    | true =>
      -- some type has no texts, so the column is left out
      have hstackable : stackable (typesOf tables name) = false := by
        rw [stackable, hunified, habsent]
        rfl
      rw [hstackable]
      rfl
    | false =>
      have hstackable : stackable (typesOf tables name) = true := by
        rw [stackable, habsent, Bool.not_false, Bool.or_true]
      -- every cell has a text or is null, so no failure is left
      have hdefined : (typesOf tables name).any (fun type => type.textForm == .undefined) =
          false := by
        simpa using htexts hunified hstackable
      rw [hstackable, hdefined]
      rfl

namespace View

/-- The view in which those of the columns that have no common type are texts. -/
def settled (v : View) (tables : List Table) (done : List String) : View where
  type t n :=
    if n ∈ done ∧ DataType.unifyAll? (v.types tables n) = none then .string else v.type t n
  cell t row n :=
    if n ∈ done ∧ DataType.unifyAll? (v.types tables n) = none then
      ((v.cell t row n).text? (v.type t n)).elim .null .text
    else v.cell t row n

variable {v : View} {tables : List Table} {names done : List String} {name : String}

/-- A column that is not to be settled, or has a common type, is what it was. -/
private theorem types_settled
    (h : ¬ (name ∈ done ∧ DataType.unifyAll? (v.types tables name) = none)) :
    (v.settled tables done).types tables name = v.types tables name :=
  List.map_congr_left fun _ _ => if_neg h

/-- So are tables where every column to be settled has a common type. -/
private theorem table_settled
    (h : ∀ n ∈ names, n ∈ done → DataType.unifyAll? (v.types tables n) ≠ none) :
    (v.settled tables done).table names = v.table names := by
  have hnot : ∀ n ∈ names, ¬ (n ∈ done ∧ DataType.unifyAll? (v.types tables n) = none) :=
    fun n hn hdone => h n hn hdone.1 hdone.2
  funext t
  exact table_congr (fun n hn => if_neg (hnot n hn)) fun n hn _ _ => if_neg (hnot n hn)

/-- A single column without a common type becomes one of texts. -/
private theorem table_settled_singleton (h : DataType.unifyAll? (v.types tables name) = none) :
    (v.settled tables [name]).table names = (v.withText name).table names := by
  have hiff : ∀ n, (n ∈ [name] ∧ DataType.unifyAll? (v.types tables n) = none) ↔ n = name := by
    intro n
    rw [List.mem_singleton, and_iff_left_iff_imp]
    rintro rfl
    exact h
  funext t
  apply table_congr
  · intro n _
    simp only [settled, withText, hiff]
  · intro n _ row _
    simp only [settled, withText, hiff]

/-! ### Settling -/

/-- Settling one column: it is kept as it is, kept as texts, or left out. -/
theorem settleColumn_tables (hname : name ∈ names) (htexts : HasTexts (v.types tables name)) :
    (settleColumn (tables.map (v.table names)) name).result =
      .ok (tables.map ((v.settled tables [name]).table
        (names.filter fun n => n != name || stackable (v.types tables name)))) := by
  rw [result_settleColumn (by rwa [typesOf_tables hname]), typesOf_tables hname]
  congr 1
  split
  · rename_i hunified
    have hstackable : stackable (v.types tables name) = true := by
      rw [stackable, Option.isSome_iff_ne_none.2 hunified, Bool.true_or]
    have hsame : (v.settled tables [name]).table names = v.table names := by
      refine table_settled fun n _ hn => ?_
      rwa [List.mem_singleton.1 hn]
    simp only [hstackable, Bool.or_true, List.filter_true, hsame]
  · rename_i hunified
    split
    · rename_i hstackable
      simp only [hstackable, Bool.or_true, List.filter_true, List.map_map, Function.comp_def,
        table_withTextColumn, table_settled_singleton (not_not.1 hunified)]
    · rename_i hstackable
      rw [Bool.not_eq_true] at hstackable
      -- the column that is left out is the only one that would be settled
      have hsame : (v.settled tables [name]).table (names.filter fun n => n != name) =
          v.table (names.filter fun n => n != name) := by
        refine table_settled fun n hn hdone => ?_
        simp only [List.mem_filter, bne_iff_ne] at hn
        exact absurd (List.mem_singleton.1 hdone) hn.2
      simp only [hstackable, Bool.or_false, hsame, List.map_map, Function.comp_def,
        table_withoutColumn]

/-- Settling further columns after one settles them all. -/
private theorem settled_settled {rest : List String} (hnotMem : name ∉ rest) :
    (v.settled tables [name]).settled tables rest = v.settled tables (name :: rest) := by
  -- the name settled first is none of the rest, so either side settles the same names
  have hsame : ∀ n, (n ∈ rest ∧
      DataType.unifyAll? ((v.settled tables [name]).types tables n) = none) ↔
        n ∈ rest ∧ DataType.unifyAll? (v.types tables n) = none := by
    intro n
    refine and_congr_right fun hn => ?_
    rw [types_settled]
    rintro ⟨hname, -⟩
    exact hnotMem (List.mem_singleton.1 hname ▸ hn)
  refine congrArg₂ View.mk ?_ ?_
  · funext t n
    simp only [hsame]
    by_cases hn : n = name
    · simp [settled, hn, hnotMem]
    · simp [settled, hn]
  · funext t row n
    simp only [hsame]
    by_cases hn : n = name
    · simp [settled, hn, hnotMem]
    · simp [settled, hn]

/-- Settling columns one after another settles each as if it were the only one. -/
theorem settle_tables {todo : List String} (hnodup : todo.Nodup) (hnames : ∀ n ∈ todo, n ∈ names)
    (htexts : ∀ n ∈ todo, HasTexts (v.types tables n)) :
    (settle (tables.map (v.table names)) todo).result =
      .ok (tables.map ((v.settled tables todo).table
        (names.filter fun n => !todo.contains n || stackable (v.types tables n)))) := by
  induction todo generalizing v names with
  | nil =>
    have hsame : (v.settled tables []).table names = v.table names :=
      table_settled fun n _ hn => absurd hn List.not_mem_nil
    simp only [List.contains_nil, Bool.not_false, Bool.true_or, List.filter_true, hsame]
    rfl
  | cons name rest ih =>
    rw [List.nodup_cons] at hnodup
    rw [List.forall_mem_cons] at hnames htexts
    -- the columns still to come are what they were before this one was settled
    have htypes : ∀ n, n ≠ name →
        (v.settled tables [name]).types tables n = v.types tables n :=
      fun n hn => types_settled fun h => hn (List.mem_singleton.1 h.1)
    have hne : ∀ n ∈ rest, n ≠ name := by
      rintro n hn rfl
      exact hnodup.1 hn
    have hrest := @ih (v.settled tables [name])
      (names.filter fun n => n != name || stackable (v.types tables name)) hnodup.2 ?_ ?_
    · have hkeep : ∀ n, ((!rest.contains n ||
          stackable ((v.settled tables [name]).types tables n)) &&
            (n != name || stackable (v.types tables name))) =
          (!(name :: rest).contains n || stackable (v.types tables n)) := by
        intro n
        by_cases hn : n = name
        · simp [hn, hnodup.1]
        · simp [hn, htypes n hn]
      rw [settle, Run.result_bind_of_ok (settleColumn_tables hnames.1 htexts.1), hrest,
        List.filter_filter, settled_settled hnodup.1]
      simp only [hkeep]
    · intro n hn
      simp [hne n hn, hnames.2 n hn]
    · intro n hn
      rw [htypes n (hne n hn)]
      exact htexts.2 n hn

/-- A cell of a settled column is cast to the type of the column in the stack. -/
private theorem cast_settled (hname : name ∈ done) (t : Table) (row : Row) :
    ((v.settled tables done).cast fun n => stackedType (v.types tables n)).cell t row name =
      stackedCell (v.types tables name) (v.type t name) (v.cell t row name) := by
  cases hunified : DataType.unifyAll? (v.types tables name) with
  | some type => simp [cast, settled, stackedType, stackedCell, hunified]
  | none =>
    simp only [cast, settled, stackedType, stackedCell, hunified, hname, true_and, if_true,
      Option.getD_none]
    -- what is a text already is not changed by the cast
    cases (v.cell t row name).text? (v.type t name) with
    | none => exact Cell.cast_self .null
    | some text => exact Cell.cast_self .string

/-- Settled columns have common types. -/
private theorem unifyAll?_settled (hne : tables ≠ []) (hname : name ∈ done) :
    DataType.unifyAll? ((v.settled tables done).types tables name) =
      some (stackedType (v.types tables name)) := by
  cases hunified : DataType.unifyAll? (v.types tables name) with
  | some type =>
    -- settling leaves the column alone
    rw [types_settled, stackedType, hunified, Option.getD_some]
    rintro ⟨-, hnone⟩
    rw [hunified] at hnone
    cases hnone
  | none =>
    -- the column is one of texts in every table
    rw [stackedType, hunified, Option.getD_none]
    apply DataType.unifyAll?_same
    · simpa [types] using hne
    · intro type htype
      obtain ⟨t, -, rfl⟩ := List.mem_map.1 htype
      exact if_pos ⟨hname, hunified⟩

end View

/-! ### Stacks -/

variable {tables : List Table} {name : String}

/-- Every table has the common columns. -/
theorem mem_names_of_mem_common {t : Table} (ht : t ∈ tables) (hname : name ∈ common tables) :
    name ∈ t.names := by
  cases tables with
  | nil => cases ht
  | cons first rest => exact mem_common_iff.1 hname t ht

private theorem common_nodup (hwf : ∀ t ∈ tables, t.WellFormed) : (common tables).Nodup := by
  cases tables with
  | nil => exact .nil
  | cons t rest => exact (hwf t (List.mem_cons_self ..)).names_nodup.filter _

/-- The tables have the common columns, with the types that they have. -/
theorem typesOf_common (hname : name ∈ common tables) :
    typesOf tables name = View.own.types tables name := by
  rw [typesOf, View.types, ← List.filterMap_eq_map']
  refine List.filterMap_congr fun t ht => ?_
  obtain ⟨c, hc⟩ := Option.isSome_iff_exists.1
    (mem_names_iff.1 (mem_names_of_mem_common ht hname))
  rw [View.own_type, typeOf?, hc]
  rfl

/-- Before tables are put below each other they are cut down to their common columns. -/
theorem map_select_common (tables : List Table) :
    (tables.map fun t => t.select (common tables)) =
      tables.map (View.own.table (common tables)) := by
  refine List.map_congr_left fun t ht => ?_
  exact View.select_eq_table fun n hn => mem_names_of_mem_common ht hn

/-- The columns that are left are those that can be stacked. -/
private theorem settle_common (hwf : ∀ t ∈ tables, t.WellFormed)
    (htexts : ∀ n ∈ common tables, HasTexts (typesOf tables n)) :
    (settle (tables.map fun t => t.select (common tables)) (common tables)).result =
      .ok (tables.map ((View.own.settled tables (common tables)).table (stackedNames tables))) := by
  have htexts' : ∀ n ∈ common tables, HasTexts (View.own.types tables n) :=
    fun n hn => typesOf_common hn ▸ htexts n hn
  have hnames : ((common tables).filter fun n => !(common tables).contains n ||
      stackable (View.own.types tables n)) = stackedNames tables := by
    refine List.filter_congr fun n hn => ?_
    rw [typesOf_common hn]
    simp [hn]
  rw [map_select_common,
    View.settle_tables (common_nodup hwf) (fun _ => id) htexts', hnames]

/-- The stack, column by column, is what settled tables are below each other. -/
theorem stackAligned?_settled (hne : tables ≠ []) :
    stackAligned? (tables.map ((View.own.settled tables (common tables)).table
      (stackedNames tables))) = some (stacked tables) := by
  have hmem : ∀ n ∈ stackedNames tables, n ∈ common tables :=
    fun n hn => List.mem_of_mem_filter hn
  have htype : ∀ n ∈ stackedNames tables, DataType.unifyAll?
      ((View.own.settled tables (common tables)).types tables n) =
        some (stackedType (View.own.types tables n)) :=
    fun n hn => View.unifyAll?_settled hne (hmem n hn)
  rw [View.stackAligned?_tables hne htype, stacked]
  congr 1
  -- the columns have the common types, and the cells are cast to them
  refine congrArg₂ Table.mk ?_ ?_
  · refine List.map_congr_left fun n hn => ?_
    rw [typesOf_common (hmem n hn)]
  · cases hempty : (stackedNames tables).isEmpty with
    | true => simp [View.table, hempty]
    | false =>
      simp only [View.table, hempty, Bool.false_eq_true, if_false]
      refine List.flatMap_congr fun t ht => List.map_congr_left fun row _ =>
        List.map_congr_left fun n hn => ?_
      rw [typesOf_common (hmem n hn)]
      exact View.cast_settled (hmem n hn) t row

/-- Where tables can be put below each other as they are, settling changes nothing. -/
private theorem eq_stacked_of_stackAligned? (hne : tables ≠ []) {u : Table}
    (h : stackAligned? (tables.map fun t => t.select (common tables)) = some u) :
    u = stacked tables := by
  rw [map_select_common] at h
  have hunified : ∀ n ∈ common tables, DataType.unifyAll? (View.own.types tables n) ≠ none := by
    intro n hn
    obtain ⟨type, htype⟩ := View.unifyAll?_of_stackAligned? h hn
    rw [htype]
    exact Option.some_ne_none type
  -- all columns have a common type, so none is left out
  have hnames : stackedNames tables = common tables := by
    rw [stackedNames, List.filter_eq_self]
    intro n hn
    rw [stackable, typesOf_common hn, Option.isSome_iff_ne_none.2 (hunified n hn), Bool.true_or]
  have hstacked := stackAligned?_settled hne
  rw [hnames, View.table_settled fun n hn _ => hunified n hn, h] at hstacked
  exact Option.some.inj hstacked

/-- The stack of a single table is the table. -/
private theorem stacked_singleton {t : Table} (hwf : t.WellFormed) : stacked [t] = t := by
  have hselect : [t].map (fun u => u.select (common [t])) = [t] := by
    have hcommon : common [t] = t.names := by simp [common]
    rw [hcommon, List.map_singleton, hwf.select_self]
  have hsame : ∀ u ∈ [t], u.HasColumns t.columns := by
    intro u hu
    obtain rfl := List.mem_singleton.1 hu
    exact ⟨hwf, rfl⟩
  have haligned : stackAligned? ([t].map fun u => u.select (common [t])) = some t := by
    rw [hselect, stackAligned?_same (List.cons_ne_nil t []) hsame, List.flatMap_singleton]
  exact (eq_stacked_of_stackAligned? (List.cons_ne_nil t []) haligned).symm

theorem names_stacked (tables : List Table) : (stacked tables).names = stackedNames tables := by
  rw [Table.names, stacked, List.map_map]
  exact List.map_id _

/-- Which of the common columns are left out. -/
private theorem notMem_names_stacked_iff (hname : name ∈ common tables) :
    name ∉ (stacked tables).names ↔
      DataType.unifyAll? (typesOf tables name) = none ∧
        ∃ type ∈ typesOf tables name, type.ListsNested := by
  rw [names_stacked, stackedNames, List.mem_filter, and_iff_right hname, stackable,
    Bool.not_eq_true, Bool.or_eq_false_iff, Option.isSome_eq_false_iff, Option.isNone_iff_eq_none,
    Bool.not_eq_false', List.any_eq_true]
  simp only [beq_iff_eq, DataType.textForm_eq_absent_iff]

/-- The stack of tables is there, as long as cells that are to become texts have texts.  It has the
    common columns, apart from those that have neither a common type nor texts.  If the tables can
    be put below each other as they are, settling them first leads to the same. -/
theorem stack_drifted (hne : tables ≠ []) (hwf : ∀ t ∈ tables, t.WellFormed)
    (htexts : ∀ n ∈ common tables, HasTexts (typesOf tables n)) (requested : List String) :
    (stack tables requested).result = .ok (stacked tables) ∧
      (stacked tables).names.Sublist (common tables) ∧
      (∀ n ∈ common tables, n ∉ (stacked tables).names ↔
        DataType.unifyAll? (typesOf tables n) = none ∧
          ∃ type ∈ typesOf tables n, type.ListsNested) ∧
      ∀ u, stackAligned? (tables.map fun t => t.select (common tables)) = some u →
        ∃ settled, (settle (tables.map fun t => t.select (common tables))
            (common tables)).result = .ok settled ∧ stackAligned? settled = some u := by
  have hsettle := settle_common hwf htexts
  have hsettled := stackAligned?_settled hne
  refine ⟨?_, ?_, fun n => notMem_names_stacked_iff, ?_⟩
  · match tables with
    | [] => exact absurd rfl hne
    | [t] =>
      -- a single table is passed on without a look at its columns
      rw [stacked_singleton (hwf t (List.mem_cons_self ..))]
      rfl
    | t :: u :: rest =>
      unfold stack
      -- a warning about columns that are missing does not change the result
      simp only [apply_ite Run.result, Run.result_log_bind, ite_self]
      -- the direct way where all types agree, or else column by column; both give the same
      split
      · rename_i direct hdirect
        rw [eq_stacked_of_stackAligned? hne hdirect]
        rfl
      · rw [Run.result_bind_of_ok hsettle, hsettled]
        rfl
  · rw [names_stacked]
    exact List.filter_sublist
  · intro u hu
    rw [eq_stacked_of_stackAligned? hne hu]
    exact ⟨_, hsettle, hsettled⟩

/-- A column in another place, one that becomes texts, one that is left out and one of two
    widths. -/
theorem stack_drifted_columns :
    let t : Table := ⟨[⟨"id", .int64⟩, ⟨"x", .boolean⟩, ⟨"l", .list (.list .int64)⟩],
      [[.int 7, .bool true, .list [.list [.int 1]]]]⟩
    let u : Table := ⟨[⟨"l", .string⟩, ⟨"y", .string⟩, ⟨"x", .date⟩, ⟨"id", .int true 32⟩],
      [[.text "a", .null, .date 0, .int 8], [.null, .text "b", .null, .null]]⟩
    (stack [t, u] []).result = .ok ⟨[⟨"id", .int64⟩, ⟨"x", .string⟩],
      [[.int 7, .text "true"], [.int 8, .text "1970-01-01"], [.null, .null]]⟩ := by
  intro t u
  have ht : t.WellFormed := by
    refine ⟨by decide, ?_, nofun⟩
    intro row hrow
    obtain rfl := List.mem_singleton.1 hrow
    refine .cons (.int (by decide)) (.cons .boolean (.cons (.list fun c hc => ?_) .nil))
    obtain rfl := List.mem_singleton.1 hc
    refine .list fun c hc => ?_
    obtain rfl := List.mem_singleton.1 hc
    exact .int (by decide)
  have hu : u.WellFormed := by
    refine ⟨by decide, ?_, nofun⟩
    intro row hrow
    simp only [u, List.mem_cons, List.not_mem_nil, or_false] at hrow
    obtain rfl | rfl := hrow
    · exact .cons .string (.cons .null (.cons .date (.cons (.int (by decide)) .nil)))
    · exact .cons .null (.cons .string (.cons .null (.cons .null .nil)))
  have htexts : ∀ n ∈ common [t, u], ∀ type ∈ typesOf [t, u] n, type.textForm ≠ .undefined := by
    decide
  have h := (stack_drifted (List.cons_ne_nil t [u]) (by simp [ht, hu])
    (fun n hn _ _ => htexts n hn) []).1
  rw [h]
  rfl

end Table

end SharedTables
