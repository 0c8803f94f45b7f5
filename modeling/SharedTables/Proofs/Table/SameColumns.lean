import Mathlib
import SharedTables.Proofs.Run
import SharedTables.Proofs.Table.Values

/-!
# Stacks of tables that have the same columns

Tables that have the same columns are put below each other as they are.

## Key results

- `stackAligned?_same`: their columns have a common type, and no cell is cast to another
- `stack_same`: the stack has these columns and all rows in order
-/

namespace SharedTables

/-- A type is the common type of a column that has no other. -/
theorem DataType.unifyAll?_same {type : DataType} {types : List DataType} (hne : types ≠ [])
    (h : ∀ u ∈ types, u = type) : unifyAll? types = some type := by
  cases types with
  | nil => exact absurd rfl hne
  | cons first rest =>
    rw [List.forall_mem_cons] at h
    obtain ⟨rfl, hrest⟩ := h
    rw [unifyAll?]
    -- a type and itself have themselves as common type
    induction rest with
    | nil => rfl
    | cons u rest ih =>
      rw [List.forall_mem_cons] at hrest
      obtain ⟨rfl, hrest⟩ := hrest
      rw [List.foldlM_cons, unify?_self]
      exact ih (List.cons_ne_nil u rest) hrest

namespace Table

/-- The table is stored with the given columns. -/
structure HasColumns (columns : List Column) (t : Table) : Prop where
  wellFormed : t.WellFormed
  columns_eq : t.columns = columns

variable {columns : List Column} {tables : List Table}

theorem HasColumns.names_eq {t : Table} (h : t.HasColumns columns) :
    t.names = columns.map (·.name) := by
  rw [names, h.columns_eq]

theorem HasColumns.hasColumn {t : Table} (h : t.HasColumns columns) {name : String}
    (hname : name ∈ columns.map (·.name)) : t.hasColumn name = true := by
  rwa [← mem_names_iff, h.names_eq]

/-- All columns are common. -/
private theorem common_same {t : Table} {rest : List Table}
    (h : ∀ u ∈ t :: rest, u.HasColumns columns) : common (t :: rest) = t.names := by
  rw [List.forall_mem_cons] at h
  rw [common, List.filter_eq_self]
  intro name hname
  rw [h.1.names_eq] at hname
  exact List.all_eq_true.2 fun u hu => (h.2 u hu).hasColumn hname

/-- The columns have the types that they have in every table. -/
private theorem unifiedTypes?_same (hne : tables ≠ []) (h : ∀ t ∈ tables, t.HasColumns columns) :
    unifiedTypes? tables (columns.map (·.name)) = some (columns.map (·.type)) := by
  obtain ⟨t, ht⟩ := List.exists_mem_of_ne_nil tables hne
  have hnodup : (columns.map (·.name)).Nodup := by
    rw [← (h t ht).names_eq]
    exact (h t ht).wellFormed.names_nodup
  have hunified : ∀ c ∈ columns, DataType.unifyAll? (typesOf tables c.name) = some c.type := by
    intro c hc
    -- names are distinct, so every table finds this column under the name
    have htype : ∀ u ∈ tables, u.typeOf? c.name = some c.type := by
      intro u hu
      rw [typeOf?, column?, (h u hu).columns_eq, find?_of_nodup hnodup hc]
      rfl
    refine DataType.unifyAll?_same ?_ fun type htypes => ?_
    · exact List.ne_nil_of_mem (List.mem_filterMap.2 ⟨t, ht, htype t ht⟩)
    · obtain ⟨u, hu, hfound⟩ := List.mem_filterMap.1 htypes
      exact Option.some.inj (hfound.symm.trans (htype u hu))
  rw [unifiedTypes?, List.mapM_map]
  exact Run.mapM_eq_some_map hunified

/-- The tables are put below each other as they are. -/
theorem stackAligned?_same (hne : tables ≠ []) (h : ∀ t ∈ tables, t.HasColumns columns) :
    stackAligned? tables = some ⟨columns, tables.flatMap rows⟩ := by
  cases tables with
  | nil => exact absurd rfl hne
  | cons t rest =>
    have hcast : ∀ u ∈ t :: rest, u.castTo (columns.map (·.type)) = u := by
      intro u hu
      rw [← (h u hu).columns_eq]
      exact (h u hu).wellFormed.castTo_self
    have ht := h t (List.mem_cons_self ..)
    rw [stackAligned?, ht.names_eq, unifiedTypes?_same hne h]
    simp only [Option.bind_eq_bind, Option.bind_some, Option.pure_def]
    rw [hcast t (List.mem_cons_self ..), ht.columns_eq, List.map_congr_left hcast, List.map_id']

/-- The stack of tables that have the same columns has these columns and all rows in order. -/
theorem stack_same (requested : List String) (hne : tables ≠ [])
    (h : ∀ t ∈ tables, t.HasColumns columns) :
    (stack tables requested).result = .ok ⟨columns, tables.flatMap rows⟩ := by
  match tables with
  | [] => exact absurd rfl hne
  | [t] =>
    have ht := h t (List.mem_cons_self ..)
    rw [List.flatMap_singleton, ← ht.columns_eq]
    rfl
  | t :: u :: rest =>
    -- all columns are common, so nothing is left out before the tables are put together
    have hselect : ∀ t' ∈ t :: u :: rest, t'.select (common (t :: u :: rest)) = t' := by
      intro t' ht'
      rw [common_same h, (h t (List.mem_cons_self ..)).names_eq, ← (h t' ht').names_eq]
      exact (h t' ht').wellFormed.select_self
    unfold stack
    simp only [apply_ite Run.result, Run.result_log_bind, ite_self]
    rw [List.map_congr_left hselect, List.map_id', stackAligned?_same hne h]
    rfl

end Table

end SharedTables
