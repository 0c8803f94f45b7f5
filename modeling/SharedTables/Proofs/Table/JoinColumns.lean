import Mathlib
import SharedTables.Proofs.Table.Pairing
import SharedTables.Proofs.Table.Views

/-!
# Joins by the names of columns

The columns of a join are those of the left table and those of the right that are no keys, and a row
has under each name what the rows of its pair hold there.

## Key results

- `columns_eq_map_names`, `WellFormed.map_own_cell`: tables and rows are known by names
- `sameKeys_eq_keysMatch`: rows match by the names of keys
- `Separate.joinTyped_eq_ok`: a join of tables whose keys have the same types
-/

namespace SharedTables

/-- A key that is not null is not the same as null. -/
private theorem Cell.isNull_of_agrees {c d : Cell} (hc : c.isNull = false) (h : c.agrees d = true) :
    d.isNull = false := by
  cases d with
  | null =>
    cases c with
    | null => cases hc
    | _ => cases h
  | _ => rfl

namespace Table

/-! ### Columns by their names -/

/-- The place of a column that is there. -/
def placeOf (t : Table) (name : String) : Nat := (t.indexOf? name).getD 0

variable {t left right : Table} {on : List String} {name : String} {kind : JoinKind}

/-- A column that is there has a place. -/
theorem indexOf?_of_mem (h : name ∈ t.names) : t.indexOf? name = some (t.placeOf name) := by
  obtain ⟨place, hplace⟩ := exists_indexOf?_of_hasColumn (mem_names_iff.1 h)
  rw [placeOf, hplace, Option.getD_some]

/-- A column that is not there has none. -/
theorem indexOf?_of_notMem (h : name ∉ t.names) : t.indexOf? name = none := by
  rw [← column?_eq_none_iff, ← Option.not_isSome_iff_eq_none]
  exact fun hcolumn => h (mem_names_iff.2 hcolumn)

/-- The cell of a column stands at its place. -/
theorem own_cell_of_mem (h : name ∈ t.names) (row : Row) :
    View.own.cell t row name = Row.cell row (t.placeOf name) := by
  rw [View.own_cell, indexOf?_of_mem h, Option.elim_some]

/-- A column that is there has its type. -/
theorem typeOf?_of_mem (h : name ∈ t.names) :
    t.typeOf? name = some (View.own.type t name) := by
  obtain ⟨c, hc⟩ := Option.isSome_iff_exists.1 (mem_names_iff.1 h)
  rw [View.own_type, typeOf?, hc]
  rfl

/-- The columns of a table are known by their names. -/
theorem columns_eq_map_names (h : t.names.Nodup) :
    t.columns = t.names.map fun n => ⟨n, View.own.type t n⟩ := by
  rw [names, List.map_map]
  conv_lhs => rw [← List.map_id t.columns]
  refine List.map_congr_left fun c hc => ?_
  have hcolumn : t.column? c.name = some c := find?_of_nodup h hc
  rw [Function.comp_apply, View.own_type, typeOf?, hcolumn]
  rfl

/-- The places of the columns, in their order, are the first numbers. -/
private theorem map_placeOf_names (h : t.names.Nodup) :
    t.names.map t.placeOf = List.range t.columns.length := by
  have hsome := congrArg (List.map (Option.getD · 0)) (map_indexOf?_names h)
  rw [List.map_map, List.map_map] at hsome
  exact hsome.trans (List.map_id _)

/-- The columns of a table with their places are known by their names. -/
private theorem placed_eq_map_names (h : t.names.Nodup) :
    t.placed = t.names.map fun n => (⟨n, View.own.type t n⟩, t.placeOf n) := by
  rw [placed, List.zipIdx_eq_zip_range', ← List.range_eq_range', ← map_placeOf_names h]
  conv_lhs => rw [columns_eq_map_names h]
  exact List.zip_map'

/-- The cells of a row under the names of the columns are the row. -/
theorem WellFormed.map_own_cell (h : t.WellFormed) {row : Row} (hrow : row ∈ t.rows) :
    t.names.map (View.own.cell t row) = row := by
  calc t.names.map (View.own.cell t row)
      = (t.names.map t.placeOf).map (Row.cell row) := by
        rw [List.map_map]
        exact List.map_congr_left fun n hn => own_cell_of_mem hn row
    _ = (List.range row.length).map (Row.cell row) := by
        rw [map_placeOf_names h.names_nodup, (h.rows_fit row hrow).length_eq]
    _ = row := map_getD_range row .null

/-! ### What a join lists -/

/-- The rows have the same keys, and none of these is null. -/
def keysMatch (left right : Table) (on : List String) (a b : Row) : Bool :=
  on.all fun name =>
    let key := View.own.cell left a name
    let key' := View.own.cell right b name
    !key.isNull && !key'.isNull && key.agrees key'

/-- The columns that a join takes from the left table; one that keeps the right side alone takes the
    keys from there. -/
def leftNames (kind : JoinKind) (left : Table) (on : List String) : List String :=
  if kind = .right then left.names.filter fun n => !on.contains n else left.names

/-- The columns that a join takes from the right table. -/
def rightNames (kind : JoinKind) (right : Table) (on : List String) : List String :=
  if kind = .right then right.names else right.names.filter fun n => !on.contains n

/-- The names of the columns of a join. -/
def joinedNames (kind : JoinKind) (left right : Table) (on : List String) : List String :=
  leftNames kind left on ++ rightNames kind right on

/-- What a pair of rows holds under a name.  A key is that of the left row if there is one; a join
    that keeps the right side alone takes it from the right row. -/
def joinedCell (kind : JoinKind) (left right : Table) (p : Option Row × Option Row)
    (name : String) : Cell :=
  let fromLeft := p.1.bind fun row => (left.indexOf? name).map (Row.cell row)
  let fromRight := p.2.bind fun row => (right.indexOf? name).map (Row.cell row)
  (if kind = .right then fromRight.or fromLeft else fromLeft.or fromRight).getD .null

/-- Rows whose keys are compared place by place are compared by the names of keys. -/
theorem sameKeys_eq_keysMatch (hleft : ∀ n ∈ on, n ∈ left.names)
    (hright : ∀ n ∈ on, n ∈ right.names) (a b : Row) :
    sameKeys (on.map fun n => (left.placeOf n, right.placeOf n)) a b =
      keysMatch left right on a b := by
  rw [sameKeys, keysMatch, List.all_map, Bool.eq_iff_iff, List.all_eq_true, List.all_eq_true]
  refine forall₂_congr fun n hn => ?_
  -- only one of the two keys is asked whether it is null, but keys that agree are null together
  rw [Function.comp_apply, own_cell_of_mem (hleft n hn), own_cell_of_mem (hright n hn)]
  simp only [Bool.and_eq_true, Bool.not_eq_true']
  constructor
  · rintro ⟨hkey, hagrees⟩
    exact ⟨⟨hkey, Cell.isNull_of_agrees hkey hagrees⟩, hagrees⟩
  · rintro ⟨⟨hkey, -⟩, hagrees⟩
    exact ⟨hkey, hagrees⟩

/-- The keys are columns of both tables, and the other columns have different names.  A cross join
    has no keys. -/
structure Separate (kind : JoinKind) (left right : Table) (on : List String) : Prop where
  left_nodup : left.names.Nodup
  right_nodup : right.names.Nodup
  left_has : ∀ n ∈ on, n ∈ left.names
  right_has : ∀ n ∈ on, n ∈ right.names
  disjoint : ∀ n ∈ left.names, n ∉ on → n ∉ right.names
  cross : kind = .cross → on = []

namespace Separate

variable {type : String → DataType}

/-- The name of a key is one in every kind of join, since a cross join has no keys. -/
private theorem isKey_eq (h : Separate kind left right on) (name : String) :
    (kind != .cross && on.contains name) = on.contains name := by
  by_cases hcross : kind = .cross
  · rw [h.cross hcross]
    simp
  · simp [hcross]

/-- Where the column of a name comes from, if it comes from the left table. -/
def leftSource (left right : Table) (on : List String) (name : String) : JoinSource :=
  if on.contains name then .key (left.placeOf name) (right.placeOf name)
  else .left (left.placeOf name)

/-- What is taken from the left table is there. -/
private theorem mem_left_of_leftNames (h : name ∈ leftNames kind left on) : name ∈ left.names := by
  rw [leftNames] at h
  split at h
  · exact List.mem_of_mem_filter h
  · exact h

/-- What is taken from the right table is there. -/
private theorem mem_right_of_rightNames (h : name ∈ rightNames kind right on) :
    name ∈ right.names := by
  rw [rightNames] at h
  split at h
  · exact h
  · exact List.mem_of_mem_filter h

/-- No name is taken from both tables. -/
private theorem notMem_leftNames (h : Separate kind left right on)
    (hn : name ∈ rightNames kind right on) :
    name ∉ leftNames kind left on := by
  intro hleft
  -- a key is taken from one side only, whichever that is
  have hkey : name ∉ on := by
    unfold leftNames at hleft
    unfold rightNames at hn
    by_cases hkind : kind = .right
    · rw [if_pos hkind, List.mem_filter] at hleft
      simpa using hleft.2
    · rw [if_neg hkind, List.mem_filter] at hn
      simpa using hn.2
  exact h.disjoint name (mem_left_of_leftNames hleft) hkey (mem_right_of_rightNames hn)

/-- No two columns of a join have the same name. -/
private theorem nodup_joinedNames (h : Separate kind left right on) :
    (joinedNames kind left right on).Nodup := by
  have hleft : (leftNames kind left on).Nodup := by
    rw [leftNames]
    split
    · exact h.left_nodup.filter _
    · exact h.left_nodup
  have hright : (rightNames kind right on).Nodup := by
    rw [rightNames]
    split
    · exact h.right_nodup
    · exact h.right_nodup.filter _
  -- a name on both sides is a key, and a key is listed on one side only
  refine List.nodup_append.2 ⟨hleft, hright, ?_⟩
  rintro n hn m hm rfl
  exact h.notMem_leftNames hm hn

/-- A key whose types are the same on both sides keeps its type. -/
private theorem keyType_self (kind : JoinKind) (a : DataType) : keyType kind a a = a := by
  cases kind with
  | outer => rw [keyType, DataType.unify?_self, Option.getD_some]
  | _ => rfl

/-- The columns from the left table, by their names. -/
private theorem leftColumns_eq (h : Separate kind left right on)
    (hleft : ∀ n ∈ left.names, View.own.type left n = type n)
    (hright : ∀ n ∈ right.names, View.own.type right n = type n) :
    leftColumns kind left right on =
      (leftNames kind left on).map fun n => (⟨n, type n⟩, leftSource left right on n) := by
  rw [leftColumns, leftNames, placed_eq_map_names h.left_nodup]
  simp only [h.isKey_eq, List.filter_map]
  rw [← apply_ite (List.map _), List.map_map]
  refine List.map_congr_left fun n hn => ?_
  have hmem : n ∈ left.names := mem_left_of_leftNames hn
  simp only [Function.comp_apply, leftSource, hleft n hmem]
  -- a key is listed with the places that it has on both sides
  cases hkey : on.contains n with
  | false => rfl
  | true =>
    have hother := h.right_has n (by simpa using hkey)
    rw [indexOf?_of_mem hother, typeOf?_of_mem hother, hright n hother]
    simp only [keyType_self, if_true]

/-- The columns from the right table, by their names. -/
private theorem rightColumns_eq (h : Separate kind left right on)
    (hright : ∀ n ∈ right.names, View.own.type right n = type n) :
    rightColumns kind (leftNames kind left on) right on =
      (rightNames kind right on).map fun n => (⟨n, type n⟩, .right (right.placeOf n)) := by
  -- keys are left out unless the right side is kept alone
  have hisKey : ∀ n, (kind != .cross && kind != .right && on.contains n) =
      (kind != .right && on.contains n) := by
    intro n
    rw [Bool.and_right_comm, h.isKey_eq, Bool.and_comm]
  have hkept : (right.names.filter fun n => !(kind != .right && on.contains n)) =
      rightNames kind right on := by
    rw [rightNames]
    split
    · rename_i hkind
      simp [hkind]
    · rename_i hkind
      rw [bne_iff_ne.2 hkind]
      rfl
  -- no column has to be given another name
  have hfresh : ∀ n ∈ rightNames kind right on, (leftNames kind left on).contains n = false := by
    intro n hn
    rw [List.contains_eq_mem, decide_eq_false_iff_not]
    exact h.notMem_leftNames hn
  rw [rightColumns, placed_eq_map_names h.right_nodup]
  simp only [hisKey, List.filter_map]
  rw [List.map_map]
  refine (congrArg (List.map _) hkept).trans (List.map_congr_left fun n hn => ?_)
  simp only [Function.comp_apply, hfresh n hn, hright n (mem_right_of_rightNames hn)]
  rfl

/-- A column from the left table holds what the pair holds under its name. -/
private theorem cell_leftSource (h : Separate kind left right on)
    (hn : name ∈ leftNames kind left on)
    (p : Option Row × Option Row) :
    (leftSource left right on name).cell p = joinedCell kind left right p name := by
  have hleft := indexOf?_of_mem (mem_left_of_leftNames hn)
  obtain ⟨a, b⟩ := p
  rw [leftSource]
  by_cases hkey : name ∈ on
  · -- the keys are among the columns of the right side if that is kept alone
    have hkind : kind ≠ .right := by
      intro hkind
      rw [leftNames, if_pos hkind, List.mem_filter] at hn
      simp [hkey] at hn
    have hright := indexOf?_of_mem (h.right_has name hkey)
    rw [if_pos (by simpa using hkey), joinedCell, if_neg hkind, hleft, hright]
    cases a <;> cases b <;> rfl
  · -- what is no key is not a column of the right side
    have hright := indexOf?_of_notMem (h.disjoint name (mem_left_of_leftNames hn) hkey)
    rw [if_neg (by simpa using hkey), joinedCell, hleft, hright]
    cases a <;> cases b <;> split <;> rfl

/-- A column from the right table holds what the pair holds under its name. -/
private theorem cell_rightSource (h : Separate kind left right on)
    (hn : name ∈ rightNames kind right on)
    {p : Option Row × Option Row} (hp : kind = .right → p.2.isSome = true) :
    (JoinSource.right (right.placeOf name)).cell p = joinedCell kind left right p name := by
  have hright := indexOf?_of_mem (mem_right_of_rightNames hn)
  obtain ⟨a, b⟩ := p
  by_cases hkind : kind = .right
  · -- there is a right row in every pair if the right side is kept
    obtain ⟨row, rfl⟩ := Option.isSome_iff_exists.1 (hp hkind)
    rw [joinedCell, if_pos hkind, hright]
    rfl
  · -- what is no key is held by one side only
    have hleft : name ∉ left.names := by
      rw [rightNames, if_neg hkind, List.mem_filter] at hn
      exact fun hmem => h.disjoint name hmem (by simpa using hn.2) hn.1
    rw [joinedCell, if_neg hkind, hright, indexOf?_of_notMem hleft]
    cases a <;> cases b <;> rfl

/-- Rows are paired if they match, and in a cross join all are. -/
private theorem same_eq_keysMatch (h : Separate kind left right on) :
    (if kind = .cross then fun _ _ => true else sameKeys (on.filterMap fun name =>
      match left.indexOf? name, right.indexOf? name with
      | some i, some j => some (i, j)
      | _, _ => none)) = keysMatch left right on := by
  funext a b
  split
  · rename_i hcross
    rw [h.cross hcross]
    rfl
  · rw [← sameKeys_eq_keysMatch h.left_has h.right_has, ← List.filterMap_eq_map']
    refine congrArg (sameKeys · a b) (List.filterMap_congr fun n hn => ?_)
    rw [indexOf?_of_mem (h.left_has n hn), indexOf?_of_mem (h.right_has n hn)]

/-- A join of tables whose keys have the same types, by the names of columns. -/
theorem joinTyped_eq_ok (h : Separate kind left right on)
    (hleft : ∀ n ∈ left.names, View.own.type left n = type n)
    (hright : ∀ n ∈ right.names, View.own.type right n = type n) :
    joinTyped kind left right on = .ok
      ⟨(joinedNames kind left right on).map fun n => ⟨n, type n⟩,
        (pairs kind (keysMatch left right on) left.rows right.rows).map fun p =>
          (joinedNames kind left right on).map (joinedCell kind left right p)⟩ := by
  have htaken : (leftColumns kind left right on).map (fun c => c.1.name) =
      leftNames kind left on := by
    rw [h.leftColumns_eq hleft hright, List.map_map]
    exact List.map_id _
  -- columns are listed side by side
  have hcolumns : ((leftColumns kind left right on ++
      rightColumns kind (leftNames kind left on) right on).map (·.1)) =
        (joinedNames kind left right on).map fun n => ⟨n, type n⟩ := by
    rw [h.leftColumns_eq hleft hright, h.rightColumns_eq hright, List.map_append, List.map_map,
      List.map_map, joinedNames, List.map_append]
    rfl
  have hnames : ((joinedNames kind left right on).map fun n => Column.mk n (type n)).map (·.name) =
      joinedNames kind left right on := by
    rw [List.map_map]
    exact List.map_id _
  -- and so are the cells of a pair
  have hcells : ∀ p ∈ pairs kind (keysMatch left right on) left.rows right.rows,
      ((leftColumns kind left right on ++
        rightColumns kind (leftNames kind left on) right on).map fun s => s.2.cell p) =
          (joinedNames kind left right on).map (joinedCell kind left right p) := by
    intro p hp
    rw [h.leftColumns_eq hleft hright, h.rightColumns_eq hright, List.map_append, List.map_map,
      List.map_map, joinedNames, List.map_append]
    refine congrArg₂ _ ?_ ?_
    · exact List.map_congr_left fun n hn => h.cell_leftSource hn p
    · refine List.map_congr_left fun n hn => h.cell_rightSource hn fun hkind => ?_
      subst hkind
      exact isSome_of_mem_pairs hp
  rw [joinTyped, htaken]
  dsimp only
  rw [hcolumns, hnames, distinct_of_nodup h.nodup_joinedNames, if_neg (by simp)]
  refine congrArg (fun rows => Except.ok (Table.mk _ rows)) ?_
  rw [← List.map_congr_left hcells]
  exact congrArg (fun same => (pairs kind same left.rows right.rows).map _) h.same_eq_keysMatch

end Separate

end Table

end SharedTables
