import Mathlib
import SharedTables.Proofs.Table.JoinColumns

/-!
# Joins as relations

Key columns without a type take the type of the other side before tables are joined; since they hold
nothing but null, no rows match on them.  So a join of tables as they are stored is what relations
say: the rows of the pairs that match, and of the rows without a partner that are kept.

## Key results

- `own_type_typeKeys`: the types of key columns
- `keysMatch_of_untyped`: no rows match on a key without a type
- `join_eq_ok`, `join_cross_eq_ok`: joins by keys, and cross joins
- `joinOn_relational`: every kind of join of tables as they are stored
-/

namespace SharedTables

namespace Table

variable {t left right : Table} {on : List String} {name : String} {kind : JoinKind}

/-! ### Types of keys -/

/-- The type of a key, by its types on both sides. -/
def sharedKeyType (a b : DataType) : DataType :=
  if a = .null then (if b = .null then .int64 else b) else a

/-- The type of a column of a join. -/
def joinedType (left right : Table) (on : List String) (name : String) : DataType :=
  if name ∈ on then sharedKeyType (View.own.type left name) (View.own.type right name)
  else if name ∈ left.names then View.own.type left name
  else View.own.type right name

/-- A column whose type is looked at together with that of the other table. -/
def typedKey (other : Table) (on : List String) (c : Column) : Column :=
  if on.contains c.name && decide (c.type = .null) then
    match other.typeOf? c.name with
    | some .null => { c with type := .int64 }
    | some type => { c with type := type }
    | none => c
  else c

/-- Giving types to keys changes columns one by one. -/
private theorem typeKeys_eq (t other : Table) (on : List String) :
    typeKeys t other on = { t with columns := t.columns.map (typedKey other on) } := rfl

/-- A column that is given a type keeps its name. -/
private theorem name_typedKey (other : Table) (on : List String) (c : Column) :
    (typedKey other on c).name = c.name := by
  unfold typedKey
  split
  · split <;> rfl
  · rfl

/-- Columns that are given types keep their names. -/
private theorem names_typeKeys (t other : Table) (on : List String) :
    (typeKeys t other on).names = t.names := by
  rw [typeKeys_eq, names, names, List.map_map]
  exact List.map_congr_left fun c _ => name_typedKey other on c

/-- They keep their places, too. -/
private theorem indexOf?_typeKeys (t other : Table) (on : List String) (name : String) :
    (typeKeys t other on).indexOf? name = t.indexOf? name := by
  rw [typeKeys_eq, indexOf?, indexOf?, List.findIdx?_map]
  refine congrArg (List.findIdx? · t.columns) (funext fun c => ?_)
  rw [Function.comp_apply, name_typedKey]

/-- So a cell is found where it was. -/
private theorem own_cell_typeKeys (t other : Table) (on : List String) :
    View.own.cell (typeKeys t other on) = View.own.cell t := by
  funext row name
  rw [View.own_cell, View.own_cell, indexOf?_typeKeys]

/-! The types of keys decide neither on names nor on cells. -/

/-- A join has the same columns before and after keys are given types. -/
private theorem joinedNames_typeKeys (kind : JoinKind) (left right : Table) (on : List String) :
    joinedNames kind (typeKeys left right on) (typeKeys right left on) on =
      joinedNames kind left right on := by
  simp only [joinedNames, leftNames, rightNames, names_typeKeys]

/-- The same rows match. -/
private theorem keysMatch_typeKeys (left right : Table) (on : List String) :
    keysMatch (typeKeys left right on) (typeKeys right left on) on = keysMatch left right on := by
  funext a b
  rw [keysMatch, own_cell_typeKeys, own_cell_typeKeys]
  rfl

/-- The same cells are joined. -/
private theorem joinedCell_typeKeys (kind : JoinKind) (left right : Table) (on : List String) :
    joinedCell kind (typeKeys left right on) (typeKeys right left on) =
      joinedCell kind left right := by
  funext p name
  simp only [joinedCell, indexOf?_typeKeys]

/-! Types of columns are looked up by name. -/

/-- A column is found under the name that it had. -/
private theorem column?_typeKeys (t other : Table) (on : List String) (name : String) :
    (typeKeys t other on).column? name = (t.column? name).map (typedKey other on) := by
  rw [typeKeys_eq, column?, column?, List.find?_map]
  refine congrArg (fun p => (t.columns.find? p).map _) (funext fun c => ?_)
  rw [Function.comp_apply, name_typedKey]

/-- A key column without a type takes the type of the other side, and any other keeps its type. -/
theorem own_type_typeKeys {other : Table} (h : name ∈ t.names)
    (hother : name ∈ on → name ∈ other.names) :
    View.own.type (typeKeys t other on) name =
      if name ∈ on then sharedKeyType (View.own.type t name) (View.own.type other name)
      else View.own.type t name := by
  obtain ⟨c, hc⟩ := Option.isSome_iff_exists.1 (mem_names_iff.1 h)
  obtain rfl : c.name = name := name_of_column? hc
  have htype : View.own.type t c.name = c.type := by
    rw [View.own_type, typeOf?, hc]
    rfl
  rw [View.own_type, typeOf?, column?_typeKeys, hc, htype]
  show (typedKey other on c).type = _
  -- the definition looks at the name first, then at the type, and then at the other side
  rw [typedKey]
  by_cases hkey : c.name ∈ on
  · rw [if_pos hkey, sharedKeyType, typeOf?_of_mem (hother hkey), List.contains_eq_mem,
      decide_eq_true hkey, Bool.true_and]
    by_cases hnull : c.type = .null
    · rw [if_pos (decide_eq_true hnull), if_pos hnull]
      -- neither side has a type, or the other side has one
      by_cases hothers : View.own.type other c.name = .null
      · rw [hothers]
        rfl
      · rw [if_neg hothers]
        split
        · rename_i hnone
          exact absurd (Option.some.inj hnone) hothers
        · rename_i type _ htypes
          rw [Option.some.inj htypes]
        · rename_i hnone
          cases hnone
    · rw [if_neg (by simpa using hnull), if_neg hnull]
  · rw [if_neg hkey, List.contains_eq_mem, decide_eq_false hkey, Bool.false_and,
      if_neg Bool.false_ne_true]

/-! ### Joins of tables as they are stored -/

/-- The tables can be joined on the columns: these are there on both sides, of the same types unless
    one of them has no type, and the other columns have different names. -/
structure Joinable (left right : Table) (on : List String) : Prop where
  ne_nil : on ≠ []
  nodup : on.Nodup
  left_has : ∀ n ∈ on, n ∈ left.names
  right_has : ∀ n ∈ on, n ∈ right.names
  types : ∀ n ∈ on, View.own.type left n = View.own.type right n ∨
    View.own.type left n = .null ∨ View.own.type right n = .null
  disjoint : ∀ n ∈ left.names, n ∉ on → n ∉ right.names

/-- The table is the join of two tables: its columns are those of both, the keys once, and its rows
    are those of the pairs that match and of the rows without a partner that are kept. -/
structure IsJoin (kind : JoinKind) (left right : Table) (on : List String) (t : Table) : Prop where
  columns_eq : t.columns = (joinedNames kind left right on).map fun n =>
    ⟨n, joinedType left right on n⟩
  rows_perm : t.rows.Perm
    ((relationalPairs kind (keysMatch left right on) left.rows right.rows).map fun p =>
      (joinedNames kind left right on).map (joinedCell kind left right p))

/-- The type of a key is the same from both sides. -/
private theorem sharedKeyType_comm {a b : DataType} (h : a = b ∨ a = .null ∨ b = .null) :
    sharedKeyType b a = sharedKeyType a b := by
  obtain rfl | rfl | rfl := h
  · rfl
  · by_cases hb : b = .null <;> simp [sharedKeyType, hb]
  · by_cases ha : a = .null <;> simp [sharedKeyType, ha]

/-- Keys of one type can be compared. -/
private theorem comparableKeys_self (a : DataType) : comparableKeys a a = true := by
  cases a <;> simp [comparableKeys]

/-- A column without a type holds nothing but null. -/
private theorem WellFormed.isNull_of_untyped (h : t.WellFormed) (hname : name ∈ t.names)
    (huntyped : View.own.type t name = .null) {row : Row} (hrow : row ∈ t.rows) :
    (View.own.cell t row name).isNull = true := by
  have hfits := h.fits_cell (indexOf?_of_mem hname) (typeOf?_of_mem hname) hrow
  rw [huntyped] at hfits
  rw [own_cell_of_mem hname]
  cases hcell : Row.cell row (t.placeOf name) with
  | null => rfl
  | _ =>
    rw [hcell] at hfits
    cases hfits

/-- Where a key column has no type, no rows match. -/
theorem keysMatch_of_untyped (hleft : left.WellFormed) (hright : right.WellFormed)
    (h : Joinable left right on) (hname : name ∈ on)
    (huntyped : View.own.type left name = .null ∨ View.own.type right name = .null) {a b : Row}
    (ha : a ∈ left.rows) (hb : b ∈ right.rows) : keysMatch left right on a b = false := by
  rw [keysMatch, List.all_eq_false]
  refine ⟨name, hname, ?_⟩
  -- a key that is null matches nothing, on whichever side it is
  obtain huntyped | huntyped := huntyped
  · simp [hleft.isNull_of_untyped (h.left_has name hname) huntyped ha]
  · simp [hright.isNull_of_untyped (h.right_has name hname) huntyped hb]

/-- Key columns that have been given types still are what sets the columns of both sides apart. -/
theorem Joinable.separate (hleft : left.WellFormed) (hright : right.WellFormed)
    (h : Joinable left right on) (hkind : kind ≠ .cross) :
    Separate kind (typeKeys left right on) (typeKeys right left on) on := by
  refine ⟨?_, ?_, ?_, ?_, ?_, fun hcross => absurd hcross hkind⟩
  all_goals simp only [names_typeKeys]
  · exact hleft.names_nodup
  · exact hright.names_nodup
  · exact h.left_has
  · exact h.right_has
  · exact h.disjoint

/-- The columns of both sides have the types of the join once the keys have been given types. -/
private theorem Joinable.own_type_left (h : Joinable left right on) (hn : name ∈ left.names) :
    View.own.type (typeKeys left right on) name = joinedType left right on name := by
  rw [own_type_typeKeys hn (h.right_has name), joinedType, if_pos hn]

/-- So have those of the right side. -/
private theorem Joinable.own_type_right (h : Joinable left right on) (hn : name ∈ right.names) :
    View.own.type (typeKeys right left on) name = joinedType left right on name := by
  rw [own_type_typeKeys hn (h.left_has name), joinedType]
  by_cases hkey : name ∈ on
  · rw [if_pos hkey, if_pos hkey, sharedKeyType_comm (h.types name hkey)]
  · rw [if_neg hkey, if_neg hkey, if_neg fun hleft => h.disjoint name hleft hkey hn]

/-- Key columns that have been given types can be compared. -/
theorem Joinable.comparable (h : Joinable left right on) :
    (on.all fun name =>
      match (typeKeys left right on).typeOf? name, (typeKeys right left on).typeOf? name with
      | some a, some b => comparableKeys a b
      | _, _ => false) = true := by
  rw [List.all_eq_true]
  intro n hn
  have hmem : n ∈ (typeKeys left right on).names := by
    rw [names_typeKeys]
    exact h.left_has n hn
  have hmem' : n ∈ (typeKeys right left on).names := by
    rw [names_typeKeys]
    exact h.right_has n hn
  -- both key columns have been given one type
  rw [typeOf?_of_mem hmem, typeOf?_of_mem hmem', h.own_type_left (h.left_has n hn),
    h.own_type_right (h.right_has n hn)]
  exact comparableKeys_self _

/-- Tables that can be joined are, once their key columns have types. -/
theorem join_eq_ok (hleft : left.WellFormed) (hright : right.WellFormed)
    (h : Joinable left right on) (hkind : kind ≠ .cross) :
    join kind left right on = .ok
      ⟨(joinedNames kind left right on).map fun n => ⟨n, joinedType left right on n⟩,
        (pairs kind (keysMatch left right on) left.rows right.rows).map fun p =>
          (joinedNames kind left right on).map (joinedCell kind left right p)⟩ := by
  have hempty : on.isEmpty = false := List.isEmpty_eq_false_iff.2 h.ne_nil
  have hfound : (on.find? fun name => !(left.hasColumn name && right.hasColumn name)) = none := by
    rw [List.find?_eq_none]
    intro n hn
    simp [mem_names_iff.1 (h.left_has n hn), mem_names_iff.1 (h.right_has n hn)]
  -- with types for the keys the columns of both sides are those of the join
  have htyped : joinTyped kind (typeKeys left right on) (typeKeys right left on) on = .ok
      ⟨(joinedNames kind left right on).map fun n => ⟨n, joinedType left right on n⟩,
        (pairs kind (keysMatch left right on) left.rows right.rows).map fun p =>
          (joinedNames kind left right on).map (joinedCell kind left right p)⟩ := by
    rw [(h.separate hleft hright hkind).joinTyped_eq_ok
      (fun n hn => h.own_type_left (by rwa [names_typeKeys] at hn))
      (fun n hn => h.own_type_right (by rwa [names_typeKeys] at hn))]
    rw [joinedNames_typeKeys, keysMatch_typeKeys, joinedCell_typeKeys]
    rfl
  -- every check on the names passes, in the order of the definition
  rw [join, if_neg hkind, hempty, if_neg Bool.false_ne_true, hfound]
  dsimp only
  rw [distinct_of_nodup h.nodup, if_neg (by simp)]
  refine (if_neg ?_).trans (congrArg (Except.mapError Failure.table) htyped)
  rw [Bool.not_eq_true', Bool.not_eq_false]
  exact h.comparable

/-- A row of a cross join is a left row followed by a right row. -/
private theorem map_joinedCell_cross (hleft : left.WellFormed) (hright : right.WellFormed)
    (hdisjoint : ∀ n ∈ left.names, n ∉ right.names) {a b : Row} (ha : a ∈ left.rows)
    (hb : b ∈ right.rows) :
    (left.names ++ right.names).map (joinedCell .cross left right (some a, some b)) = a ++ b := by
  rw [List.map_append]
  -- the names of each side are looked up in the row of that side
  refine congrArg₂ _ ?_ ?_
  · conv_rhs => rw [← hleft.map_own_cell ha]
    refine List.map_congr_left fun n hn => ?_
    rw [joinedCell, if_neg (by decide), indexOf?_of_mem hn, own_cell_of_mem hn]
    rfl
  · conv_rhs => rw [← hright.map_own_cell hb]
    refine List.map_congr_left fun n hn => ?_
    have hnone := indexOf?_of_notMem fun hmem => hdisjoint n hmem hn
    rw [joinedCell, if_neg (by decide), hnone, indexOf?_of_mem hn, own_cell_of_mem hn]
    rfl

/-- A cross join of tables with different columns pairs every row of one with every row of the
    other. -/
theorem join_cross_eq_ok (hleft : left.WellFormed) (hright : right.WellFormed)
    (hdisjoint : ∀ n ∈ left.names, n ∉ right.names) (on : List String) :
    join .cross left right on = .ok
      ⟨left.columns ++ right.columns, (left.rows ×ˢ right.rows).map fun p => p.1 ++ p.2⟩ := by
  -- without keys the columns of the two sides have nothing in common
  have hseparate : Separate .cross left right [] :=
    ⟨hleft.names_nodup, hright.names_nodup, nofun, nofun, fun n hn _ => hdisjoint n hn,
      fun _ => rfl⟩
  have hnames : joinedNames .cross left right [] = left.names ++ right.names := by
    rw [joinedNames, leftNames, rightNames, if_neg (by decide), if_neg (by decide)]
    exact congrArg (left.names ++ ·) (List.filter_eq_self.2 fun _ _ => rfl)
  have htype : ∀ n ∈ right.names, View.own.type right n = joinedType left right [] n := by
    intro n hn
    rw [joinedType, if_neg List.not_mem_nil, if_neg fun hmem => hdisjoint n hmem hn]
  have htype' : ∀ n ∈ left.names, View.own.type left n = joinedType left right [] n := by
    intro n hn
    rw [joinedType, if_neg List.not_mem_nil, if_pos hn]
  have hcolumns : (left.names ++ right.names).map
      (fun n => Column.mk n (joinedType left right [] n)) = left.columns ++ right.columns := by
    rw [List.map_append, columns_eq_map_names hleft.names_nodup,
      columns_eq_map_names hright.names_nodup]
    refine congrArg₂ _ ?_ ?_
    · exact List.map_congr_left fun n hn => congrArg (Column.mk n) (htype' n hn).symm
    · exact List.map_congr_left fun n hn => congrArg (Column.mk n) (htype n hn).symm
  have hrows : ((left.rows ×ˢ right.rows).map fun p => (some p.1, some p.2)).map
      (fun p => (left.names ++ right.names).map (joinedCell .cross left right p)) =
        (left.rows ×ˢ right.rows).map fun p => p.1 ++ p.2 := by
    rw [List.map_map]
    refine List.map_congr_left fun p hp => ?_
    obtain ⟨ha, hb⟩ := List.mem_product.1 hp
    exact map_joinedCell_cross hleft hright hdisjoint ha hb
  rw [join, if_pos rfl, hseparate.joinTyped_eq_ok htype' htype, hnames, hcolumns]
  exact congrArg (fun rows => Except.ok (Table.mk _ rows))
    ((congrArg _ (pairs_cross left.rows right.rows)).trans hrows)

/-- Every kind of join of tables as they are stored is the relational join: one row for each pair of
    rows whose keys are the same and not null, and one for each row without a partner of a side that
    is kept.  A key column without a type takes the type of the other side, or that of integers, and
    no rows match on it.  A cross join pairs every row with every other. -/
theorem joinOn_relational (hleft : left.WellFormed) (hright : right.WellFormed) (v : Value) :
    (∀ kind : JoinKind, kind ≠ .cross → Joinable left right (keyNames v) →
      ∃ t, joinOn left right v (.text kind.name) = .ok t ∧
        IsJoin kind left right (keyNames v) t ∧
        ((∃ name ∈ keyNames v, View.own.type left name = .null ∨ View.own.type right name = .null) →
          t.height = (if kind.keepsLeft then left.height else 0) +
            if kind.keepsRight then right.height else 0)) ∧
    ((∀ n ∈ left.names, n ∉ right.names) →
      joinOn left right v (.text JoinKind.cross.name) = .ok
        ⟨left.columns ++ right.columns, (left.rows ×ˢ right.rows).map fun p => p.1 ++ p.2⟩) := by
  -- a kind is known by its name, so the join of that kind is carried out
  have hkind : ∀ kind : JoinKind, joinOn left right v (.text kind.name) =
      join kind left right (keyNames v) := by
    intro kind
    rw [joinOn, JoinKind.ofValue, JoinKind.ofName?_name]
    rfl
  constructor
  · intro kind hcross h
    refine ⟨_, (hkind kind).trans (join_eq_ok hleft hright h hcross), ⟨rfl, ?_⟩, ?_⟩
    · -- the rows are found partner by partner, which is the relational join up to order
      exact (pairs_perm kind _ left.rows right.rows).map _
    · rintro ⟨name, hname, huntyped⟩
      rw [height, List.length_map]
      exact length_pairs_of_none kind fun a ha b hb =>
        keysMatch_of_untyped hleft hright h hname huntyped ha hb
  · intro hdisjoint
    exact (hkind .cross).trans (join_cross_eq_ok hleft hright hdisjoint _)

/-- Names with their numbers, of which one is missing and one comes twice. -/
def numberedNames : Table :=
  ⟨[⟨"id", .int64⟩, ⟨"name", .string⟩],
    [[.int 1, .text "a"], [.int 2, .text "b"], [.int 2, .text "c"], [.null, .text "d"]]⟩

/-- Counts whose numbers are all missing, so that they have no type. -/
def unnumberedCounts : Table :=
  ⟨[⟨"id", .null⟩, ⟨"count", .int64⟩], [[.null, .int 7]]⟩

/-- No number is found among those that are missing. -/
theorem numbered_names_joined : ∃ t,
    joinOn numberedNames unnumberedCounts (.text "id") (.text "outer") = .ok t ∧
      IsJoin .outer numberedNames unnumberedCounts ["id"] t ∧ t.height = 5 := by
  have hleft : numberedNames.WellFormed := by
    refine ⟨by decide, ?_, nofun⟩
    simp only [numberedNames, List.forall_mem_cons]
    exact ⟨.cons (.int rfl) (.cons .string .nil), .cons (.int rfl) (.cons .string .nil),
      .cons (.int rfl) (.cons .string .nil), .cons .null (.cons .string .nil), nofun⟩
  have hright : unnumberedCounts.WellFormed := by
    refine ⟨by decide, ?_, nofun⟩
    simp only [unnumberedCounts, List.forall_mem_cons]
    exact ⟨.cons .null (.cons (.int rfl) .nil), nofun⟩
  have hjoinable : Joinable numberedNames unnumberedCounts ["id"] :=
    ⟨by decide, by decide, by decide, by decide, by decide, by decide⟩
  obtain ⟨hjoin, -⟩ := joinOn_relational hleft hright (.text "id")
  obtain ⟨t, ht, hisJoin, hheight⟩ := hjoin .outer (by decide) hjoinable
  exact ⟨t, ht, hisJoin, hheight ⟨"id", List.mem_singleton_self _, .inr rfl⟩⟩

example : joinOn numberedNames ⟨[⟨"id", .int64⟩], [[.int 2], [.int 3], [.null]]⟩ (.text "id")
    (.text "outer") = .ok ⟨numberedNames.columns, [[.int 1, .text "a"], [.int 2, .text "b"],
      [.int 2, .text "c"], [.null, .text "d"], [.int 3, .null], [.null, .null]]⟩ := rfl

end Table

end SharedTables
