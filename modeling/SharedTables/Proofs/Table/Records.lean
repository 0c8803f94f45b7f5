import Mathlib
import SharedTables.Proofs.Json.Layout
import SharedTables.Proofs.Table.DrillDown
import SharedTables.Table.Record

/-!
# Rows and groups as records

What is listed of a table can be written as JSON and read again.  A row has a member for each
column, in order, and a group has one for its value and one for how many rows have it.  Numbers that
are not finite come from cells that hold such numbers, possibly deep inside of lists and structs.

## Key results

- `Cell.Fits.writable`, `Cell.Fits.holdsNonFinite_iff`: cells as they are listed
- `Cell.Fits.toValue_groupCell`: the value of a group is listed as the cells are
- `Table.WellFormed.writable_record`, `Table.WellFormed.holdsNonFinite_record_iff`: rows
- `Table.records_of_ofGroups`: groups as records
-/

namespace SharedTables

/-- There are integers of more than 128 bits in the type, which no column has. -/
inductive DataType.Wide : DataType → Prop
  | int {signed : Bool} {bits : Nat} (lt : 128 < bits) : Wide (.int signed bits)
  | list {item : DataType} (wide : Wide item) : Wide (.list item)
  | array {item : DataType} {width : Nat} (wide : Wide item) : Wide (.array item width)
  | struct {fields : List (String × DataType)} {f : String × DataType} (mem : f ∈ fields)
      (wide : Wide f.2) : Wide (.struct fields)

namespace Cell

/-- There is an infinity in the cell, or what is not a number. -/
inductive HoldsNonFinite : Cell → Prop
  | float {x : Binary} (not_finite : x.isFinite = false) : HoldsNonFinite (.float x)
  | item {c : Cell} {items : List Cell} (mem : c ∈ items) (holds : HoldsNonFinite c) :
      HoldsNonFinite (.list items)
  | field {c : Cell} {cells : List Cell} (mem : c ∈ cells) (holds : HoldsNonFinite c) :
      HoldsNonFinite (.struct cells)

variable {type : DataType} {cell : Cell}

/-- In a number there is what the number is. -/
theorem holdsNonFinite_float_iff {x : Binary} :
    (float x).HoldsNonFinite ↔ x.isFinite = false := by
  constructor
  · rintro ⟨not_finite⟩
    exact not_finite
  · exact .float

/-- In a list there is what is in one of its items. -/
theorem holdsNonFinite_list_iff {items : List Cell} :
    (list items).HoldsNonFinite ↔ ∃ c ∈ items, c.HoldsNonFinite := by
  constructor
  · intro h
    cases h with
    | item mem holds => exact ⟨_, mem, holds⟩
  · rintro ⟨c, hc, h⟩
    exact .item hc h

/-- In a struct there is what is in one of its fields. -/
private theorem holdsNonFinite_struct_iff {cells : List Cell} :
    (struct cells).HoldsNonFinite ↔ ∃ c ∈ cells, c.HoldsNonFinite := by
  constructor
  · intro h
    cases h with
    | field mem holds => exact ⟨_, mem, holds⟩
  · rintro ⟨c, hc, h⟩
    exact .field hc h

/-! ### Cells as values -/

/-- Items are listed one by one. -/
private theorem itemValues_eq_map (item : DataType) (items : List Cell) :
    itemValues item items = items.map (toValue item) := by
  induction items with
  | nil => rfl
  | cons c rest ih => rw [itemValues, ih, List.map_cons]

/-- Fields are listed one by one, under their names. -/
private theorem fieldValues_eq_map (fields : List (String × DataType)) (cells : List Cell) :
    fieldValues fields cells =
      (fields.zip cells).map fun p => (p.1.1, p.2.toValue p.1.2) := by
  induction fields generalizing cells with
  | nil => rw [fieldValues] <;> simp
  | cons f fields ih =>
    cases cells with
    | nil => rw [fieldValues] <;> simp
    | cons c rest => rw [fieldValues, ih, List.zip_cons_cons, List.map_cons]

/-! ### Members of named cells -/

section

variable {α : Type} {as : List α} {cells : List Cell} {name : α → String} {value : α × Cell → Value}

/-- The members have the names in order. -/
theorem map_fst_zip (h : as.length = cells.length) :
    ((as.zip cells).map fun p => (name p.1, value p)).map Prod.fst = as.map name := by
  calc ((as.zip cells).map fun p => (name p.1, value p)).map Prod.fst
      = ((as.zip cells).map Prod.fst).map name := by rw [List.map_map, List.map_map]; rfl
    _ = as.map name := by rw [List.map_fst_zip h.le]

/-- Members with different names can be written if their values can. -/
private theorem writable_zip (h : as.length = cells.length) (nodup : (as.map name).Nodup)
    (hvalue : ∀ p ∈ as.zip cells, Json.Writable (value p)) :
    Json.Writable (.object ((as.zip cells).map fun p => (name p.1, value p))) := by
  refine .object ?_ (List.forall_mem_map.2 hvalue)
  rwa [map_fst_zip h]

/-- There is a number among the members that is not finite exactly if there is one among the cells.
    -/
private theorem holdsNonFinite_zip_iff (h : as.length = cells.length)
    (hvalue : ∀ p ∈ as.zip cells, (value p).HoldsNonFinite ↔ p.2.HoldsNonFinite) :
    (Value.object ((as.zip cells).map fun p => (name p.1, value p))).HoldsNonFinite ↔
      ∃ c ∈ cells, c.HoldsNonFinite := by
  have hcells : (as.zip cells).map Prod.snd = cells := List.map_snd_zip h.ge
  -- the names have no say in it, so that the cells are left
  calc (Value.object ((as.zip cells).map fun p => (name p.1, value p))).HoldsNonFinite
      ↔ ∃ p ∈ as.zip cells, (value p).HoldsNonFinite := by
        simp only [Value.holdsNonFinite_object_iff, List.mem_map, exists_exists_and_eq_and]
    _ ↔ ∃ p ∈ as.zip cells, p.2.HoldsNonFinite :=
        exists_congr fun p => and_congr_right fun hp => hvalue p hp
    _ ↔ ∃ c ∈ (as.zip cells).map Prod.snd, c.HoldsNonFinite := by
        simp only [List.mem_map, exists_exists_and_eq_and]
    _ ↔ ∃ c ∈ cells, c.HoldsNonFinite := by rw [hcells]

end

/-! ### Cells of a type -/

/-- Values of a type are listed as what can be read again. -/
theorem Fits.writable (h : Fits type cell) (hwide : ¬ type.Wide) :
    Json.Writable (cell.toValue type) := by
  -- the items and fields of a cell fit the types that are part of its type
  induction h with
  | null =>
    rw [toValue]
    exact .null
  | @int _ bits n holds =>
    have hbits : bits ≤ 128 := Nat.le_of_not_lt fun hlt => hwide (.int hlt)
    refine .int ?_
    rw [← String.length_toList, toList_natText]
    exact length_toDigits_of_holdsInt holds hbits
  | float32 | float64 => exact .float (Binary.Format.stores_round Binary.Format.usual_double _)
  | boolean => exact .bool
  | string | categorical | enum | date | time | datetime | duration | decimal | binary =>
    exact .text
  | list _ ih =>
    rw [toValue, itemValues_eq_map]
    exact .list (List.forall_mem_map.2 fun c hc => ih c hc fun h => hwide (.list h))
  | array _ _ ih =>
    rw [toValue, itemValues_eq_map]
    exact .list (List.forall_mem_map.2 fun c hc => ih c hc fun h => hwide (.array h))
  | struct nodup length_eq _ ih =>
    rw [toValue, fieldValues_eq_map]
    refine writable_zip length_eq.symm nodup fun p hp => ih p hp fun h => ?_
    -- a field that is too wide would make the type too wide
    exact hwide (.struct (List.of_mem_zip hp).1 h)

/-- What is listed holds numbers that are not finite exactly if the cell does. -/
theorem Fits.holdsNonFinite_iff (h : Fits type cell) :
    (cell.toValue type).HoldsNonFinite ↔ cell.HoldsNonFinite := by
  induction h with
  | null =>
    rw [toValue]
    constructor <;> rintro ⟨⟩
  -- single numbers are listed as doubles, and stay as finite as they are
  | float32 stores =>
    rw [toValue, Value.holdsNonFinite_float_iff, holdsNonFinite_float_iff,
      Binary.Format.isFinite_round Binary.Format.usual_double Binary.Format.usual_single
        Binary.Format.limit_single_le_double stores]
  | float64 stores =>
    rw [toValue, Value.holdsNonFinite_float_iff, holdsNonFinite_float_iff,
      Binary.Format.round_of_stores Binary.Format.usual_double stores]
  | int | string | categorical | enum | boolean | date | time | datetime | duration | decimal
  | binary =>
    -- nothing else holds a number with a fraction
    constructor <;> rintro ⟨⟩
  | list _ ih | array _ _ ih =>
    rw [toValue, itemValues_eq_map, Value.holdsNonFinite_list_iff, holdsNonFinite_list_iff]
    simp only [List.mem_map, exists_exists_and_eq_and]
    exact exists_congr fun c => and_congr_right fun hc => ih c hc
  | struct nodup length_eq _ ih =>
    rw [toValue, fieldValues_eq_map, holdsNonFinite_struct_iff]
    exact holdsNonFinite_zip_iff length_eq.symm ih

/-- Microseconds are as they are. -/
private theorem instantOf_micro (ticks : Int) : instantOf .micro ticks = ticks :=
  TimeUnit.convert_self .micro ticks

/-- Nanoseconds beyond whole microseconds do not count. -/
private theorem instantOf_nano_floor (n : Int) :
    instantOf .nano (n / 1000 * 1000) = instantOf .nano n := by
  simp only [instantOf, TimeUnit.convert, TimeUnit.nanoseconds]
  omega

/-- The value of a group is listed as the cells of the column are. -/
theorem Fits.toValue_groupCell (h : Fits type cell) :
    (Table.groupCell type cell).toValue (Table.groupType type) = cell.toValue type := by
  have hself := cast_self h
  -- only numbers of 32 bits and counts of time have another type in a list of groups
  cases h with
  | null => cases type <;> rfl
  | @float32 x stores =>
    have hround := Binary.Format.round_of_stores Binary.Format.usual_double
      (Binary.Format.stores_round Binary.Format.usual_double x)
    show Value.float (Binary.double.round (Binary.double.round x)) = _
    rw [hround, toValue]
  | @time n =>
    -- whole microseconds are listed in any case
    show Value.text (Moment.clockListing (instantOf .nano (n / 1000 * 1000))) = _
    rw [instantOf_nano_floor]
    rfl
  | @datetime unit zone ticks =>
    show Value.text (momentListing zone (instantOf .micro (instantOf unit ticks))) = _
    rw [instantOf_micro, toValue]
  | @duration unit ticks =>
    show Value.text (spanText (instantOf .micro (instantOf unit ticks))) = _
    rw [instantOf_micro, toValue]
  | _ => exact congrArg (toValue _) hself

/-- The value of a group can be listed if the cells of the column can. -/
private theorem Fits.isListable_groupCell (h : Fits type cell) :
    (Table.groupCell type cell).isListable (Table.groupType type) = cell.isListable type := by
  have hself := cast_self h
  cases h with
  | null => cases type <;> rfl
  | float32 => rfl
  | time => rfl
  | @datetime unit zone ticks =>
    show Moment.inCalendar (localReading zone (instantOf .micro (instantOf unit ticks))) = _
    rw [instantOf_micro, isListable]
  | @duration unit ticks =>
    show decide ((instantOf .micro (instantOf unit ticks) / Moment.day).natAbs < 1000000000) = _
    rw [instantOf_micro, isListable]
  | _ => exact congrArg (isListable _) hself

end Cell

namespace Table

variable {t : Table}

/-! ### Rows -/

/-- The cells of a row are of the types of their columns. -/
private theorem WellFormed.fits_zip (h : t.WellFormed) {row : Row} (hrow : row ∈ t.rows) :
    t.columns.length = row.length ∧ ∀ p ∈ t.columns.zip row, Cell.Fits p.1.type p.2 := by
  have hfits := h.rows_fit row hrow
  rw [List.forall₂_iff_zip] at hfits
  exact ⟨hfits.1, fun p hp => hfits.2 hp⟩

/-- Whatever is listed of a row can be read again. -/
theorem WellFormed.writable_record (h : t.WellFormed) (hwide : ∀ c ∈ t.columns, ¬ c.type.Wide)
    {row : Row} (hrow : row ∈ t.rows) : Json.Writable (record t.columns row) := by
  obtain ⟨hlength, hfits⟩ := h.fits_zip hrow
  refine Cell.writable_zip hlength h.names_nodup fun p hp => ?_
  exact (hfits p hp).writable (hwide p.1 (List.of_mem_zip hp).1)

/-- Numbers that are not finite are listed of a row exactly if it has cells with such numbers. -/
theorem WellFormed.holdsNonFinite_record_iff (h : t.WellFormed) {row : Row} (hrow : row ∈ t.rows) :
    (record t.columns row).HoldsNonFinite ↔ ∃ cell ∈ row, cell.HoldsNonFinite := by
  obtain ⟨hlength, hfits⟩ := h.fits_zip hrow
  exact Cell.holdsNonFinite_zip_iff hlength fun p hp => (hfits p hp).holdsNonFinite_iff

/-- The names of the members of a record are those of the columns. -/
theorem WellFormed.names_record (h : t.WellFormed) {row : Row} (hrow : row ∈ t.rows) :
    ∃ members, record t.columns row = .object members ∧ members.map Prod.fst = t.names :=
  ⟨_, rfl, Cell.map_fst_zip (h.rows_fit row hrow).length_eq⟩

/-! ### Groups -/

/-- The record of a group of a column of the given type. -/
def groupRecord (type : DataType) (g : Group) : Value :=
  .object [("value", g.value.toValue type), ("count", .int g.count)]

/-- Groups can be listed exactly if their values can. -/
theorem exists_ofGroups_iff {type : DataType} {groups : List Group} :
    (∃ listed, ofGroups type groups = .ok listed) ↔
      ∀ g ∈ groups, g.value.isListable type = true := by
  rw [← List.all_eq_true, ofGroups]
  -- the definition asks all values first
  split
  · rename_i h
    exact iff_of_true ⟨_, rfl⟩ h
  · rename_i h
    exact iff_of_false nofun h

/-- Groups are listed by their records, and these can be written. -/
theorem records_of_ofGroups {type : DataType} {groups : List Group} {listed : Table}
    (h : ∀ g ∈ groups, Cell.Fits type g.value) (hlisted : ofGroups type groups = .ok listed) :
    listed.records = .list (groups.map (groupRecord type)) ∧ listed.isListable = true := by
  have hlistable := exists_ofGroups_iff.1 ⟨listed, hlisted⟩
  rw [ofGroups, if_pos (List.all_eq_true.2 hlistable)] at hlisted
  obtain rfl := Except.ok.inj hlisted
  -- without groups the list of groups has no columns either
  cases groups with
  | nil => exact ⟨rfl, rfl⟩
  | cons g rest =>
    constructor
    · rw [records, List.map_map]
      refine congrArg Value.list (List.map_congr_left fun g hg => ?_)
      have hvalue := (h g hg).toValue_groupCell
      simp [record, groupRecord, hvalue, Cell.toValue]
    · rw [isListable, List.all_map, List.all_eq_true]
      intro g hg
      have hcell := (h g hg).isListable_groupCell
      simp [hcell, hlistable g hg, Cell.isListable]

/-- The record of a group can be written. -/
theorem writable_groupRecord {type : DataType} {g : Group} (hfits : Cell.Fits type g.value)
    (hwide : ¬ type.Wide) (hcount : DataType.holdsInt true 64 g.count = true) :
    Json.Writable (groupRecord type g) := by
  refine .object (by simp) ?_
  have hcount : Json.Writable (Cell.toValue .int64 (.int g.count)) :=
    Cell.Fits.writable (.int hcount) (by rintro ⟨⟩; omega)
  simp only [List.forall_mem_cons]
  exact ⟨hfits.writable hwide, hcount, List.forall_mem_nil _⟩

/-- In the record of a group there is what is in its value. -/
theorem holdsNonFinite_groupRecord_iff {type : DataType} {g : Group}
    (hfits : Cell.Fits type g.value) :
    (groupRecord type g).HoldsNonFinite ↔ g.value.HoldsNonFinite := by
  have hcount : ¬ (Value.int g.count).HoldsNonFinite := by rintro ⟨⟩
  rw [groupRecord, Value.holdsNonFinite_object_iff, ← hfits.holdsNonFinite_iff]
  simp [hcount]

end Table

end SharedTables
