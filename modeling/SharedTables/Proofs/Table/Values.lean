import Mathlib
import SharedTables.Proofs.Number.Stored
import SharedTables.Proofs.Table.Columns
import SharedTables.Table.Stack

/-!
# Cells and tables in the sense of their types

The cells of a table are values of the types of its columns.  A cast to the type that a cell has
already, and selecting all columns that a table has already, change nothing.

## Key results

- `Cell.cast_self`: a cast to the type of a cell leaves the cell as it is
- `Table.WellFormed.castTo_self`, `Table.WellFormed.select_self`: so it is for whole tables
-/

namespace SharedTables

/-- In a list without a name twice every element is found by its name. -/
theorem find?_of_nodup {α : Type} {name : α → String} {as : List α}
    (hnodup : (as.map name).Nodup) {a : α} (h : a ∈ as) :
    (as.find? fun b => name b == name a) = some a := by
  induction as with
  | nil => exact absurd h List.not_mem_nil
  | cons b rest ih =>
    rw [List.map_cons, List.nodup_cons] at hnodup
    obtain rfl | hrest := List.mem_cons.1 h
    · exact List.find?_cons_of_pos (beq_self_eq_true _)
    · rw [List.find?_cons_of_neg, ih hnodup.2 hrest]
      -- the name comes up again further on
      rw [beq_iff_eq]
      rintro heq
      exact hnodup.1 (heq ▸ List.mem_map_of_mem hrest)

namespace Cell

/-- The cell is null or a value of the type. -/
inductive Fits : DataType → Cell → Prop
  | null {type : DataType} : Fits type null
  | int {signed : Bool} {bits : Nat} {n : Int} (holds : DataType.holdsInt signed bits n = true) :
      Fits (.int signed bits) (int n)
  | float32 {x : Binary} (stores : Binary.single.Stores x) : Fits .float32 (float x)
  | float64 {x : Binary} (stores : Binary.double.Stores x) : Fits .float64 (float x)
  | string {s : String} : Fits .string (text s)
  | categorical {s : String} : Fits .categorical (text s)
  | enum {categories : List String} {s : String} (mem : s ∈ categories) :
      Fits (.enum categories) (text s)
  | boolean {b : Bool} : Fits .boolean (bool b)
  | date {days : Int} : Fits .date (date days)
  | time {nanoseconds : Int} : Fits .time (time nanoseconds)
  | datetime {unit : TimeUnit} {zone : Option Zone} {ticks : Int} :
      Fits (.datetime unit zone) (datetime ticks)
  | duration {unit : TimeUnit} {ticks : Int} : Fits (.duration unit) (duration ticks)
  | decimal {precision scale : Nat} {units : Int} : Fits (.decimal precision scale) (decimal units)
  | binary {bytes : List UInt8} : Fits .binary (binary bytes)
  | list {item : DataType} {items : List Cell} (fits : ∀ c ∈ items, Fits item c) :
      Fits (.list item) (list items)
  | array {item : DataType} {width : Nat} {items : List Cell} (width_eq : items.length = width)
      (fits : ∀ c ∈ items, Fits item c) : Fits (.array item width) (list items)
  | struct {fields : List (String × DataType)} {cells : List Cell}
      (nodup : (fields.map Prod.fst).Nodup) (length_eq : cells.length = fields.length)
      (fits : ∀ p ∈ fields.zip cells, Fits p.1.2 p.2) : Fits (.struct fields) (struct cells)

/-! ### Casts -/

private theorem castItems_self {item : DataType} {items : List Cell}
    (h : ∀ c ∈ items, cast item item c = c) : castItems item item items = items := by
  induction items with
  | nil => rfl
  | cons c rest ih =>
    rw [List.forall_mem_cons] at h
    rw [castItems, h.1, ih h.2]

/-- Fields that are cast to their own types keep their cells. -/
private theorem castFields_self {fields sources : List (String × DataType)} {cells : List Cell}
    (hfound : ∀ f ∈ sources, (fields.find? fun g => g.1 == f.1) = some f)
    (hlength : cells.length = sources.length)
    (hcells : ∀ p ∈ sources.zip cells, cast p.1.2 p.1.2 p.2 = p.2) :
    castFields sources fields cells = (sources.map Prod.fst).zip cells := by
  -- cells and fields are gone through side by side
  induction cells generalizing sources with
  | nil => rw [castFields, List.zip_nil_right]
  | cons c rest ih =>
    cases sources with
    | nil => cases hlength
    | cons f more =>
      rw [List.forall_mem_cons] at hfound
      rw [List.zip_cons_cons, List.forall_mem_cons] at hcells
      rw [castFields, hfound.1, List.map_cons, List.zip_cons_cons,
        ih hfound.2 (Nat.succ.inj hlength) hcells.2]
      exact congrArg (fun cell => (f.1, cell) :: _) hcells.1

/-- Looking up all names in a list of named values gives the values. -/
private theorem lookup_names {names : List String} {cells : List Cell} (hnodup : names.Nodup)
    (hlength : cells.length = names.length) :
    names.map (fun name => (((names.zip cells).find? fun n => n.1 == name).map (·.2)).getD null) =
      cells := by
  have hfst : (names.zip cells).map Prod.fst = names := List.map_fst_zip (Nat.le_of_eq hlength.symm)
  have hsnd : (names.zip cells).map Prod.snd = cells := List.map_snd_zip (Nat.le_of_eq hlength)
  -- names are distinct, so each finds the cell beside it
  have hfound : ∀ n ∈ names.zip cells,
      (((names.zip cells).find? fun n' => n'.1 == n.1).map (·.2)).getD null = n.2 := by
    intro n hn
    rw [find?_of_nodup (hfst.symm ▸ hnodup) hn]
    rfl
  calc names.map (fun name =>
        (((names.zip cells).find? fun n => n.1 == name).map (·.2)).getD null)
      = ((names.zip cells).map Prod.fst).map (fun name =>
        (((names.zip cells).find? fun n => n.1 == name).map (·.2)).getD null) := by rw [hfst]
    _ = (names.zip cells).map Prod.snd := by
      rw [List.map_map]
      exact List.map_congr_left hfound
    _ = cells := hsnd

/-- A cast to the type of a cell leaves the cell as it is. -/
theorem cast_self {type : DataType} {cell : Cell} (h : Fits type cell) :
    cast type type cell = cell := by
  induction h with
  | null => rfl
  | int holds => simp [cast, count?, Option.filter, holds]
  | float32 stores =>
    have hround := Binary.Format.round_of_stores Binary.Format.usual_single stores
    simp [cast, toBinary?, hround]
  | float64 stores =>
    have hround := Binary.Format.round_of_stores Binary.Format.usual_double stores
    simp [cast, toBinary?, hround]
  | string => rfl
  | categorical => rfl
  | enum => rfl
  | boolean => rfl
  | date => rfl
  | time => rfl
  | datetime => simp [cast, toTicks?]
  | duration => simp [cast, toSpan?]
  | decimal => simp [cast, toUnits?]
  | binary => rfl
  | list _ ih =>
    rw [cast]
    · exact congrArg list (castItems_self ih)
    · exact nofun
  | array _ _ ih =>
    rw [cast]
    · exact congrArg list (castItems_self ih)
    · exact nofun
  | struct nodup length_eq _ ih =>
    -- every field finds its own cell under its name
    rw [cast]
    · have hlookup := lookup_names nodup (by rw [length_eq, List.length_map])
      rw [List.map_map] at hlookup
      simp only [fieldsOf]
      rw [castFields_self (fun f hf => find?_of_nodup nodup hf) length_eq ih]
      exact congrArg struct hlookup
    · exact nofun

end Cell

namespace Table

/-- A table as it is stored: its columns have different names, and its rows have one cell for each
    column, of the type of the column. -/
structure WellFormed (t : Table) : Prop where
  names_nodup : t.names.Nodup
  rows_fit : ∀ row ∈ t.rows, List.Forall₂ (fun c cell => Cell.Fits c.type cell) t.columns row
  rows_eq_nil : t.columns = [] → t.rows = []

variable {t : Table}

/-- The cell of a row in a column is of the type of the column. -/
theorem WellFormed.fits_cell (h : t.WellFormed) {name : String} {place : Nat} {type : DataType}
    (hplace : t.indexOf? name = some place) (htype : t.typeOf? name = some type) {row : Row}
    (hrow : row ∈ t.rows) : Cell.Fits type (Row.cell row place) := by
  rw [typeOf?, column?_eq_bind, hplace, Option.bind_some, Option.map_eq_some_iff] at htype
  obtain ⟨c, hc, rfl⟩ := htype
  obtain ⟨hlt, rfl⟩ := List.getElem?_eq_some_iff.1 hc
  have hfit := h.rows_fit row hrow
  have hlength : place < row.length := hfit.length_eq ▸ hlt
  rw [Row.cell, List.getD_eq_getElem _ _ hlength]
  exact hfit.get hlt hlength

/-- A cast to the types of the columns changes nothing. -/
theorem WellFormed.castTo_self (h : t.WellFormed) : t.castTo (t.columns.map (·.type)) = t := by
  have hzip : t.columns.zip (t.columns.map (·.type)) = t.columns.map fun c => (c, c.type) := by
    conv_lhs => rw [← List.map_id t.columns, List.map_map, List.zip_map']
    rfl
  have hrows : ∀ row ∈ t.rows, ((t.columns.map fun c => (c, c.type)).zip row).map
      (fun x => x.2.cast x.1.1.type x.1.2) = row := by
    intro row hrow
    have hfit := h.rows_fit row hrow
    clear hrow
    generalize t.columns = columns at hfit
    induction hfit with
    | nil => rfl
    | cons hcell _ ih =>
      rw [List.map_cons, List.zip_cons_cons, List.map_cons, ih]
      exact congrArg (· :: _) (Cell.cast_self hcell)
  rw [castTo, hzip, List.map_map]
  refine congrArg₂ Table.mk ?_ ?_
  · exact List.map_id t.columns
  · rw [List.map_congr_left hrows]
    exact List.map_id t.rows

/-- The columns are at the places in their order. -/
theorem map_indexOf?_names (hnodup : t.names.Nodup) :
    t.names.map t.indexOf? = (List.range t.columns.length).map some := by
  have hlength : t.names.length = t.columns.length := List.length_map _
  apply List.ext_getElem
  · rw [List.length_map, List.length_map, List.length_range, hlength]
  · intro i hi _
    rw [List.length_map] at hi
    rw [List.getElem_map, List.getElem_map, List.getElem_range, indexOf?,
      List.findIdx?_eq_some_iff_getElem]
    refine ⟨hlength ▸ hi, by simp [names], fun j hj => ?_⟩
    have hne := List.pairwise_iff_getElem.1 hnodup j i (by omega) hi hj
    simpa [names] using hne

private theorem filterMap_indexOf?_names (hnodup : t.names.Nodup) :
    t.names.filterMap t.indexOf? = List.range t.columns.length := by
  calc t.names.filterMap t.indexOf?
      = (t.names.map t.indexOf?).filterMap id := by rw [List.filterMap_map]; rfl
    _ = ((List.range t.columns.length).map some).filterMap id := by
      rw [map_indexOf?_names hnodup]
    _ = List.range t.columns.length := by
      rw [List.filterMap_map]
      exact List.filterMap_some

/-- Looking up every place of a list gives the list. -/
theorem map_getD_range {α : Type} (as : List α) (a : α) :
    (List.range as.length).map (fun i => as.getD i a) = as := by
  apply List.ext_getElem
  · rw [List.length_map, List.length_range]
  · intro i _ hi
    rw [List.getElem_map, List.getElem_range, List.getD_eq_getElem _ _ hi]

/-- Selecting all columns changes nothing. -/
theorem WellFormed.select_self (h : t.WellFormed) : t.select t.names = t := by
  have hcolumns : (t.select t.names).columns = t.columns := by
    rw [columns_select, names, List.filterMap_map]
    have hfound : ∀ c ∈ t.columns, (t.column? ∘ Column.name) c = some c :=
      fun c hc => find?_of_nodup h.names_nodup hc
    rw [List.filterMap_congr hfound]
    exact List.filterMap_some
  have hrows : (t.select t.names).rows = t.rows := by
    rw [select, project, filterMap_indexOf?_names h.names_nodup]
    dsimp only
    split
    · rename_i hnone
      refine (h.rows_eq_nil ?_).symm
      simpa using hnone
    · conv_rhs => rw [← List.map_id t.rows]
      refine List.map_congr_left fun row hrow => ?_
      rw [(h.rows_fit row hrow).length_eq]
      exact map_getD_range row .null
  exact congrArg₂ Table.mk hcolumns hrows

end Table

end SharedTables
