import Mathlib
import SharedTables.Proofs.Predicate.RoundTrip
import SharedTables.Proofs.Table.FilterFailures
import SharedTables.Proofs.Table.Grouping
import SharedTables.Proofs.Table.Values
import SharedTables.Proofs.Text.Utf8Order
import SharedTables.Table.Record

/-!
# From a group to its rows

The value of a group can be asked for by a predicate.  Its canonical text, given to the strict
filter, keeps exactly the rows that were counted.  The exceptions are texts that end in a backslash,
which have no canonical form that reads back.

## Key results

- `Asks.roundTrips`, `Asks.holds_iff`: a value survives as a text, and the text asks for it
- `drill_eq`: drilling down keeps the rows that have the value
- `groups_drill_down`: groups, their rows, and all rows of the table
-/

namespace SharedTables

/-- A text that ends in a backslash. -/
def Cell.endsInBackslash : Cell → Bool
  | text s => s.toList.getLast? == some '\\'
  | _ => false

/-- The types whose values can be asked for. -/
inductive Drillable : DataType → Prop
  | int64 : Drillable .int64
  | boolean : Drillable .boolean
  | string : Drillable .string

/-- The literal asks for the cell in a column of integers, truth values or texts. -/
inductive Asks : DataType → Cell → Literal → Prop
  | null {type : DataType} : Asks type .null .null
  | integer {n : Int} (holds : DataType.holdsInt true 64 n = true) :
      Asks .int64 (.int n) (.integer n)
  | bool {b : Bool} : Asks .boolean (.bool b) (.bool b)
  | text {s : String} : Asks .string (.text s) (.text s)

/-- The rows with a value in a column, by way of the canonical text of the predicate that asks for
    it. -/
def Table.drill (t : Table) (name : String) (type : DataType) (value : Cell) :
    Except Failure Table := do
  let p ← (Predicate.ofParts (.text "=") (.text name) (value.toValue type)).mapError .predicate
  let text ← p.format.mapError .number
  t.filterStrict [.text text]

/-- Drilling down into a group of the column at a place gives the table: as many of the rows, in
    their order, as the group says, all with the value of the group. -/
structure Table.DrillsTo (t : Table) (name : String) (type : DataType) (place : Nat) (g : Group)
    (u : Table) : Prop where
  drill_eq : t.drill name type g.value = .ok u
  columns_eq : u.columns = t.columns
  sublist : u.rows.Sublist t.rows
  height_eq : u.height = g.count
  cell_eq : ∀ row ∈ u.rows, Row.cell row place = g.value

variable {type : DataType} {cell other : Cell} {l : Literal}

/-! ### Values as texts -/

private theorem Drillable.exists_asks (htype : Drillable type) (h : Cell.Fits type cell) :
    ∃ l, Asks type cell l := by
  cases htype with
  | int64 =>
    cases h with
    | null => exact ⟨_, .null⟩
    | int holds => exact ⟨_, .integer holds⟩
  | boolean =>
    cases h with
    | null => exact ⟨_, .null⟩
    | boolean => exact ⟨_, .bool⟩
  | string =>
    cases h with
    | null => exact ⟨_, .null⟩
    | string => exact ⟨_, .text⟩

/-- Cells of these types are the same key only if they are the same. -/
private theorem Drillable.agrees_iff (htype : Drillable type) (h : Cell.Fits type cell)
    (hother : Cell.Fits type other) : cell.agrees other = true ↔ cell = other := by
  cases htype <;> cases h <;> cases hother <;> simp [Cell.agrees]

/-- What is listed for the cell is the literal. -/
private theorem Asks.toValue_eq (h : Asks type cell l) : cell.toValue type = l.toValue := by
  cases h with
  | null => rw [Cell.toValue, Literal.toValue]
  | integer => rfl
  | bool => rfl
  | text => rfl

/-- Integers of up to 128 bits have few digits. -/
theorem length_toDigits_of_holdsInt {signed : Bool} {bits : Nat} {n : Int}
    (h : DataType.holdsInt signed bits n = true) (hbits : bits ≤ 128) :
    (Nat.toDigits 10 n.natAbs).length ≤ 4300 := by
  have hpow : 2 ^ (bits - 1) ≤ 2 ^ bits ∧ 2 ^ bits ≤ 2 ^ 128 :=
    ⟨Nat.pow_le_pow_right (by decide) (by omega), Nat.pow_le_pow_right (by decide) hbits⟩
  have hsmall : n.natAbs ≤ 2 ^ 128 := by
    simp only [DataType.holdsInt, DataType.minInt, DataType.maxInt, Bool.and_eq_true,
      decide_eq_true_eq, Nat.pow_eq] at h
    cases signed <;> simp only [if_true, if_false, Bool.false_eq_true] at h <;> omega
  refine (Nat.length_toDigits_le_iff (by decide) (by decide)).2 ?_
  -- far fewer digits than can be read
  calc n.natAbs ≤ 2 ^ 128 := hsmall
    _ < 10 ^ 39 := by norm_num
    _ ≤ 10 ^ 4300 := Nat.pow_le_pow_right (by decide) (by decide)

/-- The predicate that asks for a cell is read back from its canonical form, unless the cell is a
    text that ends in a backslash. -/
theorem Asks.roundTrips (h : Asks type cell l) (hclosed : cell.endsInBackslash = false)
    {op : Operator} {name : String} (hname : isColumnName name = true) :
    (Predicate.mk op name l hname).RoundTrips := by
  refine (Predicate.roundTrips_iff ?_).2 ?_
  · rintro x rfl
    cases h
  · -- what keeps a predicate from being read back: only a backslash at the end could come up
    intro hbad
    cases hbad with
    | backslash hlast =>
      cases h
      simp [Cell.endsInBackslash, hlast] at hclosed
    | infinite => cases h
    | nan => cases h
    | tooLong hlong =>
      cases h with
      | integer holds => exact Nat.not_lt.2 (length_toDigits_of_holdsInt holds (by decide)) hlong

/-- A predicate of valid parts is built. -/
private theorem ofParts_toValue {op : Operator} {name : String} (hname : isColumnName name = true) :
    Predicate.ofParts (.text op.symbol) (.text name) l.toValue = .ok ⟨op, name, l, hname⟩ := by
  rw [Predicate.ofParts, dif_pos hname]
  simp

/-! ### Comparisons with values -/

/-- The operand that a literal asking for a cell becomes. -/
def Cell.operand : Cell → Operand
  | int n => .integer n
  | text s => .text s
  | bool b => .bool b
  | _ => .null

theorem Asks.ofLiteral (h : Asks type cell l) {name : String} (hname : isColumnName name = true) :
    Operand.ofLiteral ⟨.eq, name, l, hname⟩ type = .ok cell.operand := by
  cases h with
  | null => rfl
  | integer => rfl
  | bool => rfl
  | text => rfl

/-- Rows can be compared with such an operand. -/
private theorem Asks.failure?_and_fault? (h : Asks type cell l) (place : Nat) :
    (Comparison.mk place type .eq cell.operand).failure? = none ∧
      (Comparison.mk place type .eq cell.operand).fault? = none := by
  cases h with
  | null => exact ⟨rfl, rfl⟩
  | @integer n holds =>
    -- 64 bits fit into 128
    have hholds : DataType.holdsInt true 128 n = true := by
      rw [DataType.holdsInt_signed_iff] at holds ⊢
      omega
    exact ⟨if_pos hholds, rfl⟩
  | bool => exact ⟨rfl, rfl⟩
  | text => exact ⟨rfl, rfl⟩

/-- Exactly the rows that have the cell pass the comparison. -/
theorem Asks.holds_iff (h : Asks type cell l) {place : Nat} {row : Row}
    (hrow : Cell.Fits type (Row.cell row place)) :
    (Comparison.mk place type .eq cell.operand).holds row = true ↔ Row.cell row place = cell := by
  rw [Comparison.holds]
  dsimp only
  -- the cell of the row is null or of the type of the column
  generalize Row.cell row place = found at hrow
  cases h with
  | null => cases found <;> simp [Cell.operand, Cell.isNull]
  | @integer n =>
    cases hrow with
    | null => simp [Cell.operand, Operand.compareCell]
    | int => simp [Cell.operand, Operand.compareCell, Operator.accepts]
  | @bool b =>
    cases hrow with
    | null => simp [Cell.operand, Operand.compareCell]
    | @boolean c =>
      cases b <;> cases c <;> simp [Cell.operand, Operand.compareCell, Operator.accepts]
  | @text s =>
    cases hrow with
    | null => simp [Cell.operand, Operand.compareCell]
    | string =>
      simp [Cell.operand, Operand.compareCell, Operator.accepts, Operand.places?,
        Text.Utf8.compareBytes_eq]

/-! ### Drilling down -/

variable {t u : Table} {name : String} {place : Nat}

namespace Table

/-- Drilling down keeps the rows that have the value. -/
theorem drill_eq (hname : isColumnName name = true) (hplace : t.indexOf? name = some place)
    (htype : t.typeOf? name = some type) (h : Asks type cell l)
    (hclosed : cell.endsInBackslash = false) :
    t.drill name type cell =
      .ok (t.filterRows (Comparison.mk place type .eq cell.operand).holds) := by
  obtain ⟨text, hformat, hparse⟩ : (Predicate.mk .eq name l hname).RoundTrips :=
    h.roundTrips hclosed hname
  -- the value of the bucket makes the predicate that asks for it
  have hbuilt : Predicate.ofParts (.text "=") (.text name) (cell.toValue type) =
      .ok ⟨.eq, name, l, hname⟩ := by
    rw [h.toValue_eq]
    show Predicate.ofParts (.text Operator.eq.symbol) _ _ = _
    exact ofParts_toValue hname
  obtain ⟨hfailure, hfault⟩ := h.failure?_and_fault? place
  -- the text is read back as the predicate that was written
  have hprepared : t.strictComparison (.text text) = .ok ⟨place, type, .eq, cell.operand⟩ := by
    rw [strictComparison_eq_ok_iff]
    refine ⟨⟨.eq, name, l, hname⟩, ?_, ?_, hfailure⟩
    · rw [Predicate.ofValue, hparse]
      rfl
    · exact comparison_eq_ok_iff.2 ⟨place, type, _, hplace, htype, h.ofLiteral hname, rfl⟩
  have hfilter : t.filterStrict [.text text] =
      .ok (t.filterRows (passes [⟨place, type, .eq, cell.operand⟩])) := by
    rw [filterStrict_eq_ok_iff]
    refine ⟨[⟨place, type, .eq, cell.operand⟩], ?_, ?_, rfl⟩
    · rw [List.mapM_cons, hprepared]
      rfl
    · simpa using hfault
  have hpasses : passes [⟨place, type, .eq, cell.operand⟩] =
      (Comparison.mk place type .eq cell.operand).holds := by
    funext row
    simp [passes]
  rw [drill, hbuilt, ← hpasses, ← hfilter]
  show (do let text ← (Predicate.format _).mapError _; _) = _
  rw [hformat]
  rfl

/-! ### Groups and their rows -/

/-- The rows that have the value of a group. -/
def part (t : Table) (place : Nat) (g : Group) : Table :=
  t.filterRows fun row => (Row.cell row place).agrees g.value

/-- No two groups have the same value. -/
private theorem groups_pairwise_ne {groups : List Group} (h : t.groups name = .ok groups) :
    groups.Pairwise fun g h => g.value ≠ h.value := by
  rw [Table.groups] at h
  split at h
  · cases h
  · obtain rfl := Except.ok.inj h
    rw [← List.pairwise_map]
    exact (Group.map_value_perm _).nodup_iff.2 (Cell.firsts_nodup _)

section

variable {groups : List Group} {g : Group}
variable (hplace : t.indexOf? name = some place) (hgroups : t.groups name = .ok groups)

include hplace hgroups

/-- The groups are the first occurrences among the cells of the column, with their numbers. -/
theorem mem_groups_iff : g ∈ groups ↔ g.value ∈ Cell.firsts (t.cells place) ∧
    g.count = (t.cells place).countP fun c => c.agrees g.value := by
  rw [Table.groups, hplace] at hgroups
  obtain rfl := Except.ok.inj hgroups
  exact Group.mem_ranked_ofCells_iff

/-- The part of a group has as many rows as the group says. -/
theorem height_part (hg : g ∈ groups) : (t.part place g).height = g.count := by
  rw [((mem_groups_iff hplace hgroups).1 hg).2, cells, List.countP_map,
    List.countP_eq_length_filter]
  rfl

variable (hwf : t.WellFormed) (htype : t.typeOf? name = some type)

include hwf htype

/-- The value of a group is a value of the type of the column. -/
theorem fits_group (hg : g ∈ groups) : Cell.Fits type g.value := by
  have hmem := Cell.mem_of_mem_firsts ((mem_groups_iff hplace hgroups).1 hg).1
  obtain ⟨row, hrow, hvalue⟩ := List.mem_map.1 hmem
  rw [← hvalue]
  exact hwf.fits_cell hplace htype hrow

variable (hdrillable : Drillable type)

include hdrillable

/-- A row agrees with the value of a group iff it has this value. -/
private theorem agrees_group_iff (hg : g ∈ groups) {row : Row} (hrow : row ∈ t.rows) :
    (Row.cell row place).agrees g.value = true ↔ Row.cell row place = g.value :=
  hdrillable.agrees_iff (hwf.fits_cell hplace htype hrow) (fits_group hplace hgroups hwf htype hg)

/-- Drilling down into a group gives its part. -/
private theorem drill_group (hname : isColumnName name = true) (hg : g ∈ groups)
    (hclosed : g.value.endsInBackslash = false) :
    t.drill name type g.value = .ok (t.part place g) := by
  obtain ⟨l, hl⟩ := hdrillable.exists_asks (fits_group hplace hgroups hwf htype hg)
  rw [drill_eq hname hplace htype hl hclosed]
  -- the comparison and the equality of keys agree on the rows of the table
  have hsame : ∀ row ∈ t.rows, (Comparison.mk place type .eq g.value.operand).holds row =
      (Row.cell row place).agrees g.value := by
    intro row hrow
    rw [Bool.eq_iff_iff, hl.holds_iff (hwf.fits_cell hplace htype hrow),
      agrees_group_iff hplace hgroups hwf htype hdrillable hg hrow]
  rw [part, filterRows, filterRows, List.filter_congr hsame]

/-- The rows of a part have the value of its group. -/
private theorem cell_of_mem_part (hg : g ∈ groups) {row : Row}
    (hrow : row ∈ (t.part place g).rows) :
    Row.cell row place = g.value := by
  obtain ⟨hmem, hagrees⟩ := List.mem_filter.1 hrow
  exact (agrees_group_iff hplace hgroups hwf htype hdrillable hg hmem).1 hagrees

/-- Every row of the table has the value of a group. -/
private theorem exists_group {row : Row} (hrow : row ∈ t.rows) :
    ∃ g ∈ groups, Row.cell row place = g.value := by
  -- the cell of the row agrees with a first occurrence, and so it is one
  have hmem : Row.cell row place ∈ t.cells place := List.mem_map_of_mem hrow
  obtain ⟨value, hvalue, hagrees⟩ := Cell.exists_mem_firsts hmem
  have hg : ⟨value, (t.cells place).countP fun c => c.agrees value⟩ ∈ groups :=
    (mem_groups_iff hplace hgroups).2 ⟨hvalue, rfl⟩
  exact ⟨_, hg, (agrees_group_iff hplace hgroups hwf htype hdrillable hg hrow).1 hagrees⟩

/-- The parts of some of the groups have the rows with one of their values. -/
private theorem flatMap_part_perm (keep : Cell → Bool) :
    ((groups.filter fun g => keep g.value).flatMap fun g => (t.part place g).rows).Perm
      (t.rows.filter fun row => keep (Row.cell row place)) := by
  have hagrees : ∀ g ∈ groups, ∀ row ∈ t.rows,
      (Row.cell row place).agrees g.value = true ↔ Row.cell row place = g.value :=
    fun g hg row => agrees_group_iff hplace hgroups hwf htype hdrillable hg
  -- values of two groups differ, so no row is in both parts
  have hexclude : (groups.filter fun g => keep g.value).Pairwise fun g h => ∀ row ∈ t.rows,
      (Row.cell row place).agrees g.value = true → (Row.cell row place).agrees h.value = false := by
    refine ((groups_pairwise_ne hgroups).imp_of_mem ?_).sublist List.filter_sublist
    intro g h hg hh hne row hrow hcell
    rw [hagrees g hg row hrow] at hcell
    rw [← Bool.not_eq_true, hagrees h hh row hrow, hcell]
    exact hne
  refine (flatMap_filter_perm hexclude).trans (.of_eq (List.filter_congr ?_))
  -- the rows with one of the values that are kept are those whose own cell is
  intro row hrow
  rw [Bool.eq_iff_iff, List.any_eq_true]
  constructor
  · rintro ⟨g, hg, hcell⟩
    obtain ⟨hg, hkeep⟩ := List.mem_filter.1 hg
    rwa [(hagrees g hg row hrow).1 hcell]
  · intro hkeep
    obtain ⟨g, hg, hcell⟩ := exists_group hplace hgroups hwf htype hdrillable hrow
    exact ⟨g, List.mem_filter.2 ⟨hg, hcell ▸ hkeep⟩, (hagrees g hg row hrow).2 hcell⟩

end

/-- Drilling down works for all groups of a column of integers, truth values or texts but those of
    texts that end in a backslash.  The parts exclude each other, and together they are the table
    without the rows of such texts. -/
theorem groups_drill_down (hwf : t.WellFormed) (hname : isColumnName name = true)
    (htype : t.typeOf? name = some type) (hdrillable : Drillable type) :
    ∃ place groups parts, t.indexOf? name = some place ∧ t.groups name = .ok groups ∧
      List.Forall₂ (t.DrillsTo name type place)
        (groups.filter fun g => !g.value.endsInBackslash) parts ∧
      parts.Pairwise (fun u v => ∀ row ∈ u.rows, row ∉ v.rows) ∧
      (parts.flatMap (·.rows)).Perm
        (t.rows.filter fun row => !(Row.cell row place).endsInBackslash) := by
  obtain ⟨place, hplace⟩ := exists_indexOf?_of_typeOf? htype
  obtain ⟨groups, hgroups⟩ : ∃ groups, t.groups name = .ok groups := by
    rw [Table.groups, hplace]
    exact ⟨_, rfl⟩
  have hcell : ∀ g ∈ groups, ∀ row ∈ (t.part place g).rows, Row.cell row place = g.value :=
    fun g hg row => cell_of_mem_part hplace hgroups hwf htype hdrillable hg
  -- the parts are the rows of each group, in the order of the groups
  refine ⟨place, groups, (groups.filter fun g => !g.value.endsInBackslash).map (t.part place),
    hplace, hgroups, ?_, ?_, ?_⟩
  · rw [List.forall₂_map_right_iff, List.forall₂_same]
    intro g hg
    obtain ⟨hg, hclosed⟩ := List.mem_filter.1 hg
    rw [Bool.not_eq_true'] at hclosed
    exact
      { drill_eq := drill_group hplace hgroups hwf htype hdrillable hname hg hclosed
        columns_eq := rfl
        sublist := List.filter_sublist
        height_eq := height_part hplace hgroups hg
        cell_eq := hcell g hg }
  · rw [List.pairwise_map]
    refine ((groups_pairwise_ne hgroups).imp_of_mem ?_).sublist List.filter_sublist
    -- a row in two parts would have two values
    intro g h hg hh hne row hrow hother
    exact hne ((hcell g hg row hrow).symm.trans (hcell h hh row hother))
  · rw [List.flatMap_map]
    exact flatMap_part_perm hplace hgroups hwf htype hdrillable fun c => !c.endsInBackslash

/-- Quotes, null, backslashes before quotes and a value twice: three groups and their rows. -/
theorem groups_drill_down_texts :
    let t : Table := ⟨[⟨"c", .string⟩],
      [[.text "it's"], [.null], [.text "it's"], [.text "a\\'b\""], [.text "end\\"]]⟩
    t.WellFormed ∧ isColumnName "c" = true ∧ t.typeOf? "c" = some .string ∧ Drillable .string ∧
    ∃ place groups parts, t.indexOf? "c" = some place ∧ t.groups "c" = .ok groups ∧
      List.Forall₂ (t.DrillsTo "c" .string place)
        (groups.filter fun g => !g.value.endsInBackslash) parts ∧
      parts.Pairwise (fun u v => ∀ row ∈ u.rows, row ∉ v.rows) ∧
      (parts.flatMap (·.rows)).Perm
        (t.rows.filter fun row => !(Row.cell row place).endsInBackslash) := by
  intro t
  have hwf : t.WellFormed := by
    refine ⟨by decide, ?_, nofun⟩
    intro row hrow
    simp only [t, List.mem_cons, List.not_mem_nil, or_false] at hrow
    rcases hrow with rfl | rfl | rfl | rfl | rfl
    · exact .cons .string .nil
    · exact .cons .null .nil
    · exact .cons .string .nil
    · exact .cons .string .nil
    · exact .cons .string .nil
  exact ⟨hwf, by decide, rfl, .string, groups_drill_down hwf (by decide) rfl .string⟩

end Table

end SharedTables
