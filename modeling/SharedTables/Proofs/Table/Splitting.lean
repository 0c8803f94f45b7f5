import Mathlib
import SharedTables.Proofs.Predicate.Operators
import SharedTables.Proofs.Table.Usable
import SharedTables.Proofs.Table.Values

/-!
# How the operators split the rows

A literal other than null is converted for its column before the operator is looked at, and a cell
compares with it in one way unless it is null.  So the operators equal, less and greater divide the
rows that are not null among themselves, and the other three keep unions of these.

## Key results

- `Operand.exists_compareCell`: every cell but null has an answer
- `keeps_of_comparison`: both filters keep the rows that pass the prepared comparison
- `operators_split_rows`: the six operators on one column, and the two questions about null
-/

namespace SharedTables

/-! ### One cell -/

@[simp] theorem Operand.compareCell_null (o : Operand) (type : DataType) :
    o.compareCell type .null = none := by
  cases o <;> rfl

/-- Where there is no fault in a comparison with a moment, the moment is a point in time for the
    clock of the column. -/
private theorem Comparison.exists_instantIn? {place : Nat} {unit : TimeUnit} {zone : Option Zone}
    {op : Operator} {m : Moment}
    (hfault : fault? ⟨place, .datetime unit zone, op, .moment m⟩ = none) :
    ∃ instant, m.instantIn? zone = some instant := by
  cases zone with
  | none => exact ⟨m.instant, Moment.instantIn?_of_utc (.inl rfl) m⟩
  | some z =>
    cases hoffset : m.offset with
    | some offset => exact ⟨m.instant, by simp [Moment.instantIn?, hoffset]⟩
    | none =>
      -- a reading without an offset has to be one of the clock, and only once
      cases hinstant : z.instant? m.reading with
      | some instant => exact ⟨instant, by simp [Moment.instantIn?, hoffset, hinstant]⟩
      | none => simp [fault?, hoffset, hinstant] at hfault

/-- A cell of the type that the literal was converted for compares with it unless it is null, if
    there is no fault in comparisons with the literal. -/
theorem Operand.exists_compareCell {p : Predicate} {place : Nat} {type : DataType} {op : Operator}
    {o : Operand} {cell : Cell} (ho : Converts p type o) (hvalue : p.value ≠ .null)
    (hfault : Comparison.fault? ⟨place, type, op, o⟩ = none) (hfit : Cell.Fits type cell)
    (hcell : cell.isNull = false) : ∃ order, o.compareCell type cell = some order := by
  -- by what the literal became: a cell that fits the type has a form that compares with it
  cases ho with
  | null hnull => exact absurd hnull hvalue
  | nothing => cases hfit with | null => cases hcell
  | integer _ hnumeric =>
    cases hfit with
    | null => cases hcell
    | int | float32 | float64 | decimal => exact ⟨_, rfl⟩
    | _ => cases hnumeric
  | number _ hnumeric =>
    cases hfit with
    | null => cases hcell
    | int | float32 | float64 | decimal => exact ⟨_, rfl⟩
    | _ => cases hnumeric
  | bool => cases hfit with | null => cases hcell | boolean => exact ⟨_, rfl⟩
  | text _ htextual =>
    cases hfit with
    | null => cases hcell
    | string | categorical => exact ⟨_, rfl⟩
    | enum =>
      -- both answers of an enumeration, by place and by bytes, are answers
      rw [compareCell]
      split <;> exact ⟨_, rfl⟩
    | _ => cases htextual
  | date => cases hfit with | null => cases hcell | date => exact ⟨_, rfl⟩
  | moment =>
    obtain ⟨instant, hinstant⟩ := Comparison.exists_instantIn? hfault
    cases hfit with
    | null => cases hcell
    | datetime =>
      rw [compareCell, hinstant]
      exact ⟨_, rfl⟩

private theorem Cell.isNull_iff {cell : Cell} : cell.isNull = true ↔ cell = .null := by
  cases cell <;> simp [isNull]

namespace Comparison

variable {place : Nat} {type : DataType} {o : Operand} {row : Row}

/-- A comparison with a literal other than null holds if the operator accepts how the cell
    compares. -/
theorem holds_eq_any (ho : o ≠ .null) (op : Operator) (row : Row) :
    holds ⟨place, type, op, o⟩ row = (o.compareCell type (Row.cell row place)).any op.accepts := by
  rw [holds]
  cases o with
  | null => exact absurd rfl ho
  | _ => dsimp only; split <;> rename_i hcompare <;> simp [hcompare]

/-- No operator accepts a null cell, and on any other cell the operators follow an order. -/
private theorem holds_splits {p : Predicate} (ho : Operand.Converts p type o)
    (hvalue : p.value ≠ .null)
    {op : Operator} (hfault : fault? ⟨place, type, op, o⟩ = none)
    (hfit : Cell.Fits type (Row.cell row place)) :
    ((Row.cell row place).isNull = true ∧ ∀ op, holds ⟨place, type, op, o⟩ row = false) ∨
      ((Row.cell row place).isNull = false ∧
        FollowsOrder fun op => holds ⟨place, type, op, o⟩ row = true) := by
  have ho_ne : o ≠ .null := by
    rintro rfl
    cases ho with | null hnull => exact hvalue hnull
  simp only [holds_eq_any ho_ne]
  -- the six operators share one comparison of the cell, and a null cell has none
  cases hcell : (Row.cell row place).isNull with
  | true =>
    refine .inl ⟨rfl, fun op => ?_⟩
    rw [Cell.isNull_iff.1 hcell, Operand.compareCell_null, Option.any_none]
  | false =>
    obtain ⟨order, horder⟩ := Operand.exists_compareCell ho hvalue hfault hfit hcell
    simp only [horder, Option.any_some]
    exact .inr ⟨trivial, followsOrder_accepts order⟩

end Comparison

namespace Table

variable {t : Table} {p : Predicate} {c : Comparison}

/-! ### One predicate -/

/-- The lenient filter by the predicate keeps these rows, and so does the strict filter by every
    text of it. -/
structure Keeps (t : Table) (p : Predicate) (keep : Row → Bool) : Prop where
  lenient : (t.filterBy [p]).result = .ok (t.filterRows keep)
  strict : ∀ s, Predicate.parse s = .ok p → t.filterStrict [.text s] = .ok (t.filterRows keep)

/-- Both filters keep the rows that pass the comparison, if its literal can be used and there is no
    fault in it. -/
theorem keeps_of_comparison (hc : t.comparison p = .ok c) (hfailure : c.failure? = none)
    (hfault : c.fault? = none) : t.Keeps p c.holds where
  -- both filters come down to one prepared comparison
  lenient := by
    rw [result_filterBy_singleton hc, hfailure]
    dsimp only
    rw [keepAll_singleton, hfault]
  strict := by
    intro s hs
    have hprepared : t.strictComparison (.text s) = .ok c :=
      strictComparison_text_eq_ok_iff.2 ⟨p, hs, hc, (failure?_eq_none_iff hc).1 hfailure⟩
    rw [filterStrict_singleton, hprepared]
    dsimp only
    rw [keepAll_singleton, hfault]

/-- If the lenient filter does not fail on a predicate whose literal is converted, the literal can
    be used and there is no fault in the comparison. -/
private theorem compared_of_filterBy {u : Table} (hc : t.comparison p = .ok c)
    (hu : (t.filterBy [p]).result = .ok u) : c.failure? = none ∧ c.fault? = none := by
  rw [result_filterBy_singleton hc, keepAll_singleton] at hu
  split at hu
  · rename_i hfailure
    split at hu
    · rename_i hfault
      exact ⟨hfailure, hfault⟩
    · cases hu
  · cases hu

/-- A question about null is answered for every column. -/
private theorem keeps_null {place : Nat} (hplace : t.indexOf? p.column = some place)
    (hvalue : p.value = .null) (hequality : p.operator.isEquality = true) :
    t.Keeps p fun row =>
      if p.operator = .eq then (Row.cell row place).isNull else !(Row.cell row place).isNull := by
  obtain ⟨type, htype⟩ := exists_typeOf?_of_indexOf? hplace
  have hc := comparison_eq_ok_iff.2
    ⟨place, type, .null, hplace, htype, (Operand.Converts.null hvalue hequality).ofLiteral_eq, rfl⟩
  exact keeps_of_comparison hc rfl rfl

/-! ### Six operators -/

/-- A literal other than null that a column is compared with divides the rows among the operators
    equal, less and greater, and the rows with a null cell, which no operator keeps.  The other
    three operators keep the unions.  Null itself divides the rows in two. -/
theorem operators_split_rows {column : String} {value : Literal} {place : Nat} (h : t.WellFormed)
    (hcolumn : isColumnName column = true) (hplace : t.indexOf? column = some place)
    (hvalue : value ≠ .null)
    (hconverts : ∀ op, ∃ c, t.comparison ⟨op, column, value, hcolumn⟩ = .ok c)
    (hkeeps : ∀ op, ∃ u, (t.filterBy [⟨op, column, value, hcolumn⟩]).result = .ok u) :
    (∃ keep : Operator → Row → Bool,
      (∀ op, t.Keeps ⟨op, column, value, hcolumn⟩ (keep op)) ∧
      ∀ row ∈ t.rows,
        ((Row.cell row place).isNull = true ∧ ∀ op, keep op row = false) ∨
        ((Row.cell row place).isNull = false ∧ FollowsOrder fun op => keep op row = true)) ∧
    (t.typeOf? column = some .null → ∀ row ∈ t.rows, (Row.cell row place).isNull = true) ∧
    t.Keeps ⟨.eq, column, .null, hcolumn⟩ (fun row => (Row.cell row place).isNull) ∧
    t.Keeps ⟨.ne, column, .null, hcolumn⟩ (fun row => !(Row.cell row place).isNull) := by
  refine ⟨?_, ?_, keeps_null hplace rfl rfl, keeps_null hplace rfl rfl⟩
  · -- the operator has no part in what the literal is converted to
    obtain ⟨c, hc⟩ := hconverts .eq
    obtain ⟨place', type, o, hplace', htype, ho, -⟩ := comparison_eq_ok_iff.1 hc
    obtain rfl := Option.some.inj (hplace'.symm.trans hplace)
    have hconv := Operand.ofLiteral_eq_ok_iff.1 ho
    have hprepared : ∀ op, t.comparison ⟨op, column, value, hcolumn⟩ =
        .ok ⟨place', type, op, o⟩ := fun op =>
      comparison_eq_ok_iff.2 ⟨place', type, o, hplace, htype,
        (hconv.of_operator hvalue op).ofLiteral_eq, rfl⟩
    have hcompared : ∀ op, (Comparison.mk place' type op o).failure? = none ∧
        (Comparison.mk place' type op o).fault? = none := by
      intro op
      obtain ⟨u, hu⟩ := hkeeps op
      exact compared_of_filterBy (hprepared op) hu
    refine ⟨fun op => Comparison.holds ⟨place', type, op, o⟩, fun op => ?_, fun row hrow =>
      Comparison.holds_splits hconv hvalue (hcompared .eq).2 (h.fits_cell hplace htype hrow)⟩
    exact keeps_of_comparison (hprepared op) (hcompared op).1 (hcompared op).2
  · intro htype row hrow
    have hfit := h.fits_cell hplace htype hrow
    generalize Row.cell row place = cell at hfit
    cases hfit with | null => rfl

/-- A table of numbers, among them "not a number", with a null cell. -/
def measured : Table :=
  ⟨[⟨"x", .float64⟩],
    [[.float .nan], [.null], [.float (.infinite true)], [.float (.infinite false)]]⟩

/-- "Not a number" is on one side of zero, the null cell is on none. -/
theorem operators_split_measured :
    (∃ keep : Operator → Row → Bool,
      (∀ op, measured.Keeps ⟨op, "x", .integer 0, rfl⟩ (keep op)) ∧
      (FollowsOrder fun op => keep op [.float .nan] = true) ∧ ∀ op, keep op [.null] = false) ∧
    measured.filterStrict [.text "x > 0"] =
      .ok ⟨measured.columns, [[.float .nan], [.float (.infinite false)]]⟩ ∧
    measured.filterStrict [.text "x = null"] = .ok ⟨measured.columns, [[.null]]⟩ := by
  have hwf : measured.WellFormed := by
    refine ⟨by decide, ?_, nofun⟩
    simp only [measured, List.forall_mem_cons, List.forall₂_cons, List.forall₂_nil_left_iff,
      and_true]
    exact ⟨.float64 trivial, .null, .float64 trivial, .float64 trivial, nofun⟩
  -- the three parts are cases of the theorem for this table and the literal 0
  obtain ⟨⟨keep, hkeep, hrows⟩, -, hnull, -⟩ := @operators_split_rows measured "x" (.integer 0) 0
    hwf rfl rfl nofun (fun op => ⟨_, rfl⟩) (fun op => ⟨_, rfl⟩)
  refine ⟨⟨keep, hkeep, ?_, ?_⟩, rfl, hnull.strict "x = null" rfl⟩
  · rcases hrows [.float .nan] (by simp [measured]) with ⟨hcell, -⟩ | ⟨-, hop⟩
    · cases hcell
    · exact hop
  · rcases hrows [.null] (by simp [measured]) with ⟨-, hop⟩ | ⟨hcell, -⟩
    · exact hop
    · cases hcell

end Table

end SharedTables
