import Mathlib
import SharedTables.Proofs.Sharing.PartitionVerdict
import SharedTables.Proofs.Sharing.Pruned
import SharedTables.Proofs.Table.FilterFailures

/-!
# Pruning and filtering agree

A file is pruned by its partition values, the rows of a file are filtered by their cells.  Where the
partition value of a file is the text of the cell that all of its rows have, both come to the same:
the file is kept iff all of its rows are, and dropped iff none is.

The one exception are integers of more than 128 bits.  Pruning compares them like any other, but
filtering has no comparison for them and fails.

## Key results

- `pruneFiles_result`, `filterBy_result`: what the two come to for one predicate
- `pruning_agrees_iff`: they agree iff the literal is no such integer
-/

namespace SharedTables

/-- The table has the column, and all of its rows, of which there is at least one, have the same
    cell in it. -/
structure Table.Uniform (t : Table) (name : String) (type : DataType) (cell : Cell) : Prop where
  rows_ne_nil : t.rows ≠ []
  typeOf : t.typeOf? name = some type
  cells : ∃ place, t.indexOf? name = some place ∧ ∀ row ∈ t.rows, Row.cell row place = cell

/-! ### Pruning one file -/

/-- A file whose partition value can be compared with the literal is kept iff the comparison
    holds. -/
theorem pruneFiles_result {file : FileReference} {p : Predicate} {s : String} {accepted : Bool}
    (hvalue : file.partitionValues.lookup? p.column = some (.text s))
    (hverdict : PartitionValue.verdict (.text s) p = .ok (some accepted)) :
    (pruneFiles [file] [p]).result = .ok (if accepted then [file] else []) :=
  pruneFiles_singleton (FileReference.result_admits_of_verdict
    (FileReference.value?_of_text hvalue) hverdict)

/-! ### Filtering by one predicate -/

/-- A predicate that can be compared with its column is evaluated on every row, if there is a value
    for its literal. -/
theorem filterBy_result {t : Table} {p : Predicate} {place : Nat} {type : DataType} {o : Operand}
    (hplace : t.indexOf? p.column = some place) (htype : t.typeOf? p.column = some type)
    (ho : Operand.ofLiteral p type = .ok o) :
    (t.filterBy [p]).result =
      match o.failure? type with
      | none => t.keepAll [⟨place, type, p.operator, o⟩]
      | some e => .error e :=
  Table.result_filterBy_singleton
    (Table.comparison_eq_ok_iff.2 ⟨place, type, o, hplace, htype, ho, rfl⟩)

/-- A comparison that comes out alike on all rows keeps all of them or none. -/
private theorem rows_keepAll {t : Table} {c : Comparison} {accepted : Bool}
    (hfault : c.fault? = none) (hrows : ∀ row ∈ t.rows, c.holds row = accepted) :
    ∃ r, t.keepAll [c] = .ok r ∧ r.rows = if accepted then t.rows else [] := by
  refine ⟨t.filterRows c.holds, ?_, ?_⟩
  · rw [Table.keepAll_singleton, hfault]
  · cases accepted with
    | true => exact List.filter_eq_self.2 hrows
    | false => exact List.filter_eq_nil_iff.2 fun row hrow => by simp [hrows row hrow]

/-! ### Both together -/

/-- The literal is no integer of more than 128 bits. -/
def Literal.FitsTable (l : Literal) : Prop :=
  ∀ n, l = .integer n → -2 ^ 127 ≤ n ∧ n < 2 ^ 127

/-- There is a value for the literal unless it is an integer of more than 128 bits. -/
private theorem failure?_eq_none_iff_fitsTable {type : DataType} {cell : Cell} {s : String}
    (hs : PartitionText type cell s) {p : Predicate} {o : Operand}
    (ho : Operand.ofLiteral p type = .ok o) :
    o.failure? type = none ↔ p.value.FitsTable := by
  have htype : type ≠ .null := by cases hs <;> simp
  rw [Literal.FitsTable]
  constructor
  · intro h n hn
    cases Operand.ofLiteral_eq_ok_iff.1 ho with
    | nothing => exact absurd rfl htype
    | @integer _ m hvalue =>
      obtain rfl : n = m := by simpa [hn] using hvalue
      -- without a failure the integer is one of 128 bits
      have hholds : DataType.holdsInt true 128 n = true := by
        by_contra hlarge
        rw [Operand.failure?, if_neg hlarge] at h
        cases h
      exact DataType.holdsInt_signed_iff.1 hholds
    | null hvalue | number hvalue | bool hvalue | text hvalue | date hvalue | moment hvalue =>
      -- an integer is converted to nothing else
      rw [hn] at hvalue
      cases hvalue
  · intro h
    cases Operand.ofLiteral_eq_ok_iff.1 ho with
    | integer hvalue => exact if_pos (DataType.holdsInt_signed_iff.2 (h _ hvalue))
    | _ => cases hs <;> rfl

/-- Partition columns are neither enumerations nor points in time, so there is no fault in
    comparisons with them. -/
private theorem fault?_eq_none_of_partitionText {type : DataType} {cell : Cell} {s : String}
    (hs : PartitionText type cell s) (place : Nat) (op : Operator) (o : Operand) :
    (⟨place, type, op, o⟩ : Comparison).fault? = none := by
  cases hs <;> cases o <;> rfl

/-- Pruning by a partition value and filtering by the cell that it is the text of agree iff the
    literal is no integer of more than 128 bits. -/
theorem pruning_agrees_iff {file : FileReference} {t : Table} {p : Predicate} {type : DataType}
    {cell : Cell} {s : String}
    (hvalue : file.partitionValues.lookup? p.column = some (.text s))
    (ht : t.Uniform p.column type cell) (hs : PartitionText type cell s)
    (haccepted : ∃ o, Operand.ofLiteral p type = .ok o) (hfloat : ∀ x, p.value ≠ .float x)
    (horder : ∀ v, p.value = .text v → p.operator.isEquality = false → ¬ LooksNumeric s) :
    (((pruneFiles [file] [p]).result = .ok [file] ↔
        ∃ r, (t.filterBy [p]).result = .ok r ∧ r.rows = t.rows) ∧
      ((pruneFiles [file] [p]).result = .ok [] ↔
        ∃ r, (t.filterBy [p]).result = .ok r ∧ r.rows = [])) ↔
      p.value.FitsTable := by
  obtain ⟨o, ho⟩ := haccepted
  obtain ⟨place, hplace, hcells⟩ := ht.cells
  -- pruning decides in any case, as the verdict on the text is that on the cell
  have hprune := pruneFiles_result hvalue (verdict_eq hs ho hfloat horder)
  have hvalueIff := failure?_eq_none_iff_fitsTable hs ho
  rw [hprune, filterBy_result hplace ht.typeOf ho]
  by_cases hfits : p.value.FitsTable
  · -- every row has the cell, so all rows pass or none does
    obtain ⟨r, hr, hrows⟩ := @rows_keepAll t ⟨place, type, p.operator, o⟩ _
      (fault?_eq_none_of_partitionText hs ..) fun row hrow => by
        rw [Comparison.holds_eq, hcells row hrow]
    have hne := ht.rows_ne_nil
    refine iff_of_true ?_ hfits
    rw [hvalueIff.2 hfits, hr]
    cases hacc : o.admits p.operator type cell with
    | true =>
      rw [hacc, if_pos rfl] at hrows
      simp [hrows, hne]
    | false =>
      rw [hacc, if_neg (by simp)] at hrows
      simp [hrows, Ne.symm hne]
  · -- pruning decides all the same, filtering fails
    refine iff_of_false ?_ hfits
    cases hfailure : o.failure? type with
    | none => exact absurd (hvalueIff.1 hfailure) hfits
    | some e => cases o.admits p.operator type cell <;> simp

/-- A file of one day and a table with two rows of that day agree on an order of days. -/
theorem pruning_agrees_on_dates :
    ((pruneFiles [⟨"f", [("d", .text "2024-01-15")], .null, none, .null, []⟩]
          [⟨.ge, "d", .text "2023-12-31", by decide⟩]).result =
        .ok [⟨"f", [("d", .text "2024-01-15")], .null, none, .null, []⟩] ↔
      ∃ r, ((⟨[⟨"d", .date⟩, ⟨"n", .int64⟩], [[.date 19737, .int 1], [.date 19737, .int 2]]⟩ :
          Table).filterBy [⟨.ge, "d", .text "2023-12-31", by decide⟩]).result = .ok r ∧
        r.rows = [[.date 19737, .int 1], [.date 19737, .int 2]]) := by
  refine ((pruning_agrees_iff rfl ⟨by simp, rfl, 0, rfl, ?_⟩ (.date ⟨2024, 1, 15⟩ (by decide))
    ⟨_, rfl⟩ (by simp) ?_).2 ?_).1
  · simp only [List.mem_cons, List.not_mem_nil, or_false]
    rintro row (rfl | rfl) <;> rfl
  · intro v _ _
    exact not_looksNumeric_date (d := ⟨2024, 1, 15⟩) (by decide)
  · intro n hn
    cases hn

/-- An integer of more than 128 bits is compared by pruning and not by filtering. -/
theorem pruning_disagrees_beyond_128_bits :
    Predicate.parse "c < 170141183460469231731687303715884105728" =
        .ok ⟨.lt, "c", .integer 170141183460469231731687303715884105728, by decide⟩ ∧
      (pruneFiles [⟨"f", [("c", .text "5")], .null, none, .null, []⟩]
          [⟨.lt, "c", .integer 170141183460469231731687303715884105728, by decide⟩]).result =
        .ok [⟨"f", [("c", .text "5")], .null, none, .null, []⟩] ∧
      ((⟨[⟨"c", .int64⟩], [[.int 5]]⟩ : Table).filterBy
          [⟨.lt, "c", .integer 170141183460469231731687303715884105728, by decide⟩]).result =
        .error (.table .invalidOperation) := by
  refine ⟨rfl, ?_, ?_⟩
  · rfl
  · rfl

end SharedTables
