import Mathlib
import SharedTables.Proofs.Calendar.DateOrder
import SharedTables.Proofs.Number.IntText
import SharedTables.Proofs.Table.Operands
import SharedTables.Proofs.Text.Utf8Order
import SharedTables.Sharing.Pruning
import SharedTables.Table.Comparison

/-!
# Partition values and cells

A partition value is the text of the cell that every row of the file has in the partition column.
Comparing the text with a literal says what comparing the cell says.

## Key results

- `coerce_intText`, `coerce_text`: what looks like a number is read as one, and no other text
- `verdict_eq`: the verdict on the text is the verdict on the cell
-/

namespace SharedTables

/-- How the cell of a partition column is written among the partition values of a file. -/
inductive PartitionText : DataType → Cell → String → Prop
  | integer (n : Int) (h : DataType.holdsInt true 64 n = true) :
      PartitionText .int64 (.int n) (intText n)
  | text (s : String) : PartitionText .string (.text s) s
  | bool (b : Bool) : PartitionText .boolean (.bool b) (if b then "true" else "false")
  | date (d : Date) (h : d.isValid = true) : PartitionText .date (.date d.daysSinceEpoch) d.text

/-- A text that pruning takes for a number. -/
def LooksNumeric (s : String) : Prop :=
  looksInteger s = true ∨ looksDecimal s = true

/-- Whether a cell passes a comparison with the operand. -/
def Operand.admits (o : Operand) (op : Operator) (type : DataType) (cell : Cell) : Bool :=
  match o with
  | .null => if op = .eq then cell.isNull else !cell.isNull
  | o =>
    match o.compareCell type cell with
    | some order => op.accepts order
    | none => false

theorem Comparison.holds_eq (c : Comparison) (row : Row) :
    c.holds row = c.operand.admits c.operator c.type (Row.cell row c.place) := rfl

open PartitionValue

/-! ### Texts that look like numbers -/

/-- A minus sign in front of a digit does not count, and a text without a line feed is not cut. -/
theorem numberBody_signText {s : String} (negative : Bool) {c : Char} {ds : List Char}
    (hs : s.toList = Number.signText negative ++ c :: ds) (hc : c.isDigit = true)
    (hds : '\n' ∉ ds) : numberBody s = c :: ds := by
  have hminus : c ≠ '-' := by rintro rfl; exact absurd hc (by decide)
  have hlast : (c :: ds).getLast? ≠ some '\n' := by
    intro hlast
    rcases List.mem_cons.1 (List.mem_of_getLast? hlast) with rfl | hmem
    · exact absurd hc (by decide)
    · exact hds hmem
  rw [numberBody, hs]
  cases negative with
  | true => exact if_neg hlast
  | false => simp [Number.signText, hminus, hlast]

/-- No digit is a line feed. -/
theorem newline_notMem_of_isDigit {ds : List Char} (hds : ∀ c ∈ ds, c.isDigit = true) :
    '\n' ∉ ds :=
  fun hmem => absurd (hds _ hmem) (by decide)

private theorem numberBody_intText (n : Int) : numberBody (intText n) =
    (natText n.natAbs).toList := by
  have hdigits : ∀ c ∈ (natText n.natAbs).toList, c.isDigit = true :=
    fun c hc => isDigit_of_mem_natText hc
  have htext := toList_intText n
  obtain ⟨c, ds, hcons⟩ := List.exists_cons_of_ne_nil (natText_ne_nil n.natAbs)
  rw [hcons] at htext hdigits ⊢
  rw [List.forall_mem_cons] at hdigits
  exact numberBody_signText _ htext hdigits.1 (newline_notMem_of_isDigit hdigits.2)

/-- The text of an integer of 64 bits stands for the integer. -/
theorem coerce_intText {n : Int} (h : DataType.holdsInt true 64 n = true) :
    coerce (.text (intText n)) = .ok (.int n) := by
  have hlooks : looksInteger (intText n) = true := by
    rw [looksInteger, numberBody_intText, Bool.and_eq_true, List.all_eq_true]
    exact ⟨by simpa using natText_ne_nil n.natAbs,
      fun c hc => isDecimalDigit_of_isDigit (isDigit_of_mem_natText hc)⟩
  -- 64 bits make at most 19 digits
  have hlength : (natText n.natAbs).length ≤ maxIntegerDigits := by
    refine le_trans ((length_natText_le_iff (show 0 < 19 by decide)).2 ?_) (by decide)
    rw [DataType.holdsInt_signed_iff] at h
    omega
  rw [coerce, if_pos hlooks, readInteger_intText hlength]
  rfl

/-- The text of a day does not look like a number. -/
theorem not_looksNumeric_date {d : Date} (h : d.isValid = true) : ¬ LooksNumeric d.text := by
  obtain ⟨-, hy, -, hm, -, -, ha⟩ := Date.bounds h
  have htext := Date.toList_text d
  obtain ⟨hlength, hyear, -⟩ := Text.padZeros_natText (show 0 < 4 by decide)
    (show d.year < 10 ^ 4 by omega)
  obtain ⟨-, hmonth, -⟩ := Text.padZeros_natText (show 0 < 2 by decide)
    (show d.month < 10 ^ 2 by omega)
  obtain ⟨-, hday, -⟩ := Text.padZeros_natText (show 0 < 2 by decide)
    (show d.day < 10 ^ 2 by omega)
  generalize (padZeros 4 (natText d.year)).toList = year at htext hlength hyear
  generalize (padZeros 2 (natText d.month)).toList = month at htext hmonth
  generalize (padZeros 2 (natText d.day)).toList = day at htext hday
  -- the body is the whole text, as it does not start with a minus sign
  have hbody : numberBody d.text = year ++ '-' :: (month ++ '-' :: day) := by
    obtain ⟨c, ds, rfl⟩ := List.exists_cons_of_ne_nil (List.ne_nil_of_length_pos
      (show 0 < year.length by omega))
    rw [List.cons_append] at htext ⊢
    refine numberBody_signText false htext (hyear c (by simp)) ?_
    have hfeed := fun {ds} => @newline_notMem_of_isDigit ds
    simp [hfeed fun c hc => hyear c (List.mem_cons_of_mem _ hc), hfeed hmonth, hfeed hday]
  have hminus : Text.isDecimalDigit '-' = false := by decide
  rintro (hlooks | hlooks)
  · simp [looksInteger, hbody, hminus] at hlooks
  · -- the digits end at the first minus sign, which is no point
    obtain ⟨htake, hdrop⟩ := @span_append Char Text.isDecimalDigit year
      ('-' :: (month ++ '-' :: day)) (fun c hc => isDecimalDigit_of_isDigit (hyear c hc))
      (by rintro c ⟨⟩; exact hminus)
    rw [looksDecimal, hbody, List.span_eq_takeWhile_dropWhile, htake, hdrop] at hlooks
    exact Bool.false_ne_true hlooks

/-- A text that does not look like a number stands for itself. -/
theorem coerce_text {s : String} (h : ¬ LooksNumeric s) : coerce (.text s) = .ok (.text s) := by
  rw [LooksNumeric, not_or] at h
  rw [coerce, if_neg h.1, if_neg h.2]

/-! ### Verdicts -/

/-- Texts are compared as they are, unless an order is asked for and the value looks like a
    number. -/
private theorem verdict_text {op : Operator} {column v s : String}
    {hcolumn : isColumnName column = true}
    (horder : op.isEquality = false → ¬ LooksNumeric s) :
    verdict (.text s) ⟨op, column, .text v, hcolumn⟩ = .ok (some (op.accepts (compare s v))) := by
  simp only [verdict, Value.toText_text]
  show (if op.isEquality = true then _ else _) = _
  split
  · rfl
  · rename_i hop
    rw [coerce_text (horder (Bool.eq_false_iff.2 hop))]
    rfl

/-- Comparing the text of a partition value with a literal says what comparing the cell says. -/
theorem verdict_eq {type : DataType} {cell : Cell} {s : String} (hs : PartitionText type cell s)
    {p : Predicate} {o : Operand} (ho : Operand.ofLiteral p type = .ok o)
    (hfloat : ∀ x, p.value ≠ .float x)
    (horder : ∀ v, p.value = .text v → p.operator.isEquality = false → ¬ LooksNumeric s) :
    verdict (.text s) p = .ok (some (o.admits p.operator type cell)) := by
  obtain ⟨op, column, value, hcolumn⟩ := p
  cases value with
  | float x => exact absurd rfl (hfloat x)
  | null =>
    -- only equality with null is accepted, and neither side is null
    have hnull : o = .null ∧ op.isEquality = true := by
      simp only [Operand.ofLiteral] at ho
      split at ho
      · rename_i hop
        exact ⟨(Except.ok.inj ho).symm, hop⟩
      · cases ho
    rw [hnull.1]
    cases op <;> simp_all [verdict, Operand.admits, Operator.isEquality] <;> cases hs <;> rfl
  | integer n =>
    cases hs with
    | integer k hk =>
      -- both sides compare the two integers
      obtain rfl : o = .integer n := (Except.ok.inj ho).symm
      have hverdict : verdict (.text (intText k)) ⟨op, column, .integer n, hcolumn⟩ =
          .ok (some (verdict.acceptsNumber op (Binary.ofInt k) (Binary.ofInt n))) := by
        simp only [verdict, coerce_intText hk]
        rfl
      rw [hverdict, verdict.acceptsNumber, compare?_ofInt]
      rfl
    | text s => cases ho
    | bool b => cases ho
    | date d hd => cases ho
  | text v =>
    cases hs with
    | integer k hk => cases ho
    | text s =>
      obtain rfl : o = .text v := (Except.ok.inj ho).symm
      rw [verdict_text (horder v rfl), ← Text.Utf8.compareBytes_eq]
      rfl
    | bool b => cases ho
    | date d hd =>
      -- the literal is the text of a day, and texts of days are ordered like the days
      simp only [Operand.ofLiteral, reduceCtorEq, if_false, DataType.isTextual,
        Bool.false_eq_true] at ho
      split at ho
      · rename_i e hread
        obtain rfl : o = .date e.daysSinceEpoch := (Except.ok.inj ho).symm
        obtain ⟨he, rfl⟩ := Date.text_of_read? hread
        rw [verdict_text fun _ => not_looksNumeric_date hd, Date.compare_text hd he]
        rfl
      · cases ho
  | bool b =>
    cases hs with
    | integer k hk => cases ho
    | text s => cases ho
    | bool c =>
      obtain rfl : o = .bool b := (Except.ok.inj ho).symm
      cases b <;> cases c <;> rfl
    | date d hd => cases ho

end SharedTables
