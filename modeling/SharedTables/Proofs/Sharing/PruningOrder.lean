import Mathlib
import SharedTables.Proofs.Number.ExactOrder
import SharedTables.Proofs.Predicate.Operators
import SharedTables.Proofs.Predicate.RoundTrip
import SharedTables.Proofs.Sharing.NumericText
import SharedTables.Proofs.Sharing.Pruned

/-!
# Pruning by numbers follows one order

A partition value that looks like a number denotes an extended real, and so does every number that a
predicate can be read with, integer or floating-point.  Pruning compares the two, so the operators
follow the order of the extended reals.

## Key results

- `Literal.IsReadNumber.exists_toEReal`: a number that has been read denotes an extended real
- `FileReference.keptBy_iff_of_coerce`: a value and a literal that are numbers are compared
- `FileReference.exists_keptBy_iff`: the six operators compare one extended real with the literal
- `pruning_follows_order`: totality, the operators as unions, and growing literals
-/

namespace SharedTables

open PartitionValue

/-! ### Operators -/

/-- The relation that an operator stands for. -/
def Operator.Relates : Operator → EReal → EReal → Prop
  | eq, a, b => a = b
  | ne, a, b => a ≠ b
  | gt, a, b => b < a
  | lt, a, b => a < b
  | ge, a, b => b ≤ a
  | le, a, b => a ≤ b

private theorem Operator.accepts_compare_iff (op : Operator) (a b : EReal) :
    op.accepts (compare a b) = true ↔ op.Relates a b := by
  rcases lt_trichotomy a b with h | rfl | h
  · rw [compare_lt_iff_lt.2 h]
    cases op <;> simp [accepts, Relates, h, h.ne, h.le, h.not_gt, h.not_ge]
  · rw [compare_eq_iff_eq.2 rfl]
    cases op <;> simp [accepts, Relates]
  · rw [compare_gt_iff_gt.2 h]
    cases op <;> simp [accepts, Relates, h, h.ne', h.le, h.not_gt, h.not_ge]

/-- Two extended reals are in one order. -/
private theorem followsOrder_relates (a b : EReal) : FollowsOrder fun op => op.Relates a b := by
  simpa only [Operator.accepts_compare_iff] using followsOrder_accepts (compare a b)

/-! ### Literals -/

namespace Literal

/-- The extended real that a literal denotes; only numbers denote one. -/
noncomputable def toEReal? (l : Literal) : Option EReal :=
  (number? l.toValue).bind Binary.toEReal?

/-- A number that a predicate can be read with. -/
structure IsReadNumber (l : Literal) : Prop where
  number : (number? l.toValue).isSome = true
  read : ∃ text p, Predicate.parse text = .ok p ∧ p.value = l

variable {l : Literal}

/-- No floating-point number that has been read is "not a number". -/
private theorem IsReadNumber.exists_number (h : l.IsReadNumber) :
    ∃ y, number? l.toValue = some y ∧ y ≠ .nan := by
  obtain ⟨hnumber, text, p, hp, rfl⟩ := h
  obtain ⟨d, -, hd⟩ := Predicate.exists_parts hp
  have hdenotes := hd.value
  generalize p.value = l at hnumber hdenotes
  cases l with
  | integer n => exact ⟨_, rfl, nofun⟩
  | float x => exact ⟨x, rfl, (Predicate.isStored_of_denotes hdenotes).2.1⟩
  | text s => cases hnumber
  | bool b => cases hnumber
  | null => cases hnumber

/-- A number that has been read denotes an extended real. -/
theorem IsReadNumber.exists_toEReal (h : l.IsReadNumber) : ∃ a, l.toEReal? = some a := by
  obtain ⟨y, hy, hne⟩ := h.exists_number
  obtain ⟨a, ha⟩ := Binary.exists_toEReal? hne
  exact ⟨a, by rw [toEReal?, hy]; exact ha⟩

end Literal

/-! ### Files -/

namespace FileReference

/-- Pruning by the predicate alone keeps the file. -/
def KeptBy (file : FileReference) (p : Predicate) : Prop :=
  (pruneFiles [file] [p]).result = .ok [file]

/-- Pruning by the predicate alone drops the file. -/
def DroppedBy (file : FileReference) (p : Predicate) : Prop :=
  (pruneFiles [file] [p]).result = .ok []

variable {file : FileReference} {p : Predicate} {column s : String}

/-- A file that is admitted or not is kept or dropped. -/
private theorem keptBy_iff_of_result {admitted : Bool} (h : (file.admits p).result = .ok admitted) :
    (file.KeptBy p ↔ admitted = true) ∧ (file.DroppedBy p ↔ admitted = false) := by
  rw [KeptBy, DroppedBy, pruneFiles_singleton h]
  cases admitted <;> simp

private theorem DroppedBy.not_keptBy (h : file.DroppedBy p) : ¬ file.KeptBy p := by
  rw [KeptBy, h]
  simp

/-- A text that does not look like a number is compared with no number. -/
private theorem droppedBy_of_not_looksNumeric {y : Binary}
    (hvalue : file.partitionValues.lookup? p.column = some (.text s)) (hs : ¬ LooksNumeric s)
    (hy : number? p.value.toValue = some y) : file.DroppedBy p := by
  have hverdict : verdict (.text s) p = .ok none := by
    rw [verdict_of_number hy, coerce_text hs]
    rfl
  exact (keptBy_iff_of_result (result_admits_of_verdict (value?_of_text hvalue) hverdict)).2.2 rfl

/-- A text that has been read as a number is compared with what the literal denotes. -/
theorem keptBy_iff_of_coerce {v : Value} {a b : EReal}
    (hvalue : file.partitionValues.lookup? p.column = some (.text s))
    (hv : coerce (.text s) = .ok v) (ha : (number? v).bind Binary.toEReal? = some a)
    (hb : p.value.toEReal? = some b) :
    (file.KeptBy p ↔ p.operator.Relates a b) ∧ (file.DroppedBy p ↔ ¬ p.operator.Relates a b) := by
  obtain ⟨x, hx, hxa⟩ := Option.bind_eq_some_iff.1 ha
  obtain ⟨y, hy, hyb⟩ := Option.bind_eq_some_iff.1 hb
  -- both numbers have an exact value, and the verdict compares the two
  have hverdict : verdict (.text s) p = .ok (some (p.operator.accepts (compare a b))) := by
    rw [verdict_of_number hy, hv, Except.map, hx, Option.map_some,
      verdict.acceptsNumber, Binary.compare?_of_toEReal? hxa hyb]
  have hkept := keptBy_iff_of_result
    (result_admits_of_verdict (value?_of_text hvalue) hverdict)
  rw [← p.operator.accepts_compare_iff, Bool.not_eq_true]
  exact hkept

/-- A text that looks like a number denotes an extended real, with which every operator compares
    what the literal denotes. -/
theorem exists_keptBy_iff (hvalue : file.partitionValues.lookup? column = some (.text s))
    (hs : LooksNumeric s) (hdigits : s.toList.countP Text.isDecimalDigit ≤ maxIntegerDigits) :
    ∃ x : EReal, ∀ p : Predicate, ∀ b, p.column = column → p.value.toEReal? = some b →
      (file.KeptBy p ↔ p.operator.Relates x b) ∧ (file.DroppedBy p ↔ ¬ p.operator.Relates x b) := by
  have hread := readsAs_coerce s
  generalize hcoerce : coerce (.text s) = result at hread
  cases hread with
  -- the text has neither too many digits nor any other form than a number
  | tooMany exceeds => exact absurd exceeds.2 (Nat.not_lt.2 hdigits)
  | itself looks => exact absurd hs looks
  | @number v x _ _ hnumber hne =>
    obtain ⟨a, ha⟩ := Binary.exists_toEReal? hne
    refine ⟨a, fun p b hcolumn hb => ?_⟩
    rw [← hcolumn] at hvalue
    exact keptBy_iff_of_coerce hvalue hcoerce (Option.bind_eq_some_iff.2 ⟨x, hnumber, ha⟩) hb

end FileReference

/-- Pruning by numbers follows one order of integers and floating-point numbers: a file whose value
    does not look like a number is dropped by all six operators, and otherwise one of "equal",
    "less" and "greater" keeps it and the other operators are unions of two of these.  A greater
    literal keeps what a smaller one keeps by an upper bound, and a smaller literal what a greater
    one keeps by a lower bound. -/
theorem pruning_follows_order {file : FileReference} {column s : String} {v w : Literal}
    (hcolumn : isColumnName column = true)
    (hvalue : file.partitionValues.lookup? column = some (.text s))
    (hdigits : s.toList.countP Text.isDecimalDigit ≤ maxIntegerDigits)
    (hv : v.IsReadNumber) (hw : w.IsReadNumber) :
    (∀ op, file.KeptBy ⟨op, column, v, hcolumn⟩ ∨ file.DroppedBy ⟨op, column, v, hcolumn⟩) ∧
      (¬ LooksNumeric s ∧ (∀ op, file.DroppedBy ⟨op, column, v, hcolumn⟩) ∨
        LooksNumeric s ∧ FollowsOrder fun op => file.KeptBy ⟨op, column, v, hcolumn⟩) ∧
      ∃ a b, v.toEReal? = some a ∧ w.toEReal? = some b ∧ (a ≤ b →
        (file.KeptBy ⟨.lt, column, v, hcolumn⟩ → file.KeptBy ⟨.lt, column, w, hcolumn⟩) ∧
        (file.KeptBy ⟨.le, column, v, hcolumn⟩ → file.KeptBy ⟨.le, column, w, hcolumn⟩) ∧
        (file.KeptBy ⟨.gt, column, w, hcolumn⟩ → file.KeptBy ⟨.gt, column, v, hcolumn⟩) ∧
        (file.KeptBy ⟨.ge, column, w, hcolumn⟩ → file.KeptBy ⟨.ge, column, v, hcolumn⟩)) := by
  obtain ⟨a, ha⟩ := hv.exists_toEReal
  obtain ⟨b, hb⟩ := hw.exists_toEReal
  by_cases hs : LooksNumeric s
  · obtain ⟨x, hx⟩ := FileReference.exists_keptBy_iff hvalue hs hdigits
    -- both literals are compared with the one number `x` that the partition value is
    have hkeptv : ∀ op, file.KeptBy ⟨op, column, v, hcolumn⟩ ↔ op.Relates x a :=
      fun op => (hx ⟨op, column, v, hcolumn⟩ a rfl ha).1
    have hkeptw : ∀ op, file.KeptBy ⟨op, column, w, hcolumn⟩ ↔ op.Relates x b :=
      fun op => (hx ⟨op, column, w, hcolumn⟩ b rfl hb).1
    refine ⟨fun op => ?_, .inr ⟨hs, ?_⟩, a, b, ha, hb, fun hab => ?_⟩
    · rw [hkeptv, (hx ⟨op, column, v, hcolumn⟩ a rfl ha).2]
      exact em _
    · simp only [hkeptv]
      exact followsOrder_relates x a
    · simp only [hkeptv, hkeptw]
      exact ⟨fun h => lt_of_lt_of_le h hab, fun h => le_trans h hab,
        fun h => lt_of_le_of_lt hab h, fun h => le_trans hab h⟩
  · have hdropped : ∀ l : Literal, l.IsReadNumber →
        ∀ op, file.DroppedBy ⟨op, column, l, hcolumn⟩ := by
      intro l hl op
      obtain ⟨y, hy, -⟩ := hl.exists_number
      exact FileReference.droppedBy_of_not_looksNumeric hvalue hs hy
    refine ⟨fun op => .inr (hdropped v hv op), .inl ⟨hs, hdropped v hv⟩, a, b, ha, hb, fun _ => ?_⟩
    -- nothing is kept, so nothing is to be kept with the other literal
    exact ⟨fun h => absurd h (hdropped v hv _).not_keptBy,
      fun h => absurd h (hdropped v hv _).not_keptBy,
      fun h => absurd h (hdropped w hw _).not_keptBy,
      fun h => absurd h (hdropped w hw _).not_keptBy⟩

/-- A file whose partition value is the integer after 2^53, which no floating-point number is. -/
def betweenDoubles : FileReference :=
  ⟨"f", [("c", .text "9007199254740993")], .null, none, .null, []⟩

/-- What is at least the integer after 2^53 is at least the floating-point number 2^53, with which
    the six operators compare as well. -/
theorem order_between_doubles :
    Predicate.parse "c >= 9007199254740992.0" =
        .ok ⟨.ge, "c", .float (.finite false (2 ^ 52) 1), by decide⟩ ∧
      Predicate.parse "c >= 9007199254740993" =
        .ok ⟨.ge, "c", .integer 9007199254740993, by decide⟩ ∧
      (betweenDoubles.KeptBy ⟨.ge, "c", .integer 9007199254740993, by decide⟩ →
        betweenDoubles.KeptBy ⟨.ge, "c", .float (.finite false (2 ^ 52) 1), by decide⟩) ∧
      FollowsOrder fun op =>
        betweenDoubles.KeptBy ⟨op, "c", .float (.finite false (2 ^ 52) 1), by decide⟩ := by
  have hv : (Literal.float (.finite false (2 ^ 52) 1)).IsReadNumber :=
    ⟨rfl, "c >= 9007199254740992.0", _, by rfl, rfl⟩
  have hw : (Literal.integer 9007199254740993).IsReadNumber :=
    ⟨rfl, "c >= 9007199254740993", _, by rfl, rfl⟩
  have hlooks : LooksNumeric "9007199254740993" := .inl (by decide)
  obtain ⟨-, horder, a, b, ha, hb, hmono⟩ := @pruning_follows_order betweenDoubles "c"
    "9007199254740993" _ _ (by decide) rfl (by decide) hv hw
  -- the number is one more than the double
  have hab : a ≤ b := by
    obtain rfl := Option.some.inj ha
    obtain rfl := Option.some.inj hb
    rw [EReal.coe_le_coe_iff]
    norm_num [Binary.signed]
  refine ⟨rfl, rfl, (hmono hab).2.2.2, ?_⟩
  rcases horder with ⟨hs, -⟩ | ⟨-, horder⟩
  · exact absurd hlooks hs
  · exact horder

end SharedTables
