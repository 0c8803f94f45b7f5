import Mathlib.Tactic
import SharedTables.Number.Style

/-!
# The digits of a number

The digits of a natural number are decimal digits, at least one, and their value is the number.

## Key results

- `digitsValue_natText`: the digits of a number have its value
- `length_natText_le_iff`: a number has at most as many digits as the power of ten above it tells
- `digitsValue_append`: digits that follow others shift them
- `digits_trichotomy`: as many digits are ordered like their values
- `padZeros_natText`: zeros in front keep the value
-/

namespace SharedTables

/-- The text of a number is its digits to the base of ten. -/
theorem toList_natText (n : Nat) : (natText n).toList = Nat.toDigits 10 n :=
  Nat.toList_repr

/-- A number has at least one digit. -/
theorem natText_ne_nil (n : Nat) : (natText n).toList ≠ [] := by
  rw [toList_natText]
  exact Nat.toDigits_ne_nil

/-- The digits of a number are those from `0` to `9`. -/
theorem isDigit_of_mem_natText {n : Nat} {c : Char} (hc : c ∈ (natText n).toList) :
    c.isDigit = true := by
  rw [toList_natText] at hc
  exact Nat.isDigit_of_mem_toDigits (by decide) (by decide) hc

/-- A number has at most `k` digits iff it is below `10^k`. -/
theorem length_natText_le_iff {n k : Nat} (hk : 0 < k) : (natText n).length ≤ k ↔ n < 10 ^ k := by
  rw [← String.length_toList, toList_natText]
  exact Nat.length_toDigits_le_iff (by decide) hk

/-- A run of digits that is not empty. -/
def IsDigits (ds : List Char) : Prop :=
  ds ≠ [] ∧ ∀ c ∈ ds, c.isDigit = true

namespace IsDigits

/-- A run of digits is not empty. -/
theorem isEmpty_eq_false {ds : List Char} (h : IsDigits ds) : ds.isEmpty = false :=
  List.isEmpty_eq_false_iff.2 h.1

/-- More digits on either side go on a run. -/
theorem append_of_digits {ds es : List Char} (hds : IsDigits ds)
    (hes : ∀ c ∈ es, c.isDigit = true) : IsDigits (ds ++ es) ∧ IsDigits (es ++ ds) :=
  ⟨⟨List.append_ne_nil_of_left_ne_nil hds.1 es, List.forall_mem_append.2 ⟨hds.2, hes⟩⟩,
    ⟨List.append_ne_nil_of_right_ne_nil es hds.1, List.forall_mem_append.2 ⟨hes, hds.2⟩⟩⟩

end IsDigits

/-- A zero is a run of digits. -/
theorem isDigits_zero : IsDigits ['0'] :=
  ⟨List.cons_ne_nil _ _, List.forall_mem_singleton.2 rfl⟩

/-- The text of a number is a run of digits. -/
theorem isDigits_natText (n : Nat) : IsDigits (natText n).toList :=
  ⟨natText_ne_nil n, fun _ => isDigit_of_mem_natText⟩

/-- Zeros are digits. -/
theorem isDigit_of_mem_zeros {n : Nat} {c : Char} (hc : c ∈ List.replicate n '0') :
    c.isDigit = true := by
  rw [List.eq_of_mem_replicate hc]
  rfl

namespace Text

/-- The value of digits is the number that they write. -/
theorem digitsValue_eq (digits : List Char) :
    digitsValue digits = Nat.ofDigitChars 10 digits 0 :=
  Nat.ofDigitChars_eq_foldl.symm

/-- Digits that follow others shift them. -/
theorem digitsValue_append (ds es : List Char) :
    digitsValue (ds ++ es) = 10 ^ es.length * digitsValue ds + digitsValue es := by
  rw [digitsValue_eq, digitsValue_eq, digitsValue_eq, Nat.ofDigitChars_append,
    Nat.ofDigitChars_eq_ofDigitChars_zero]

/-- Zeros have no value. -/
theorem digitsValue_zeros (n : Nat) : digitsValue (List.replicate n '0') = 0 := by
  rw [digitsValue_eq, Nat.ofDigitChars_replicate_zero, Nat.mul_zero]

/-- The first digit counts as often as a power of ten tells. -/
theorem digitsValue_cons (c : Char) (ds : List Char) :
    digitsValue (c :: ds) = 10 ^ ds.length * (c.toNat - '0'.toNat) + digitsValue ds := by
  have hhead : digitsValue [c] = c.toNat - '0'.toNat := by simp [digitsValue]
  rw [← List.singleton_append, digitsValue_append, hhead]

/-- The codes of digits are next to each other. -/
theorem digit_bounds {c : Char} (hc : c.isDigit = true) : 48 ≤ c.toNat ∧ c.toNat ≤ 57 := by
  simp only [Char.isDigit, Bool.and_eq_true, decide_eq_true_eq] at hc
  exact ⟨UInt32.le_iff_toNat_le.1 hc.1, UInt32.le_iff_toNat_le.1 hc.2⟩

/-- As many digits as `ds` have a value below that power of ten. -/
theorem digitsValue_lt {ds : List Char} (hds : ∀ c ∈ ds, c.isDigit = true) :
    digitsValue ds < 10 ^ ds.length := by
  -- the first digit is at most nine, and the others are worth less than one more of it
  induction ds with
  | nil => decide
  | cons c ds ih =>
    have hc := digit_bounds (hds c (by simp))
    have hzero : '0'.toNat = 48 := rfl
    have htail := ih fun c hc => hds c (by simp [hc])
    calc digitsValue (c :: ds) = 10 ^ ds.length * (c.toNat - '0'.toNat) + digitsValue ds :=
          digitsValue_cons c ds
      _ < 10 ^ ds.length * (c.toNat - '0'.toNat + 1) := by rw [Nat.mul_succ]; omega
      _ ≤ 10 ^ ds.length * 10 := Nat.mul_le_mul_left _ (by omega)
      _ = 10 ^ (c :: ds).length := (Nat.pow_succ ..).symm

/-- A greater first digit outweighs all digits after it. -/
private theorem digitsValue_cons_lt {c d : Char} {ds es : List Char} (hc : c.isDigit = true)
    (hds : ∀ c ∈ ds, c.isDigit = true) (hlength : ds.length = es.length) (h : c.toNat < d.toNat) :
    digitsValue (c :: ds) < digitsValue (d :: es) := by
  have hbounds := digit_bounds hc
  have hzero : '0'.toNat = 48 := rfl
  -- the digits after `c` are worth less than one more of `c`
  have htail := digitsValue_lt hds
  calc digitsValue (c :: ds) = 10 ^ ds.length * (c.toNat - '0'.toNat) + digitsValue ds :=
        digitsValue_cons c ds
    _ < 10 ^ ds.length * (c.toNat - '0'.toNat + 1) := by rw [Nat.mul_succ]; omega
    _ ≤ 10 ^ es.length * (d.toNat - '0'.toNat) := by
        rw [hlength]
        exact Nat.mul_le_mul_left _ (by omega)
    _ ≤ digitsValue (d :: es) := by
        rw [digitsValue_cons]
        exact Nat.le_add_right _ _

/-- Two runs of as many digits are the same, or one of them has the smaller value and comes first,
    whatever follows. -/
theorem digits_trichotomy {ds es : List Char} (hds : ∀ c ∈ ds, c.isDigit = true)
    (hes : ∀ c ∈ es, c.isDigit = true) (hlength : ds.length = es.length) :
    ds = es ∨ (digitsValue ds < digitsValue es ∧ ∀ x y, ds ++ x < es ++ y) ∨
      (digitsValue es < digitsValue ds ∧ ∀ x y, es ++ x < ds ++ y) := by
  -- the first digits in which the runs differ decide, so both are taken apart from the front
  induction ds generalizing es with
  | nil => exact .inl (List.eq_nil_of_length_eq_zero hlength.symm).symm
  | cons c ds ih =>
    cases es with
    | nil => simp at hlength
    | cons d es =>
      rw [List.forall_mem_cons] at hds hes
      have htails : ds.length = es.length := by simpa using hlength
      rcases lt_trichotomy c.toNat d.toNat with hlt | heq | hgt
      · -- the first digit decides, about the values and about the order
        refine .inr (.inl ⟨digitsValue_cons_lt hds.1 hds.2 htails hlt, fun x y => ?_⟩)
        exact List.cons_lt_cons_iff.2 (.inl (UInt32.lt_iff_toNat_lt.2 hlt))
      · obtain rfl : c = d := Char.toNat_inj.1 heq
        rw [digitsValue_cons, digitsValue_cons, htails]
        rcases ih hds.2 hes.2 htails with rfl | ⟨hvalue, horder⟩ | ⟨hvalue, horder⟩
        · exact .inl rfl
        · refine .inr (.inl ⟨Nat.add_lt_add_left hvalue _, fun x y => ?_⟩)
          exact List.cons_lt_cons_iff.2 (.inr ⟨rfl, horder x y⟩)
        · refine .inr (.inr ⟨Nat.add_lt_add_left hvalue _, fun x y => ?_⟩)
          exact List.cons_lt_cons_iff.2 (.inr ⟨rfl, horder x y⟩)
      · refine .inr (.inr ⟨digitsValue_cons_lt hes.1 hes.2 htails.symm hgt, fun x y => ?_⟩)
        exact List.cons_lt_cons_iff.2 (.inl (UInt32.lt_iff_toNat_lt.2 hgt))

/-- Of two runs of as many digits the one with the smaller value comes first, whatever follows. -/
theorem lt_of_digitsValue_lt {ds es : List Char} (hds : ∀ c ∈ ds, c.isDigit = true)
    (hes : ∀ c ∈ es, c.isDigit = true) (hlength : ds.length = es.length)
    (h : digitsValue ds < digitsValue es) (x y : List Char) : ds ++ x < es ++ y := by
  rcases digits_trichotomy hds hes hlength with rfl | ⟨-, horder⟩ | ⟨hgt, -⟩
  · exact absurd h (Nat.lt_irrefl _)
  · exact horder x y
  · exact absurd h (Nat.lt_asymm hgt)

/-- Two runs of as many digits with the same value are the same. -/
theorem eq_of_digitsValue_eq {ds es : List Char} (hds : ∀ c ∈ ds, c.isDigit = true)
    (hes : ∀ c ∈ es, c.isDigit = true) (hlength : ds.length = es.length)
    (h : digitsValue ds = digitsValue es) : ds = es := by
  rcases digits_trichotomy hds hes hlength with heq | ⟨hlt, -⟩ | ⟨hgt, -⟩
  · exact heq
  · exact absurd h hlt.ne
  · exact absurd h hgt.ne'

/-- The digits of a number have its value. -/
theorem digitsValue_natText (n : Nat) : digitsValue (natText n).toList = n := by
  rw [digitsValue_eq, toList_natText, Nat.ofDigitChars_ten_toDigits]

/-- A number with zeros in front has the given width and keeps its value. -/
theorem padZeros_natText {n width : Nat} (hwidth : 0 < width) (hn : n < 10 ^ width) :
    (padZeros width (natText n)).toList.length = width ∧
      (∀ c ∈ (padZeros width (natText n)).toList, c.isDigit = true) ∧
      digitsValue (padZeros width (natText n)).toList = n := by
  have htext : (padZeros width (natText n)).toList =
      List.replicate (width - (natText n).length) '0' ++ (natText n).toList := by
    simp [padZeros]
  have hlength := (length_natText_le_iff hwidth).2 hn
  rw [htext]
  refine ⟨?_, ?_, ?_⟩
  · rw [List.length_append, List.length_replicate, String.length_toList]
    omega
  · intro c hc
    rcases List.mem_append.1 hc with hc | hc
    · rw [List.eq_of_mem_replicate hc]; decide
    · exact isDigit_of_mem_natText hc
  · rw [digitsValue_append, digitsValue_zeros, digitsValue_natText]
    omega

end Text

end SharedTables
