import Mathlib
import SharedTables.Proofs.Number.Digits
import SharedTables.Proofs.Number.Scripts

/-!
# Integers read back

The text of an integer that does not have too many digits is read as the integer.

## Key results

- `readInteger_intText`: reading undoes writing
- `compare?_ofInt`: integers are compared exactly
-/

namespace SharedTables

open Text

/-! ### Digits and minus signs -/

/-- What a test says about the ten digits and the minus sign it says about each of them. -/
theorem of_isDigit_or_minus {p : Char → Bool} (hp : "-0123456789".toList.all p = true) {c : Char}
    (hc : c = '-' ∨ c.isDigit = true) : p c = true := by
  refine List.all_eq_true.1 hp c ?_
  rcases hc with rfl | hc
  · decide
  · obtain ⟨hlow, hhigh⟩ := digit_bounds hc
    have hall : ∀ n < 10, Char.ofNat (48 + n) ∈ "-0123456789".toList := by decide
    -- a test of finitely many characters, reached through their codes
    have hmem := hall (c.toNat - 48) (by omega)
    rwa [Nat.add_sub_cancel' hlow, Char.ofNat_toNat] at hmem

/-- A digit has the value that it is written for. -/
private theorem digitValue?_of_isDigit {c : Char} (hc : c.isDigit = true) :
    digitValue? c = some (c.toNat - '0'.toNat) := by
  obtain ⟨hlow, hhigh⟩ := digit_bounds hc
  rw [digitValue?, digitZeros, List.findSome?_cons, if_pos ⟨hlow, by omega⟩]
  rfl

/-- The ten digits are decimal digits. -/
theorem isDecimalDigit_of_isDigit {c : Char} (hc : c.isDigit = true) :
    isDecimalDigit c = true := by
  rw [isDecimalDigit, digitValue?_of_isDigit hc]
  rfl

/-- The digits `0` to `9` write the number that they write among the digits of all scripts. -/
theorem valueOfDigits_map {ds : List Char} (hds : ∀ c ∈ ds, c.isDigit = true) :
    valueOfDigits (ds.map digitOf) = digitsValue ds := by
  -- the digits of this script are the first that are looked for
  have hvalues : ds.map digitOf = ds.map fun c => c.toNat - '0'.toNat :=
    List.map_congr_left fun c hc => by rw [digitOf, digitValue?_of_isDigit (hds c hc)]; rfl
  rw [hvalues, valueOfDigits, digitsValue, List.foldl_map]

/-! ### Reading -/

/-- No sign is split off in front of a digit. -/
theorem splitSign_of_isDigit {c : Char} (hc : c.isDigit = true) (rest : List Char) :
    Number.splitSign (c :: rest) = (false, c :: rest) :=
  Number.splitSign_signText false (isDecimalDigit_of_isDigit hc) rest

/-- The text of an integer is a minus sign, or none, and digits. -/
theorem toList_intText (n : Int) : (intText n).toList =
    Number.signText (decide (n < 0)) ++ (natText n.natAbs).toList := by
  rw [intText, Number.signText]
  simp only [decide_eq_true_eq]
  split <;> simp

/-- An integer is its magnitude with its sign. -/
theorem signed_natAbs (n : Int) : Binary.signed (decide (n < 0)) n.natAbs = n := by
  simp only [Binary.signed, decide_eq_true_eq]
  split <;> omega

/-- Reading undoes writing. -/
theorem readInteger_intText {n : Int} (h : (natText n.natAbs).length ≤ maxIntegerDigits) :
    Number.readInteger (intText n) = .ok n := by
  have hall : ∀ c ∈ (natText n.natAbs).toList, c.isDigit = true :=
    fun c hc => isDigit_of_mem_natText hc
  have htext : (intText n).toList =
      Number.signText (decide (n < 0)) ++ (natText n.natAbs).toList ++ [] := by
    rw [toList_intText, List.append_nil]
  -- the length of the text is that of its digits, without the sign
  have hlength : ¬ maxIntegerDigits < (natText n.natAbs).toList.length := by
    rw [String.length_toList]
    exact Nat.not_lt.2 h
  rw [Number.readInteger_of_digits htext (natText_ne_nil _)
      (fun c hc => isDecimalDigit_of_isDigit (hall c hc)) (by simp), if_neg hlength,
    valueOfDigits_map hall, digitsValue_natText, signed_natAbs]

/-- Integers are compared exactly. -/
theorem compare?_ofInt (m n : Int) :
    Binary.compare? (Binary.ofInt m) (Binary.ofInt n) = some (compare m n) := by
  -- an integer has the exponent zero, so both are in the same units
  have hunits : ∀ k : Int, Binary.inUnits (decide (k < 0)) k.natAbs 0 0 = k := by
    intro k
    rw [Binary.inUnits, Int.sub_zero, Int.toNat_zero, Nat.shiftLeft_zero, signed_natAbs]
  simp only [Binary.ofInt, Binary.compare?, Binary.compareTotal, min_self, hunits]

end SharedTables
