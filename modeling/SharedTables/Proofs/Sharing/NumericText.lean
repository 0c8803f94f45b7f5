import Mathlib
import SharedTables.Proofs.Number.Rounding
import SharedTables.Proofs.Number.Scripts
import SharedTables.Proofs.Sharing.PartitionVerdict

/-!
# What texts stand for among the partition values

A text that looks like a number stands for that number, any other text for itself.  The one failure
are integers of too many digits.

## Key results

- `exists_toList_eq`: what is left out around the body of a number
- `readsAs_coerce`: the three things that a text can come to
- `verdict_of_number`: what a literal that is a number is compared with
-/

namespace SharedTables

open Text PartitionValue

variable {s : String}

/-- A text that looks like an integer of more digits than an integer may have. -/
def TooManyDigits (s : String) : Prop :=
  looksInteger s = true ∧ maxIntegerDigits < s.toList.countP isDecimalDigit

/-! ### The body of a number -/

/-- In front of the body of a number there is a minus sign or nothing, after it a line feed or
    nothing. -/
theorem exists_toList_eq (s : String) : ∃ negative ending,
    s.toList = Number.signText negative ++ numberBody s ++ ending ∧
      (ending = [] ∨ ending = ['\n']) := by
  -- the sign is taken off the front first, and then the line feed off the end
  obtain ⟨negative, digits, hs, hbody⟩ : ∃ negative digits,
      s.toList = Number.signText negative ++ digits ∧
        numberBody s = if digits.getLast? = some '\n' then digits.dropLast else digits := by
    rw [numberBody]
    split
    · rename_i rest hminus
      exact ⟨true, rest, hminus, rfl⟩
    · exact ⟨false, _, rfl, rfl⟩
  rw [hbody]
  by_cases hlast : digits.getLast? = some '\n'
  · refine ⟨negative, ['\n'], ?_, .inr rfl⟩
    rw [if_pos hlast, List.append_assoc, List.dropLast_append_getLast? _ hlast, hs]
  · refine ⟨negative, [], ?_, .inl rfl⟩
    rw [if_neg hlast, List.append_nil, hs]

private theorem isMargin_of_ending {ending : List Char} (h : ending = [] ∨ ending = ['\n']) :
    ∀ c ∈ ending, Number.isMargin c = true := by
  have hfeed : Number.isMargin '\n' = true := by decide
  rcases h with rfl | rfl
  · exact nofun
  · simpa using hfeed

theorem looksInteger_iff : looksInteger s = true ↔
    numberBody s ≠ [] ∧ ∀ c ∈ numberBody s, isDecimalDigit c = true := by
  simp [looksInteger]

/-- The body of a decimal number: digits, a point and digits. -/
theorem looksDecimal_iff : looksDecimal s = true ↔ ∃ whole fraction,
    numberBody s = whole ++ '.' :: fraction ∧ whole ≠ [] ∧
      (∀ c ∈ whole, isDecimalDigit c = true) ∧ fraction ≠ [] ∧
      ∀ c ∈ fraction, isDecimalDigit c = true := by
  rw [looksDecimal, List.span_eq_takeWhile_dropWhile]
  dsimp only
  constructor
  · intro h
    have hparts := List.takeWhile_append_dropWhile (p := isDecimalDigit) (l := numberBody s)
    -- what follows the digits has to be a point
    split at h
    · rename_i fraction hrest
      rw [hrest] at hparts
      simp only [Bool.and_eq_true, Bool.not_eq_true', List.isEmpty_eq_false_iff,
        List.all_eq_true] at h
      exact ⟨_, fraction, hparts.symm, h.1.1, fun c hc => List.mem_takeWhile_imp hc, h.1.2, h.2⟩
    · cases h
  · rintro ⟨whole, fraction, hbody, hne, hwhole, hne', hfraction⟩
    -- the digits before the point end there
    obtain ⟨htake, hdrop⟩ := @span_append Char isDecimalDigit whole ('.' :: fraction) hwhole
      (by rintro c ⟨⟩; decide)
    rw [hbody, htake, hdrop]
    simpa [hne, hne'] using hfraction

/-- The digits of an integer are its body. -/
private theorem countP_of_looksInteger (h : looksInteger s = true) :
    s.toList.countP isDecimalDigit = (numberBody s).length := by
  obtain ⟨negative, ending, htext, hending⟩ := exists_toList_eq s
  -- neither the sign nor what follows the body is a digit
  have hsign : (Number.signText negative).countP isDecimalDigit = 0 := by
    cases negative <;> decide
  have hend : ending.countP isDecimalDigit = 0 := by
    rcases hending with rfl | rfl <;> decide
  rw [htext, List.countP_append, List.countP_append, hsign, hend,
    List.countP_eq_length.2 (looksInteger_iff.1 h).2, Nat.zero_add, Nat.add_zero]

/-! ### What a text stands for -/

/-- The nearest number to a decimal number is a number. -/
private theorem ofDecimal_ne_nan (negative : Bool) (c : Nat) (k : Int) :
    Binary.double.ofDecimal negative c k ≠ .nan := by
  intro h
  have hnearest := Binary.Format.ofDecimal_isNearest Binary.Format.usual_double negative c k
  rw [h] at hnearest
  cases hnearest

/-- What a text comes to as a partition value: a number, a failure, or the text itself. -/
inductive ReadsAs (s : String) : Except NumberError Value → Prop
  | number {v : Value} {x : Binary} (looks : LooksNumeric s) (fits : ¬ TooManyDigits s)
      (number : number? v = some x) (ne_nan : x ≠ .nan) : ReadsAs s (.ok v)
  | tooMany (exceeds : TooManyDigits s) :
      ReadsAs s (.error (.tooManyDigits (s.toList.countP isDecimalDigit)))
  | itself (looks : ¬ LooksNumeric s) : ReadsAs s (.ok (.text s))

/-- A text that looks like an integer is one unless it has too many digits. -/
private theorem readsAs_of_looksInteger (h : looksInteger s = true) :
    ReadsAs s ((Number.readInteger s).map .int) := by
  obtain ⟨negative, ending, htext, hending⟩ := exists_toList_eq s
  obtain ⟨hne, hdigits⟩ := looksInteger_iff.1 h
  rw [Number.readInteger_of_digits htext hne hdigits (isMargin_of_ending hending),
    ← countP_of_looksInteger h]
  by_cases hmany : maxIntegerDigits < s.toList.countP isDecimalDigit
  · rw [if_pos hmany]
    exact .tooMany ⟨h, hmany⟩
  · rw [if_neg hmany]
    refine .number (.inl h) (fun hexceeds => hmany hexceeds.2) rfl ?_
    rintro ⟨⟩

/-- A text that looks like a decimal number is one. -/
private theorem readsAs_of_looksDecimal (hinteger : looksInteger s ≠ true)
    (h : looksDecimal s = true) :
    ReadsAs s ((Number.readFloat s).map .float) := by
  obtain ⟨negative, ending, htext, hending⟩ := exists_toList_eq s
  obtain ⟨whole, fraction, hbody, hne, hwhole, -, hfraction⟩ := looksDecimal_iff.1 h
  rw [hbody] at htext
  rw [Number.readFloat_of_digits htext hne hwhole hfraction (isMargin_of_ending hending)]
  exact .number (.inr h) (fun hexceeds => hinteger hexceeds.1) rfl (ofDecimal_ne_nan _ _ _)

/-- The three things that a text can come to. -/
theorem readsAs_coerce (s : String) : ReadsAs s (coerce (.text s)) := by
  rw [coerce]
  -- an integer is looked for first, so a decimal number is none
  split
  · rename_i h
    exact readsAs_of_looksInteger h
  · rename_i hinteger
    split
    · rename_i h
      exact readsAs_of_looksDecimal hinteger h
    · rename_i h
      exact .itself (not_or.2 ⟨hinteger, h⟩)

/-- A text of too many digits is not read. -/
theorem coerce_of_tooManyDigits (h : TooManyDigits s) :
    coerce (.text s) = .error (.tooManyDigits (s.toList.countP isDecimalDigit)) := by
  have hread := readsAs_coerce s
  generalize coerce (.text s) = result at hread
  cases hread with
  | number looks fits => exact absurd h fits
  | tooMany => rfl
  | itself looks => exact absurd (.inl h.1) looks

/-! ### Literals that are numbers -/

/-- A literal that is a number is compared with the number that the value stands for. -/
theorem verdict_of_number {p : Predicate} {y : Binary} (h : number? p.value.toValue = some y)
    (raw : Value) : verdict raw p =
      (coerce raw).map fun v => (number? v).map fun x => verdict.acceptsNumber p.operator x y := by
  obtain ⟨op, column, literal, hcolumn⟩ := p
  cases literal with
  | integer n =>
    obtain rfl := Option.some.inj h
    cases hv : coerce raw <;> simp only [verdict, hv] <;> rfl
  | float x =>
    obtain rfl := Option.some.inj h
    cases hv : coerce raw <;> simp only [verdict, hv] <;> rfl
  | text s => cases h
  | bool b => cases h
  | null => cases h

end SharedTables
