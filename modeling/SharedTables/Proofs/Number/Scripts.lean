import Mathlib
import SharedTables.Number.Reading
import SharedTables.Proofs.Text.Runs

/-!
# Numbers in the digits of any script

What is read from a minus sign that may be missing, decimal digits of any script, maybe a point with
more of them, and blanks at the end.

## Key results

- `code_of_isDecimalDigit`: where the decimal digits are among the characters
- `groupedDigits?_of_isDecimalDigit`: digits without underscores are all digits
- `readInteger_of_digits`: integers, unless there are too many digits
- `readFloat_of_digits`: numbers with a fraction
-/

namespace SharedTables

open Text

namespace Text

/-- The value of a digit; other characters count for nothing. -/
def digitOf (c : Char) : Nat :=
  (digitValue? c).getD 0

variable {c : Char}

/-- A decimal digit is one of the ten characters from a zero on. -/
theorem code_of_isDecimalDigit (h : isDecimalDigit c = true) :
    ∃ z ∈ digitZeros, z ≤ c.toNat ∧ c.toNat < z + 10 := by
  rw [isDecimalDigit, digitValue?, List.findSome?_isSome_iff] at h
  obtain ⟨z, hz, hc⟩ := h
  refine ⟨z, hz, ?_⟩
  by_contra hrange
  rw [if_neg hrange] at hc
  cases hc

/-- No decimal digit is blank. -/
private theorem isBlank_of_isDecimalDigit (h : isDecimalDigit c = true) : isBlank c = false := by
  obtain ⟨z, hz, hlow, hhigh⟩ := code_of_isDecimalDigit h
  -- the runs of digits and the ranges of blanks do not meet
  have hapart : ∀ z ∈ digitZeros, ∀ r ∈ blankRanges, r.2 < z ∨ z + 10 ≤ r.1 := by decide
  refine Bool.eq_false_iff.2 fun hblank => ?_
  obtain ⟨r, hr, hfirst, hlast⟩ := CodeRange.covers_iff.1 hblank
  have := hapart z hz r hr
  omega

/-- Decimal digits have no small letters. -/
private theorem toLower_of_isDecimalDigit (h : isDecimalDigit c = true) : c.toLower = c := by
  obtain ⟨z, hz, hlow, hhigh⟩ := code_of_isDecimalDigit h
  -- no run of digits meets the capital letters
  have hapart : ∀ z ∈ digitZeros, z + 10 ≤ 'A'.toNat ∨ 'Z'.toNat < z := by decide
  have hupper : ¬ (c.val ≥ 'A'.val ∧ c.val ≤ 'Z'.val) := by
    rintro ⟨hfirst, hlast⟩
    have := hapart z hz
    have hfirst' : 'A'.toNat ≤ c.toNat := UInt32.le_iff_toNat_le.1 hfirst
    have hlast' : c.toNat ≤ 'Z'.toNat := UInt32.le_iff_toNat_le.1 hlast
    omega
  rw [Char.toLower, dif_neg hupper]

private theorem ne_of_isDecimalDigit (h : isDecimalDigit c = true) {d : Char}
    (hd : isDecimalDigit d = false) : c ≠ d := by
  rintro rfl
  rw [h] at hd
  cases hd

end Text

namespace Number

variable {text : String} {negative : Bool} {ds whole fraction rest ending : List Char}

/-- Digits without underscores are all digits. -/
theorem groupedDigits?_of_isDecimalDigit (hds : ∀ c ∈ ds, isDecimalDigit c = true) :
    groupedDigits? ds = some (ds.map digitOf) := by
  induction ds with
  | nil => rfl
  | cons c ds ih =>
    rw [List.forall_mem_cons] at hds
    obtain ⟨d, hd⟩ := Option.isSome_iff_exists.1 hds.1
    have hdigit : digitOf c = d := by rw [digitOf, hd]; rfl
    have htail := ih hds.2
    cases ds with
    | nil => simp [groupedDigits?, hd, hdigit]
    | cons next ds =>
      -- an underscore would group the digits
      have hnext : next ≠ '_' := ne_of_isDecimalDigit (hds.2 next (by simp)) (by decide)
      rw [groupedDigits?.eq_4]
      · rw [hd, htail, ← hdigit]
        rfl
      · intro h
        cases h
      · intro r h
        exact absurd (List.cons.inj h).1 hnext

/-- Digits are split off up to a character that goes on none. -/
private theorem spanDigits_append (hds : ∀ c ∈ ds, isDecimalDigit c = true)
    (hrest : ∀ c ∈ rest.head?, isDecimalDigit c = false ∧ c ≠ '_') :
    spanDigits (ds ++ rest) = (ds, rest) := by
  obtain ⟨htake, hdrop⟩ := @span_append Char (fun c => isDecimalDigit c || c == '_') ds rest
    (fun c hc => by rw [hds c hc]; rfl)
    (fun c hc => by
      obtain ⟨hdigit, hunderscore⟩ := hrest c hc
      simp [hdigit, hunderscore])
  rw [spanDigits, List.span_eq_takeWhile_dropWhile, htake, hdrop]

/-- The characters of a number in digits: a minus sign, or none. -/
def signText (negative : Bool) : List Char :=
  if negative then ['-'] else []

theorem signText_eq (negative : Bool) : signText negative = [] ∨ signText negative = ['-'] := by
  cases negative with
  | false => exact .inl rfl
  | true => exact .inr rfl

/-- The sign in front of a digit is split off. -/
theorem splitSign_signText (negative : Bool) {c : Char} (hc : isDecimalDigit c = true)
    (rest : List Char) :
    splitSign (signText negative ++ c :: rest) = (negative, c :: rest) := by
  cases negative with
  | true => rfl
  | false =>
    have hplus := ne_of_isDecimalDigit hc (show isDecimalDigit '+' = false by decide)
    have hminus := ne_of_isDecimalDigit hc (show isDecimalDigit '-' = false by decide)
    simp [signText, splitSign, hplus, hminus]

/-- What is not cut off a number that starts with a digit, and its sign. -/
private theorem splitSign_trimMargin {c : Char} (hc : isDecimalDigit c = true)
    (hrest : ∀ d ∈ rest, isMargin d = false) (hending : ∀ d ∈ ending, isMargin d = true) :
    splitSign (trimMargin (signText negative ++ (c :: rest) ++ ending)) =
      (negative, c :: rest) := by
  have hmargin : isMargin c = false := by
    rw [isMargin, isBlank_of_isDecimalDigit hc]
    rfl
  -- neither the sign nor a digit is part of the margin
  have htrim : trimMargin (signText negative ++ (c :: rest) ++ ending) =
      signText negative ++ c :: rest := by
    refine trim_append (fun d hd => ?_) hending
    rcases List.mem_append.1 hd with hsign | hd
    · cases negative with
      | false => cases hsign
      | true =>
        rw [List.mem_singleton.1 hsign]
        decide
    · rcases List.mem_cons.1 hd with rfl | hd
      · exact hmargin
      · exact hrest d hd
  rw [htrim, splitSign_signText negative hc]

/-- Digits are read as an integer unless there are too many of them. -/
theorem readInteger_of_digits (htext : text.toList = signText negative ++ ds ++ ending)
    (hne : ds ≠ []) (hds : ∀ c ∈ ds, isDecimalDigit c = true)
    (hending : ∀ c ∈ ending, isMargin c = true) :
    readInteger text =
      if maxIntegerDigits < ds.length then .error (.tooManyDigits ds.length)
      else .ok (Binary.signed negative (valueOfDigits (ds.map digitOf))) := by
  have hsplit : splitSign (trimMargin text.toList) = (negative, ds) := by
    obtain ⟨c, rest, rfl⟩ := List.exists_cons_of_ne_nil hne
    rw [List.forall_mem_cons] at hds
    rw [htext]
    refine splitSign_trimMargin hds.1 (fun d hd => ?_) hending
    rw [isMargin, isBlank_of_isDecimalDigit (hds.2 d hd)]
    rfl
  -- all characters are digits, so nothing is left after them
  have hspan := @spanDigits_append ds [] hds nofun
  rw [List.append_nil] at hspan
  have hlength : (ds.map digitOf).length ≠ 0 := by
    rw [List.length_map]
    exact fun h => hne (List.eq_nil_of_length_eq_zero h)
  rw [readInteger]
  simp only [hsplit, hspan, groupedDigits?_of_isDecimalDigit hds]
  rw [if_neg hlength, List.length_map]
  rfl

/-- Digits with a point between them are read as the nearest number. -/
theorem readFloat_of_digits
    (htext : text.toList = signText negative ++ (whole ++ '.' :: fraction) ++ ending)
    (hne : whole ≠ []) (hwhole : ∀ c ∈ whole, isDecimalDigit c = true)
    (hfraction : ∀ c ∈ fraction, isDecimalDigit c = true)
    (hending : ∀ c ∈ ending, isMargin c = true) :
    readFloat text = .ok (Binary.double.ofDecimal negative
      (valueOfDigits ((whole ++ fraction).map digitOf)) (-fraction.length)) := by
  obtain ⟨c, digits, rfl⟩ := List.exists_cons_of_ne_nil hne
  have hc : isDecimalDigit c = true := hwhole c (by simp)
  have hsplit : splitSign (trimMargin text.toList) =
      (negative, (c :: digits) ++ '.' :: fraction) := by
    rw [htext, List.cons_append]
    refine splitSign_trimMargin hc (fun d hd => ?_) hending
    simp only [List.mem_append, List.mem_cons] at hd
    rcases hd with hd | rfl | hd
    · rw [isMargin, isBlank_of_isDecimalDigit (hwhole d (by simp [hd]))]
      rfl
    · decide
    · rw [isMargin, isBlank_of_isDecimalDigit (hfraction d hd)]
      rfl
  -- the digits before the point end there, and those after it at the end
  have hpoint := @spanDigits_append (c :: digits) ('.' :: fraction) hwhole (by
    rintro d ⟨⟩
    decide)
  have hend := @spanDigits_append fraction [] hfraction nofun
  rw [List.append_nil] at hend
  have hunsigned : unsigned? ((c :: digits) ++ '.' :: fraction) =
      some (valueOfDigits (((c :: digits) ++ fraction).map digitOf), -(fraction.length : Int)) := by
    rw [unsigned?]
    simp only [hpoint, hend, groupedDigits?_of_isDecimalDigit hwhole,
      groupedDigits?_of_isDecimalDigit hfraction]
    simp [exponent?]
  -- no word for a number starts with a digit
  have hword : ∀ d word, isDecimalDigit d = false →
      String.ofList (((c :: digits) ++ '.' :: fraction).map Char.toLower) ≠
        String.ofList (d :: word) := by
    intro d word hd h
    rw [List.cons_append, List.map_cons, toLower_of_isDecimalDigit hc] at h
    exact ne_of_isDecimalDigit hc hd (List.cons.inj (String.ofList_injective h)).1
  have hinf : String.ofList (((c :: digits) ++ '.' :: fraction).map Char.toLower) ≠ "inf" :=
    hword 'i' ['n', 'f'] (by decide)
  have hinfinity : String.ofList (((c :: digits) ++ '.' :: fraction).map Char.toLower) ≠
      "infinity" := hword 'i' "nfinity".toList (by decide)
  have hnan : String.ofList (((c :: digits) ++ '.' :: fraction).map Char.toLower) ≠ "nan" :=
    hword 'n' ['a', 'n'] (by decide)
  have hread : readBinary? Binary.double text = some (Binary.double.ofDecimal negative
      (valueOfDigits (((c :: digits) ++ fraction).map digitOf)) (-fraction.length)) := by
    rw [readBinary?]
    simp only [hsplit]
    rw [if_neg (by simp only [hinf, hinfinity, or_self, not_false_iff]), if_neg hnan, hunsigned]
    rfl
  rw [readFloat, hread]

end Number

end SharedTables
