import Mathlib
import SharedTables.Proofs.Number.IntText
import SharedTables.Proofs.Predicate.RoundTrip
import SharedTables.Proofs.Sharing.NumericText
import SharedTables.Proofs.Sharing.PruningOrder

/-!
# Numbers without a plus sign

A minus sign that may be missing, the digits `0` to `9`, and maybe a point with more of them: such a
text is the same number in a predicate and among the partition values, an integer without a point
and a floating-point number with one.  No other line of ASCII is a number among the partition
values, though predicates also know numbers with a plus sign.

## Key results

- `coerce_plain`: the literal that the parts of the number write is what the partition value is
- `FileReference.keptBy_of_coerce`: a file compared with its own value
- `IsPlain.of_looksNumeric`: the lines of ASCII that look like numbers
- `plain_numbers_read_alike`: both readers, and which texts the one of partition values leaves alone
-/

namespace SharedTables

open PartitionValue Predicate

/-- The text is a number without a plus sign: a minus sign that may be missing, the digits `whole`,
    and a point with the digits `fraction` if there are any. -/
structure PlainNumber (s : String) (sign : Sign) (whole : List Char)
    (fraction : Option (List Char)) : Prop where
  text : (LiteralSyntax.number sign whole fraction).text = s.toList
  valid : (LiteralSyntax.number sign whole fraction).Valid
  sign_ne : sign ≠ .plus

/-- The text is a number without a plus sign. -/
def IsPlain (s : String) : Prop :=
  ∃ sign whole fraction, PlainNumber s sign whole fraction

variable {s : String} {sign : Sign} {whole digits : List Char} {fraction : Option (List Char)}

/-! ### The parts of a plain number -/

/-- A sign that is no plus is written as the sign of a number. -/
private theorem signText_of_ne_plus (h : sign ≠ .plus) :
    Number.signText (decide (sign = .minus)) = sign.text := by
  cases sign with
  | missing => rfl
  | plus => exact absurd rfl h
  | minus => rfl

namespace PlainNumber

/-- The whole part of a plain number consists of digits. -/
private theorem isDigit_whole (h : PlainNumber s sign whole fraction) :
    ∀ c ∈ whole, c.isDigit = true :=
  h.valid.1.2

/-- So does its fraction. -/
private theorem isDigit_fraction (h : PlainNumber s sign whole (some digits)) :
    ∀ c ∈ digits, c.isDigit = true :=
  (h.valid.2 digits rfl).2

/-- These digits are among those of all scripts. -/
private theorem isDecimalDigit_whole (h : PlainNumber s sign whole fraction) :
    ∀ c ∈ whole, Text.isDecimalDigit c = true :=
  fun c hc => isDecimalDigit_of_isDigit (h.isDigit_whole c hc)

/-- So are those of the fraction. -/
private theorem isDecimalDigit_fraction (h : PlainNumber s sign whole (some digits)) :
    ∀ c ∈ digits, Text.isDecimalDigit c = true :=
  fun c hc => isDecimalDigit_of_isDigit (h.isDigit_fraction c hc)

/-- A plain number is a sign, digits and a fraction. -/
private theorem toList_eq (h : PlainNumber s sign whole fraction) : s.toList =
    Number.signText (decide (sign = .minus)) ++ (whole ++ LiteralSyntax.fractionText fraction) := by
  rw [← h.text, signText_of_ne_plus h.sign_ne]
  rfl

/-- All but the sign is the body of the number. -/
private theorem numberBody_eq (h : PlainNumber s sign whole fraction) :
    numberBody s = whole ++ LiteralSyntax.fractionText fraction := by
  -- neither the digits nor the point are a line end
  have hfraction : '\n' ∉ LiteralSyntax.fractionText fraction := by
    cases fraction with
    | none => exact nofun
    | some digits =>
      simpa [LiteralSyntax.fractionText] using newline_notMem_of_isDigit h.isDigit_fraction
  have hwhole := h.isDigit_whole
  have htext := h.toList_eq
  obtain ⟨c, rest, rfl⟩ := List.exists_cons_of_ne_nil h.valid.1.1
  rw [List.forall_mem_cons] at hwhole
  -- no line end is cut off, as there is none
  refine numberBody_signText _ htext hwhole.1 fun hmem => ?_
  rcases List.mem_append.1 hmem with hmem | hmem
  · exact newline_notMem_of_isDigit hwhole.2 hmem
  · exact hfraction hmem

/-- Without a fraction it looks like an integer. -/
private theorem looksLikeInteger (h : PlainNumber s sign whole none) : looksInteger s = true := by
  rw [looksInteger_iff, h.numberBody_eq, LiteralSyntax.fractionText, List.append_nil]
  exact ⟨h.valid.1.1, h.isDecimalDigit_whole⟩

/-- With a fraction it looks like a decimal number. -/
private theorem looksLikeDecimal (h : PlainNumber s sign whole (some digits)) :
    looksDecimal s = true :=
  looksDecimal_iff.2 ⟨whole, digits, h.numberBody_eq, h.valid.1.1, h.isDecimalDigit_whole,
    (h.valid.2 digits rfl).1, h.isDecimalDigit_fraction⟩

/-- The point of a decimal number is no digit. -/
private theorem not_looksLikeInteger (h : PlainNumber s sign whole (some digits)) :
    looksInteger s ≠ true := by
  rw [Ne, looksInteger_iff, h.numberBody_eq, LiteralSyntax.fractionText]
  rintro ⟨-, hbody⟩
  exact absurd (hbody '.' (by simp)) (by decide)

end PlainNumber

/-! ### What a plain number stands for -/

/-- A plain integer without too many digits stands for the literal that its parts write. -/
private theorem coerce_plain_integer (h : PlainNumber s sign whole none)
    (hfits : whole.length ≤ maxIntegerDigits) :
    coerce (.text s) = .ok (numberLiteral (decide (sign = .minus)) whole none).toValue := by
  have htext := h.toList_eq
  rw [LiteralSyntax.fractionText, ← List.append_assoc] at htext
  have hread := Number.readInteger_of_digits htext h.valid.1.1 h.isDecimalDigit_whole
    (List.forall_mem_nil _)
  -- both readers give the digits the same value
  rw [if_neg (Nat.not_lt.2 hfits), valueOfDigits_map h.isDigit_whole] at hread
  rw [coerce, if_pos h.looksLikeInteger, hread, numberLiteral, if_pos hfits]
  rfl

/-- A plain decimal number stands for the literal that its parts write. -/
private theorem coerce_plain_decimal (h : PlainNumber s sign whole (some digits)) :
    coerce (.text s) =
      .ok (numberLiteral (decide (sign = .minus)) whole (some digits)).toValue := by
  have htext := h.toList_eq
  rw [LiteralSyntax.fractionText, ← List.append_nil (_ ++ _)] at htext
  have hread := Number.readFloat_of_digits htext h.valid.1.1 h.isDecimalDigit_whole
    h.isDecimalDigit_fraction (List.forall_mem_nil _)
  rw [valueOfDigits_map (List.forall_mem_append.2 ⟨h.isDigit_whole, h.isDigit_fraction⟩)] at hread
  rw [coerce, if_neg h.not_looksLikeInteger, if_pos h.looksLikeDecimal, hread]
  rfl

/-- A plain number stands for the literal that its parts write, unless it is an integer of too many
    digits. -/
theorem coerce_plain (h : PlainNumber s sign whole fraction)
    (hfits : fraction = none → whole.length ≤ maxIntegerDigits) :
    coerce (.text s) = .ok (numberLiteral (decide (sign = .minus)) whole fraction).toValue := by
  cases fraction with
  | none => exact coerce_plain_integer h (hfits rfl)
  | some digits => exact coerce_plain_decimal h

/-- The literal that the parts of a number write is a number. -/
private theorem number?_numberLiteral (negative : Bool) (whole : List Char)
    (fraction : Option (List Char)) :
    (number? (numberLiteral negative whole fraction).toValue).isSome = true := by
  cases fraction with
  | none =>
    rw [numberLiteral]
    split <;> rfl
  | some digits => rfl

/-- A file compared with its own value is kept where equality is enough. -/
theorem FileReference.keptBy_of_coerce {file : FileReference} {column : String} {l : Literal}
    (hcolumn : isColumnName column = true)
    (hvalue : file.partitionValues.lookup? column = some (.text s))
    (hv : coerce (.text s) = .ok l.toValue) (hl : l.IsReadNumber) :
    (∀ op ∈ [Operator.eq, .ge, .le], file.KeptBy ⟨op, column, l, hcolumn⟩) ∧
      ∀ op ∈ [Operator.ne, .lt, .gt], file.DroppedBy ⟨op, column, l, hcolumn⟩ := by
  obtain ⟨a, ha⟩ := hl.exists_toEReal
  -- both sides of the comparison are `a`
  have hcompare (op : Operator) := keptBy_iff_of_coerce (p := ⟨op, column, l, hcolumn⟩) hvalue hv
    ha ha
  constructor
  · intro op hop
    refine (hcompare op).1.2 ?_
    simp only [List.mem_cons, List.not_mem_nil, or_false] at hop
    rcases hop with rfl | rfl | rfl <;> simp [Operator.Relates]
  · intro op hop
    refine (hcompare op).2.2 ?_
    simp only [List.mem_cons, List.not_mem_nil, or_false] at hop
    rcases hop with rfl | rfl | rfl <;> simp [Operator.Relates]

/-! ### Lines of ASCII -/

/-- The decimal digits of ASCII are `0` to `9`. -/
private theorem isDigit_of_isDecimalDigit {c : Char} (h : Text.isDecimalDigit c = true)
    (hc : c.toNat < 128) : c.isDigit = true := by
  obtain ⟨z, hz, hlow, hhigh⟩ := Text.code_of_isDecimalDigit h
  have hzero : ∀ z ∈ Text.digitZeros, z < 128 → z = '0'.toNat := by decide
  obtain rfl := hzero z hz (by omega)
  simp only [Char.isDigit, Bool.and_eq_true, decide_eq_true_eq]
  exact ⟨UInt32.le_iff_toNat_le.2 hlow, UInt32.le_iff_toNat_le.2 (Nat.le_of_lt_succ hhigh)⟩

/-- A run of digits that is part of a text of ASCII is one of `0` to `9`. -/
private theorem isDigits_of_ascii {ds : List Char} (hds : ∀ c ∈ ds, Text.isDecimalDigit c = true)
    (hne : ds ≠ []) (hascii : ∀ c ∈ ds, c.toNat < 128) : IsDigits ds :=
  ⟨hne, fun c hc => isDigit_of_isDecimalDigit (hds c hc) (hascii c hc)⟩

namespace IsPlain

/-- A plain number looks like one. -/
private theorem looksNumeric (h : IsPlain s) : LooksNumeric s := by
  obtain ⟨sign, whole, fraction, h⟩ := h
  cases fraction with
  | none => exact .inl h.looksLikeInteger
  | some digits => exact .inr h.looksLikeDecimal

/-- A body in the digits of ASCII with a minus sign or nothing in front is a plain number. -/
private theorem of_body {negative : Bool} (fraction : Option (List Char))
    (htext : s.toList = Number.signText negative ++ (whole ++ LiteralSyntax.fractionText fraction))
    (hwhole : IsDigits whole) (hfraction : ∀ digits ∈ fraction, IsDigits digits) : IsPlain s := by
  cases negative with
  | false => exact ⟨.missing, whole, fraction, htext.symm, ⟨hwhole, hfraction⟩, nofun⟩
  | true => exact ⟨.minus, whole, fraction, htext.symm, ⟨hwhole, hfraction⟩, nofun⟩

/-- Of the lines of ASCII only plain numbers look like numbers. -/
theorem of_looksNumeric (hascii : ∀ c ∈ s.toList, c.toNat < 128) (hline : '\n' ∉ s.toList)
    (h : LooksNumeric s) : IsPlain s := by
  obtain ⟨negative, ending, htext, hending⟩ := exists_toList_eq s
  obtain rfl : ending = [] := by
    refine hending.resolve_right ?_
    -- the text is a line, so it does not end in a line end
    rintro rfl
    exact hline (by simp [htext])
  rw [List.append_nil] at htext
  rw [htext, List.forall_mem_append] at hascii
  -- without a line end the sign and the body are all of the text
  rcases h with h | h
  · obtain ⟨hne, hdigits⟩ := looksInteger_iff.1 h
    rw [← List.append_nil (numberBody s)] at htext
    exact of_body none htext (isDigits_of_ascii hdigits hne hascii.2) nofun
  · obtain ⟨whole, digits, hbody, hne, hwhole, hne', hdigits⟩ := looksDecimal_iff.1 h
    rw [hbody] at htext hascii
    rw [List.forall_mem_append, List.forall_mem_cons] at hascii
    refine of_body (some digits) htext (isDigits_of_ascii hwhole hne hascii.2.1) ?_
    rintro _ ⟨⟩
    exact isDigits_of_ascii hdigits hne' hascii.2.2.2

end IsPlain

/-! ### Both readers -/

/-- A number without a plus sign is read by predicates and among the partition values as the same
    number, the one that it denotes, unless it is an integer of too many digits; so a file with this
    value is kept by the operators for which equality is enough and dropped by the others.  Of the
    lines of ASCII that are not too long only these texts are numbers among the partition values,
    and each other one stands for itself. -/
theorem plain_numbers_read_alike {column : String} (hcolumn : isColumnName column = true)
    (s : String) :
    (∀ sign whole fraction, PlainNumber s sign whole fraction →
      (fraction = none → whole.length ≤ maxIntegerDigits) →
      ∃ l : Literal, (LiteralSyntax.number sign whole fraction).Denotes l ∧
        (number? l.toValue).isSome = true ∧
        (∀ op : Operator,
          parse (column ++ " " ++ op.symbol ++ " " ++ s) = .ok ⟨op, column, l, hcolumn⟩) ∧
        coerce (.text s) = .ok l.toValue ∧
        ∀ file : FileReference, file.partitionValues.lookup? column = some (.text s) →
          (∀ op ∈ [Operator.eq, .ge, .le], file.KeptBy ⟨op, column, l, hcolumn⟩) ∧
          ∀ op ∈ [Operator.ne, .lt, .gt], file.DroppedBy ⟨op, column, l, hcolumn⟩) ∧
    ((∀ c ∈ s.toList, c.toNat < 128) → '\n' ∉ s.toList → s.length ≤ maxIntegerDigits →
      ((∃ v, coerce (.text s) = .ok v ∧ (number? v).isSome = true) ↔ IsPlain s) ∧
      (¬ IsPlain s → coerce (.text s) = .ok (.text s))) := by
  constructor
  · intro sign whole fraction h hfits
    -- both readers give the literal that the parts of the number stand for
    have hdenotes := denotes_numberLiteral sign whole fraction
    have hnumber := number?_numberLiteral (decide (sign = .minus)) whole fraction
    have hparse (op : Operator) := parse_spaced
      (p := ⟨op, column, numberLiteral (decide (sign = .minus)) whole fraction, hcolumn⟩)
      h.text h.valid hdenotes
    have hcoerce := coerce_plain h hfits
    exact ⟨_, hdenotes, hnumber, hparse, hcoerce, fun file hvalue =>
      FileReference.keptBy_of_coerce hcolumn hvalue hcoerce ⟨hnumber, _, _, hparse .eq, rfl⟩⟩
  · intro hascii hline hlength
    -- what looks like a number to pruning is a plain number, in a line of ASCII
    have hplain : LooksNumeric s ↔ IsPlain s :=
      ⟨IsPlain.of_looksNumeric hascii hline, IsPlain.looksNumeric⟩
    have hread := readsAs_coerce s
    generalize coerce (.text s) = result at hread
    cases hread with
    | @number v x looks fits number =>
      exact ⟨iff_of_true ⟨v, rfl, by rw [number]; rfl⟩ (hplain.1 looks),
        fun h => absurd (hplain.1 looks) h⟩
    | tooMany exceeds =>
      -- no text has more digits than characters
      have hcount := List.countP_le_length (p := Text.isDecimalDigit) (l := s.toList)
      rw [String.length_toList] at hcount
      exact absurd exceeds.2 (Nat.not_lt.2 (hcount.trans hlength))
    | itself looks =>
      refine ⟨iff_of_false ?_ (mt hplain.2 looks), fun _ => rfl⟩
      rintro ⟨_, ⟨⟩, ⟨⟩⟩

/-- A file whose partition value is a minus zero with a zero too many. -/
def minusZero : FileReference :=
  ⟨"f", [("c", .text "-00.0")], .null, none, .null, []⟩

/-- Minus zero keeps its sign in both readers, and a plus sign makes a number for one of them. -/
theorem minus_zero_read_alike :
    PlainNumber "-00.0" .minus ['0', '0'] (some ['0']) ∧
      parse "c >= -00.0" = .ok ⟨.ge, "c", .float (Binary.double.zero true), by decide⟩ ∧
      coerce (.text "-00.0") = .ok (.float (Binary.double.zero true)) ∧
      minusZero.KeptBy ⟨.ge, "c", .float (Binary.double.zero true), by decide⟩ ∧
      minusZero.DroppedBy ⟨.lt, "c", .float (Binary.double.zero true), by decide⟩ ∧
      parse "c >= +7" = .ok ⟨.ge, "c", .integer 7, by decide⟩ ∧
      coerce (.text "+7") = .ok (.text "+7") := by
  have hplain : PlainNumber "-00.0" .minus ['0', '0'] (some ['0']) :=
    ⟨rfl, ⟨⟨nofun, by simp⟩, by rintro _ ⟨⟩; exact ⟨nofun, by simp⟩⟩, nofun⟩
  have hplus : ¬ IsPlain "+7" := by
    intro h
    rcases h.looksNumeric with h | h <;> exact absurd h (by decide)
  obtain ⟨l, -, -, hparse, hcoerce, hfile⟩ :=
    (plain_numbers_read_alike (show isColumnName "c" = true by decide) "-00.0").1 _ _ _ hplain nofun
  have hzero : parse "c >= -00.0" =
      .ok ⟨.ge, "c", .float (Binary.double.zero true), by decide⟩ := rfl
  -- parsing is a function, so the literal of the theorem is this one
  obtain rfl : l = .float (Binary.double.zero true) :=
    congrArg Predicate.value (Except.ok.inj ((hparse .ge).symm.trans hzero))
  obtain ⟨hkept, hdropped⟩ := hfile minusZero rfl
  refine ⟨hplain, hzero, hcoerce, hkept .ge (by decide), hdropped .lt (by decide), rfl, ?_⟩
  exact ((plain_numbers_read_alike (show isColumnName "c" = true by decide) "+7").2 (by simp)
    (by decide) (by decide)).2 hplus

end SharedTables
