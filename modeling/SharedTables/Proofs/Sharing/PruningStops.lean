import Mathlib
import SharedTables.Predicate.Parser
import SharedTables.Proofs.Sharing.NumericText
import SharedTables.Proofs.Sharing.Pruned

/-!
# Where pruning stops

A value that cannot be compared with the literal of a predicate excludes its file, and a file
without a value is kept.  Pruning stops all the same where an integer has too many digits: at a
partition value that would have to be read as a number, and at one that would have to be written as
a text.

## Key results

- `judges_verdict`: the three verdicts on a value, each with its cause
- `FileReference.exists_result_admitsAll_iff`: a file is judged unless one of its values stops it
- `pruning_stops_iff`: pruning has a result unless it is stopped by the value of a file
- `pruning_stopped_by_digits`: a text of too many digits stops it, though it is a mismatch
-/

namespace SharedTables

open PartitionValue

variable {raw : Value} {p : Predicate} {file : FileReference} {files : List FileReference}
  {predicates : List Predicate}

/-! ### Values that cannot be compared, values that cannot be read -/

/-- A partition value that is a number or a text that looks like one. -/
def StandsForNumber (raw : Value) : Prop :=
  (number? raw).isSome = true ∨ ∃ s, raw = .text s ∧ LooksNumeric s

/-- The value cannot be compared with the literal of the predicate: it is no number or no truth
    value where the literal is one, or it looks like a number and is to be ordered against a
    text. -/
def Incomparable (raw : Value) (p : Predicate) : Prop :=
  match p.value with
  | .integer _ => ¬ StandsForNumber raw
  | .float _ => ¬ StandsForNumber raw
  | .text _ => p.operator.isEquality = false ∧ LooksNumeric raw.display
  | .bool _ => (∀ c, raw ≠ .bool c) ∧ truthOfText? raw.display = none
  | .null => False

/-- To compare the value with the literal of the predicate, an integer of too many digits would have
    to be read or written. -/
def Unreadable (raw : Value) (p : Predicate) : Prop :=
  match p.value with
  | .integer _ => ∃ s, raw = .text s ∧ TooManyDigits s
  | .float _ => ∃ s, raw = .text s ∧ TooManyDigits s
  | .text _ =>
    raw.hasText = false ∨ p.operator.isEquality = false ∧ TooManyDigits raw.display
  | .bool _ => raw.hasText = false
  | .null => False

/-- The verdict on a value, and its cause. -/
inductive Judges (raw : Value) (p : Predicate) : Except NumberError (Option Bool) → Prop
  | unreadable {e : NumberError} (unreadable : Unreadable raw p) : Judges raw p (.error e)
  | incomparable (readable : ¬ Unreadable raw p) (incomparable : Incomparable raw p) :
      Judges raw p (.ok none)
  | compared {accepted : Bool} (readable : ¬ Unreadable raw p)
      (comparable : ¬ Incomparable raw p) : Judges raw p (.ok (some accepted))

/-! ### The verdicts -/

/-- A partition value is read unless it is a text of too many digits. -/
private theorem coerce_cases (raw : Value) :
    ((∃ e, coerce raw = .error e) ∧ ∃ s, raw = .text s ∧ TooManyDigits s) ∨
      ∃ v, coerce raw = .ok v ∧ ((number? v).isSome = true ↔ StandsForNumber raw) ∧
        ¬ ∃ s, raw = .text s ∧ TooManyDigits s := by
  cases raw with
  | text s =>
    -- a text has too many digits, looks like a number, or stays as it is
    have hread := readsAs_coerce s
    generalize coerce (.text s) = result at hread
    cases hread with
    | tooMany exceeds => exact .inl ⟨⟨_, rfl⟩, s, rfl, exceeds⟩
    | @number v x looks fits number =>
      refine .inr ⟨v, rfl, iff_of_true (by rw [number]; rfl) (.inr ⟨s, rfl, looks⟩), ?_⟩
      rintro ⟨_, ⟨⟩, exceeds⟩
      exact fits exceeds
    | itself looks =>
      refine .inr ⟨.text s, rfl, iff_of_false nofun ?_, ?_⟩
      · rintro (⟨⟨⟩⟩ | ⟨_, ⟨⟩, h⟩)
        exact looks h
      · rintro ⟨_, ⟨⟩, exceeds⟩
        exact looks (.inl exceeds.1)
  | _ =>
    refine .inr ⟨_, rfl, ⟨.inl, ?_⟩, nofun⟩
    rintro (h | ⟨_, ⟨⟩, -⟩)
    exact h

/-- A literal that is a number is compared with values that stand for numbers. -/
private theorem judges_of_number {y : Binary} (h : number? p.value.toValue = some y)
    (hincomparable : Incomparable raw p ↔ ¬ StandsForNumber raw)
    (hunreadable : Unreadable raw p ↔ ∃ s, raw = .text s ∧ TooManyDigits s) :
    Judges raw p (verdict raw p) := by
  rw [verdict_of_number h]
  -- the verdict fails with the conversion, and is none where the value is no number
  rcases coerce_cases raw with ⟨⟨e, he⟩, hexceeds⟩ | ⟨v, hv, hnumber, hfits⟩
  · rw [he]
    exact .unreadable (hunreadable.2 hexceeds)
  · have hreadable := mt hunreadable.1 hfits
    rw [hv, Except.map]
    cases hx : number? v with
    | none =>
      rw [hx] at hnumber
      exact .incomparable hreadable (hincomparable.2 fun hstands => nomatch hnumber.2 hstands)
    | some x =>
      rw [hx] at hnumber
      exact .compared hreadable fun h => hincomparable.1 h (hnumber.1 rfl)

/-- A text is compared with the text of the value, and ordered only against texts that do not look
    like numbers. -/
private theorem judges_of_text (op : Operator) (column s : String)
    (hcolumn : isColumnName column = true) :
    Judges raw ⟨op, column, .text s, hcolumn⟩ (verdict raw ⟨op, column, .text s, hcolumn⟩) := by
  simp only [verdict, Value.toText]
  cases htext : raw.hasText with
  | false => exact .unreadable (.inl htext)
  | true =>
    show Judges _ _ (if op.isEquality = true then _ else _)
    cases hop : op.isEquality with
    | true => exact .compared (by simp [Unreadable, htext, hop]) (by simp [Incomparable, hop])
    | false =>
      -- an order is asked for, so whether the text looks like a number decides
      have hread := readsAs_coerce raw.display
      rw [if_neg Bool.false_ne_true]
      generalize coerce (.text raw.display) = result at hread
      cases hread with
      | tooMany exceeds => exact .unreadable (.inr ⟨hop, exceeds⟩)
      | @number v x looks fits number =>
        show Judges _ _ (.ok (if (number? v).isSome = true then _ else _))
        rw [number]
        exact .incomparable (by simp [Unreadable, htext, fits]) ⟨hop, looks⟩
      | itself looks =>
        have hfits : ¬ TooManyDigits raw.display := fun exceeds => looks (.inl exceeds.1)
        exact .compared (by simp [Unreadable, htext, hfits]) fun h => looks h.2

/-- A truth value is compared with truth values and with the words for them. -/
private theorem judges_of_bool (op : Operator) (column : String) (b : Bool)
    (hcolumn : isColumnName column = true) :
    Judges raw ⟨op, column, .bool b, hcolumn⟩ (verdict raw ⟨op, column, .bool b, hcolumn⟩) := by
  by_cases hbool : ∃ c, raw = .bool c
  · obtain ⟨c, rfl⟩ := hbool
    exact .compared (by simp [Unreadable, Value.hasText]) (by simp [Incomparable])
  · -- a truth value stands for itself; of anything else the text has to be a truth word
    have htruth : truth? raw = raw.toText.map truthOfText? := by
      cases raw with
      | bool c => exact absurd ⟨c, rfl⟩ hbool
      | _ => rfl
    simp only [verdict, htruth, Value.toText]
    cases htext : raw.hasText with
    | false => exact .unreadable htext
    | true =>
      have hreadable : ¬ Unreadable raw ⟨op, column, .bool b, hcolumn⟩ := by
        simp [Unreadable, htext]
      show Judges _ _ (.ok ((truthOfText? raw.display).map _))
      cases hword : truthOfText? raw.display with
      | none => exact .incomparable hreadable ⟨not_exists.1 hbool, hword⟩
      | some c => exact .compared hreadable (by simp [Incomparable, hword])

/-- The three verdicts on a value, each with its cause. -/
theorem judges_verdict (raw : Value) (p : Predicate) : Judges raw p (verdict raw p) := by
  obtain ⟨op, column, literal, hcolumn⟩ := p
  cases literal with
  | integer n => exact judges_of_number rfl Iff.rfl Iff.rfl
  | float y => exact judges_of_number rfl Iff.rfl Iff.rfl
  | text s => exact judges_of_text op column s hcolumn
  | bool b => exact judges_of_bool op column b hcolumn
  | null => exact .compared id id

/-! ### Files -/

namespace FileReference

/-- The file is judged by a predicate for which its value cannot be read: the first of the list, or
    a later one if the first admits the file. -/
inductive StoppedBy (file : FileReference) : List Predicate → Prop
  | here {p : Predicate} {rest : List Predicate} {raw : Value}
      (value : file.value? p.column = some raw) (unreadable : Unreadable raw p) :
      StoppedBy file (p :: rest)
  | later {p : Predicate} {rest : List Predicate} (admitted : (file.admits p).result = .ok true)
      (stopped : StoppedBy file rest) : StoppedBy file (p :: rest)

/-- A file is judged by a predicate unless its value stops it. -/
private theorem exists_result_admits_iff :
    (∃ admitted, (file.admits p).result = .ok admitted) ↔
      ∀ raw, file.value? p.column = some raw → ¬ Unreadable raw p := by
  rw [result_admits]
  cases file.value? p.column with
  -- a file without a value for the column is admitted
  | none => simp
  | some raw =>
    have hjudges := judges_verdict raw p
    simp only [Option.some.injEq, forall_eq']
    generalize verdict raw p = result at hjudges
    cases hjudges with
    | unreadable unreadable => exact iff_of_false nofun (not_not.2 unreadable)
    | incomparable readable => exact iff_of_true ⟨_, rfl⟩ readable
    | compared readable => exact iff_of_true ⟨_, rfl⟩ readable

/-- A file is judged by predicates one after another unless one of its values stops it. -/
theorem exists_result_admitsAll_iff :
    (∃ admitted, (file.admitsAll predicates).result = .ok admitted) ↔
      ¬ file.StoppedBy predicates := by
  -- predicates are judged in order, up to the first that excludes the file
  induction predicates with
  | nil =>
    refine iff_of_true ⟨true, rfl⟩ ?_
    rintro ⟨⟩
  | cons p rest ih =>
    have hjudged := @exists_result_admits_iff p file
    rw [admitsAll]
    cases hadmits : (file.admits p).result with
    | error e =>
      rw [Run.result_bind_of_error hadmits]
      refine iff_of_false (by simp) (not_not.2 ?_)
      -- no verdict on the first predicate, so its value cannot be read
      have hunjudged := mt hjudged.2 (by simp [hadmits])
      push Not at hunjudged
      obtain ⟨raw, hraw, hunreadable⟩ := hunjudged
      exact .here hraw hunreadable
    | ok admitted =>
      have hreadable := hjudged.1 ⟨admitted, hadmits⟩
      rw [Run.result_bind_of_ok hadmits]
      cases admitted with
      | true =>
        refine ih.trans (not_congr ⟨.later hadmits, ?_⟩)
        rintro (⟨hraw, hunreadable⟩ | ⟨-, hstopped⟩)
        · exact absurd hunreadable (hreadable _ hraw)
        · exact hstopped
      | false =>
        -- what comes after a predicate that excludes the file is not looked at
        refine iff_of_true ⟨false, rfl⟩ ?_
        rintro (⟨hraw, hunreadable⟩ | ⟨hadmitted, -⟩)
        · exact hreadable _ hraw hunreadable
        · rw [hadmits] at hadmitted
          cases hadmitted

/-- A file is not admitted where one of the predicates does not admit it. -/
private theorem isAdmitted_of_not_admits (hp : p ∈ predicates)
    (h : (file.admits p).result ≠ .ok true) : file.isAdmitted predicates = false := by
  rw [isAdmitted]
  -- whatever is judged before it, such a predicate is not passed
  induction predicates with
  | nil => cases hp
  | cons q rest ih =>
    rw [admitsAll]
    cases hadmits : (file.admits q).result with
    | error e => rw [Run.result_bind_of_error hadmits]
    | ok admitted =>
      rw [Run.result_bind_of_ok hadmits]
      cases admitted with
      | false => rfl
      | true =>
        rcases List.mem_cons.1 hp with rfl | hp
        · exact absurd hadmits h
        · exact ih hp

/-- A value that cannot be compared with the literal of a predicate excludes its file. -/
private theorem result_admits_of_incomparable (hraw : file.value? p.column = some raw)
    (h : Incomparable raw p) : (file.admits p).result ≠ .ok true := by
  simp only [result_admits, hraw]
  have hjudges := judges_verdict raw p
  generalize verdict raw p = result at hjudges
  cases hjudges with
  | unreadable => simp
  | incomparable => simp
  | compared _ comparable => exact absurd h comparable

end FileReference

/-! ### Pruning -/

/-- Pruning has a result unless it is stopped by the value of a file: it keeps some of the files in
    their order, all without values in the columns of the predicates among them and none with a
    value that cannot be compared. -/
theorem pruning_stops_iff :
    (∃ keep : FileReference → Bool, (pruneFiles files predicates).result = .ok (files.filter keep) ∧
      (∀ file ∈ files, (∀ p ∈ predicates, file.value? p.column = none) → keep file = true) ∧
      ∀ file ∈ files, ∀ p ∈ predicates, ∀ raw, file.value? p.column = some raw →
        Incomparable raw p → keep file = false) ↔
      ∀ file ∈ files, ¬ file.StoppedBy predicates := by
  simp only [← FileReference.exists_result_admitsAll_iff]
  constructor
  · rintro ⟨keep, hresult, -⟩
    exact (pruneFiles_eq_ok_iff.1 hresult).1
  · intro hjudged
    refine ⟨FileReference.isAdmitted predicates, pruneFiles_eq_ok_iff.2 ⟨hjudged, rfl⟩, ?_, ?_⟩
    · exact fun file _ hnone => FileReference.isAdmitted_of_result
        (FileReference.admitsAll_of_no_value hnone)
    · exact fun file _ p hp raw hraw hincomparable => FileReference.isAdmitted_of_not_admits hp
        (FileReference.result_admits_of_incomparable hraw hincomparable)

/-! ### Texts of too many digits -/

/-- A text of ones only. -/
def ones (n : Nat) : String := String.ofList (List.replicate n '1')

private theorem isDecimalDigit_of_mem_ones {n : Nat} : ∀ c ∈ List.replicate n '1',
    Text.isDecimalDigit c = true := by
  intro c hc
  rw [List.eq_of_mem_replicate hc]
  decide

private theorem countP_ones (n : Nat) : (ones n).toList.countP Text.isDecimalDigit = n := by
  rw [ones, String.toList_ofList, List.countP_eq_length.2 isDecimalDigit_of_mem_ones,
    List.length_replicate]

private theorem tooManyDigits_ones {n : Nat} (h : maxIntegerDigits < n) : TooManyDigits
    (ones n) := by
  obtain ⟨k, rfl⟩ := Nat.exists_eq_succ_of_ne_zero (show n ≠ 0 by omega)
  have hbody : numberBody (ones (k + 1)) = List.replicate (k + 1) '1' := by
    rw [List.replicate_succ]
    refine numberBody_signText false String.toList_ofList (by decide) ?_
    simp [List.mem_replicate]
  refine ⟨looksInteger_iff.2 ?_, by rwa [countP_ones]⟩
  rw [hbody]
  exact ⟨by simp, isDecimalDigit_of_mem_ones⟩

/-- There is no verdict on the order of a text of too many digits and another text. -/
private theorem verdict_of_tooManyDigits {s v column : String} {op : Operator}
    {hcolumn : isColumnName column = true} (h : TooManyDigits s) (hop : op.isEquality = false) :
    verdict (.text s) ⟨op, column, .text v, hcolumn⟩ =
      .error (.tooManyDigits (s.toList.countP Text.isDecimalDigit)) := by
  simp only [verdict, Value.toText_text]
  show (if op.isEquality = true then _ else coerce (.text s) >>= _) = _
  rw [hop, if_neg Bool.false_ne_true, coerce_of_tooManyDigits h]
  rfl

/-- A text of too many digits is not to be ordered against a text, and stops pruning all the
    same. -/
theorem pruning_stopped_by_digits :
    Predicate.parse "c < 'x'" = .ok ⟨.lt, "c", .text "x", by decide⟩ ∧
      Incomparable (.text (ones 4301)) ⟨.lt, "c", .text "x", by decide⟩ ∧
      (pruneFiles [⟨"f", [("c", .text (ones 4301))], .null, none, .null, []⟩]
          [⟨.lt, "c", .text "x", by decide⟩]).result = .error (.number (.tooManyDigits 4301)) := by
  have hexceeds := tooManyDigits_ones (show maxIntegerDigits < 4301 by decide)
  refine ⟨rfl, ⟨rfl, .inl hexceeds.1⟩, pruneFiles_of_error ?_⟩
  refine FileReference.result_admits_of_error rfl ?_
  rw [verdict_of_tooManyDigits hexceeds rfl, countP_ones]

end SharedTables
