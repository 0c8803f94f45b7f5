import Mathlib
import SharedTables.Table.Comparison

/-!
# What literals are converted to

A literal is converted for a column of a type before it is compared with the cells.  `Converts` says
which literals are converted for which types, and to what.

## Key results

- `Operand.ofLiteral_eq_ok_iff`: the conversion succeeds exactly then
- `DataType.holdsInt_signed_iff`: the integers of so many bits
-/

namespace SharedTables

/-- The signed integers of so many bits. -/
theorem DataType.holdsInt_signed_iff {bits : Nat} {n : Int} :
    holdsInt true bits n = true ↔ -2 ^ (bits - 1) ≤ n ∧ n < 2 ^ (bits - 1) := by
  have hpow : (Nat.pow 2 (bits - 1) : Int) = 2 ^ (bits - 1) := by simp
  simp only [holdsInt, minInt, maxInt, if_true, Bool.and_eq_true, decide_eq_true_eq, hpow]
  omega

namespace Operand

/-- What the literal of a predicate is converted to for a column of a type. -/
inductive Converts (p : Predicate) : DataType → Operand → Prop
  | null {type : DataType} (value_eq : p.value = .null)
      (equality : p.operator.isEquality = true) : Converts p type .null
  | nothing (value_ne : p.value ≠ .null) : Converts p .null .nothing
  | integer {type : DataType} {n : Int} (value_eq : p.value = .integer n)
      (numeric : type.isNumeric = true) : Converts p type (.integer n)
  | number {type : DataType} {x : Binary} (value_eq : p.value = .float x)
      (numeric : type.isNumeric = true) : Converts p type (.number x)
  | bool {b : Bool} (value_eq : p.value = .bool b) : Converts p .boolean (.bool b)
  | text {type : DataType} {s : String} (value_eq : p.value = .text s)
      (textual : type.isTextual = true) : Converts p type (.text s)
  | date {s : String} {d : Date} (value_eq : p.value = .text s) (read : Date.read? s = some d) :
      Converts p .date (.date d.daysSinceEpoch)
  | moment {s : String} {m : Moment} {unit : TimeUnit} {zone : Option Zone}
      (value_eq : p.value = .text s) (read : Moment.read? s = some m) :
      Converts p (.datetime unit zone) (.moment m)

variable {p : Predicate} {type : DataType} {o : Operand}

/-- A column without values has nothing to compare literals with. -/
private theorem ofLiteral_null (hvalue : p.value ≠ .null) : ofLiteral p .null = .ok .nothing := by
  obtain ⟨op, column, value, hcolumn⟩ := p
  cases value with
  | null => exact absurd rfl hvalue
  | _ => rfl

private theorem converts_of_ofLiteral (h : ofLiteral p type = .ok o) : Converts p type o := by
  have hok : ∀ {c : Prop} [Decidable c] {a : Operand} {e : FilterError},
      (if c then .ok a else .error e) = Except.ok o → c ∧ a = o := by
    intro c _ a e hite
    split at hite
    · exact ⟨‹c›, Except.ok.inj hite⟩
    · cases hite
  by_cases hnull : p.value = .null
  · -- null is only asked for by equality
    simp only [ofLiteral, hnull] at h
    obtain ⟨hequality, rfl⟩ := hok h
    exact .null hnull hequality
  by_cases htype : type = .null
  · subst htype
    obtain rfl := Except.ok.inj ((ofLiteral_null hnull).symm.trans h)
    exact .nothing hnull
  cases hvalue : p.value with
  | null => exact absurd hvalue hnull
  | integer n =>
    simp only [ofLiteral, hvalue, if_neg htype] at h
    obtain ⟨hnumeric, rfl⟩ := hok h
    exact .integer hvalue hnumeric
  | float x =>
    simp only [ofLiteral, hvalue, if_neg htype] at h
    obtain ⟨hnumeric, rfl⟩ := hok h
    exact .number hvalue hnumeric
  | bool b =>
    simp only [ofLiteral, hvalue, if_neg htype] at h
    obtain ⟨rfl, rfl⟩ := hok h
    exact .bool hvalue
  | text s =>
    simp only [ofLiteral, hvalue, if_neg htype] at h
    by_cases htextual : type.isTextual = true
    · rw [if_pos htextual] at h
      obtain rfl := Except.ok.inj h
      exact .text hvalue htextual
    · -- the text is read as a day or a point in time
      rw [if_neg htextual] at h
      cases type with
      | date =>
        cases hread : Date.read? s with
        | none => simp [hread] at h
        | some d =>
          simp only [hread, Except.ok.injEq] at h
          exact h ▸ .date hvalue hread
      | datetime unit zone =>
        cases hread : Moment.read? s with
        | none => simp [hread] at h
        | some m =>
          simp only [hread, Except.ok.injEq] at h
          exact h ▸ .moment hvalue hread
      | _ => cases h

theorem Converts.ofLiteral_eq (h : Converts p type o) : ofLiteral p type = .ok o := by
  have hnumeric_ne : type.isNumeric = true → type ≠ .null := by
    rintro hnumeric rfl
    cases hnumeric
  have htextual_ne : type.isTextual = true → type ≠ .null := by
    rintro htextual rfl
    cases htextual
  cases h with
  | null hvalue hequality => simp [ofLiteral, hvalue, hequality]
  | nothing hvalue => exact ofLiteral_null hvalue
  | integer hvalue hnumeric => simp [ofLiteral, hvalue, hnumeric_ne hnumeric, hnumeric]
  | number hvalue hnumeric => simp [ofLiteral, hvalue, hnumeric_ne hnumeric, hnumeric]
  | bool hvalue => simp [ofLiteral, hvalue]
  | text hvalue htextual => simp [ofLiteral, hvalue, htextual_ne htextual, htextual]
  | date hvalue hread => simp [ofLiteral, hvalue, hread, DataType.isTextual]
  | moment hvalue hread => simp [ofLiteral, hvalue, hread, DataType.isTextual]

/-- Which literals are converted, and to what. -/
theorem ofLiteral_eq_ok_iff : ofLiteral p type = .ok o ↔ Converts p type o :=
  ⟨converts_of_ofLiteral, Converts.ofLiteral_eq⟩

/-- A literal other than null is converted to the same for every operator. -/
theorem Converts.of_operator (h : Converts p type o) (hvalue : p.value ≠ .null) (op : Operator) :
    Converts { p with operator := op } type o := by
  cases h with
  | null hnull => exact absurd hnull hvalue
  | nothing hvalue => exact .nothing hvalue
  | integer hvalue hnumeric => exact .integer hvalue hnumeric
  | number hvalue hnumeric => exact .number hvalue hnumeric
  | bool hvalue => exact .bool hvalue
  | text hvalue htextual => exact .text hvalue htextual
  | date hvalue hread => exact .date hvalue hread
  | moment hvalue hread => exact .moment hvalue hread

end Operand

end SharedTables
