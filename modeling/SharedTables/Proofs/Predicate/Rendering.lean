import SharedTables.Predicate.Printer
import SharedTables.Proofs.Number.Digits
import SharedTables.Proofs.Number.ReadBack
import SharedTables.Proofs.Predicate.Literals

/-!
# The canonical form of literals

The canonical form of a literal is a literal of the grammar that denotes it.  The exceptions are
texts that end in a backslash, infinite numbers and "not a number", and integers with too many
digits.

## Key results

- `unescape_escapeQuotes`: reading a text in quotes undoes escaping them
- `decimal_text`: a number without an exponent keeps its value
- `exists_syntax`: every other literal is written as the grammar asks for
-/

namespace SharedTables

/-- A floating-point number of 64 bits as it is stored. -/
def Binary.IsStored : Binary → Prop
  | .finite _ m e => Binary.double.Holds m e
  | .infinite _ => True
  | .nan => True

/-- The literals whose canonical form does not read back. -/
inductive Literal.Unreadable : Literal → Prop
  | backslash {s : String} (h : s.toList.getLast? = some '\\') : Unreadable (.text s)
  | infinite (negative : Bool) : Unreadable (.float (.infinite negative))
  | nan : Unreadable (.float .nan)
  | tooLong {n : Int} (h : 4300 < (Nat.toDigits 10 n.natAbs).length) : Unreadable (.integer n)

namespace Predicate

open Text

/-! ### Texts -/

private theorem getLast?_escapeQuotes (cs : List Char) :
    (Literal.escapeQuotes cs).getLast? = cs.getLast? := by
  induction cs with
  | nil => rfl
  | cons c cs ih =>
    rw [Literal.escapeQuotes]
    split
    · rw [List.getLast?_cons, List.getLast?_cons, List.getLast?_cons, ih]; rfl
    · rw [List.getLast?_cons, List.getLast?_cons, ih]

/-- Every quote is escaped. -/
private theorem escaped_of_escapeQuotes {quote : Char} (hquote : IsQuote quote)
    {cs before after : List Char} (h : Literal.escapeQuotes cs = before ++ quote :: after) :
    before.getLast? = some '\\' := by
  have hne := hquote.ne_backslash
  induction cs generalizing before with
  | nil => simp [Literal.escapeQuotes] at h
  | cons c cs ih =>
    rw [Literal.escapeQuotes] at h
    split at h
    · -- the quote is `c`, which is escaped, or one further back
      match before, h with
      | [], h => exact absurd (List.cons.inj h).1.symm hne
      | [d], h =>
        rw [← (List.cons.inj h).1]; rfl
      | d :: d' :: before, h =>
        have hlast := ih (List.cons.inj (List.cons.inj h).2).2
        exact getLast?_cons_of_eq_some (getLast?_cons_of_eq_some hlast)
    · -- `c` is no quote, so the quote stands further back
      rename_i hc
      match before, h with
      | [], h => exact absurd ((List.cons.inj h).1 ▸ hquote) hc
      | d :: before, h =>
        exact getLast?_cons_of_eq_some (ih (List.cons.inj h).2)

/-- A text that does not end in a backslash is unbroken once its quotes are escaped. -/
private theorem unbroken_escapeQuotes {quote : Char} (hquote : IsQuote quote) {cs : List Char}
    (h : cs.getLast? ≠ some '\\') : Unbroken quote (Literal.escapeQuotes cs) :=
  ⟨fun _ _ => escaped_of_escapeQuotes hquote, by rwa [getLast?_escapeQuotes]⟩

/-- Reading undoes escaping. -/
theorem unescape_escapeQuotes (cs : List Char) : unescape (Literal.escapeQuotes cs) = cs := by
  -- what is escaped is read from its front: a quote comes with its backslash, anything else alone
  induction cs with
  | nil => rfl
  | cons c cs ih =>
    rw [Literal.escapeQuotes]
    split
    · rename_i hc
      rcases hc with rfl | rfl <;> rw [unescape, ih]
    · -- no escaped text starts with a quote, so a backslash in front of it stays
      have hhead : ∀ d after, Literal.escapeQuotes cs = d :: after → ¬ IsQuote d := by
        intro d after hd hquote
        have hlast := @escaped_of_escapeQuotes d hquote cs [] after hd
        simp at hlast
      rw [unescape.eq_3, ih]
      · exact fun after _ h => hhead _ _ h (.inl rfl)
      · exact fun after _ h => hhead _ _ h (.inr rfl)

/-- The closing quote of a text that ends in a backslash is taken for an escaped one. -/
theorem readQuoted?_backslash {quote : Char} (hquote : IsQuote quote) {cs : List Char}
    (h : cs.getLast? = some '\\') :
    readQuoted? quote (Literal.escapeQuotes cs ++ [quote]) = none := by
  -- if it were read, the body read would be unbroken, but it ends in a backslash or holds a quote
  cases hread : readQuoted? quote (Literal.escapeQuotes cs ++ [quote]) with
  | none => rfl
  | some r =>
    obtain ⟨body, hsplit, hbody, -⟩ := body_of_readQuoted? hquote hread
    -- if the closing quote ends the body, the body ends like the text; if not, it is a quote in it
    refine absurd ?_ hbody.closed
    rcases List.eq_nil_or_concat r.2 with hrest | ⟨after, c, hrest⟩
    · rw [hrest] at hsplit
      rw [← List.append_cancel_right hsplit, getLast?_escapeQuotes, h]
    · rw [hrest, List.concat_eq_append, ← List.cons_append, ← List.append_assoc] at hsplit
      exact escaped_of_escapeQuotes hquote (List.append_inj_left' hsplit rfl)

/-! ### Numbers -/

/-- A point among the digits of a number scales it by a power of ten.  Before the point stand a
    zero, or the first of the digits. -/
theorem withPoint_text (n : Nat) (before : Int) :
    ∃ whole digits, (FloatStyle.withPoint (natText n) before).toList = whole ++ '.' :: digits ∧
      IsDigits whole ∧ IsDigits digits ∧
      LiteralSyntax.decimalValue whole (some digits) =
        n * 10 ^ (before - (natText n).length) ∧
      (whole = ['0'] ∨ whole.head? = (natText n).toList.head?) := by
  have hlength : (natText n).length = (natText n).toList.length := String.length_toList.symm
  have hpos : 0 < (natText n).toList.length := List.length_pos_iff.2 (natText_ne_nil n)
  rw [FloatStyle.withPoint]
  split
  · -- all digits stand after the point, with zeros in between
    rename_i hbefore
    refine ⟨['0'], List.replicate (-before).toNat '0' ++ (natText n).toList, by simp, ?_, ?_, ?_,
      .inl rfl⟩
    · exact isDigits_zero
    · exact ((isDigits_natText n).append_of_digits fun c => isDigit_of_mem_zeros).2
    · have hdigits : digitsValue (['0'] ++ (List.replicate (-before).toNat '0' ++
          (natText n).toList)) = n := by
        rw [digitsValue_append, digitsValue_append, digitsValue_zeros, digitsValue_natText]
        simp [digitsValue]
      have hexponent : -((List.replicate (-before).toNat '0' ++ (natText n).toList).length : Int) =
          before - (natText n).length := by
        rw [List.length_append, List.length_replicate]; omega
      rw [decimalValue_eq, hdigits, hexponent]
  · split
    · -- all digits stand before the point, and zeros fill up to it
      rename_i hbefore
      refine ⟨(natText n).toList ++ List.replicate (before - (natText n).length).toNat '0', ['0'],
        by simp, ?_, ?_, ?_, .inr (List.head?_append_of_ne_nil _ (natText_ne_nil n))⟩
      · exact ((isDigits_natText n).append_of_digits fun c => isDigit_of_mem_zeros).1
      · exact isDigits_zero
      · obtain ⟨k, hk⟩ := Int.eq_ofNat_of_zero_le (Int.sub_nonneg_of_le hbefore)
        have hdigits : digitsValue ((natText n).toList ++
            List.replicate (before - (natText n).length).toNat '0' ++ ['0']) = n * 10 ^ k * 10 := by
          rw [digitsValue_append, digitsValue_append, digitsValue_zeros, digitsValue_natText,
            List.length_replicate, hk]
          simp [digitsValue]
          ring
        rw [decimalValue_eq, hdigits, hk, zpow_natCast]
        push_cast
        simp
    · -- the point stands among the digits
      rename_i hpositive hinside
      have hsplit : (natText n).toList.take before.toNat ++ (natText n).toList.drop before.toNat =
          (natText n).toList := List.take_append_drop _ _
      obtain ⟨-, hall⟩ := isDigits_natText n
      refine ⟨(natText n).toList.take before.toNat, (natText n).toList.drop before.toNat,
        by simp, ⟨?_, ?_⟩, ⟨?_, ?_⟩, ?_, .inr ?_⟩
      · rw [← List.length_pos_iff, List.length_take]; omega
      · exact fun c hc => hall c (List.mem_of_mem_take hc)
      · rw [← List.length_pos_iff, List.length_drop]; omega
      · exact fun c hc => hall c (List.mem_of_mem_drop hc)
      · have hexponent : -(((natText n).toList.drop before.toNat).length : Int) =
            before - (natText n).length := by
          rw [List.length_drop]; omega
        rw [decimalValue_eq, hsplit, digitsValue_natText, hexponent]
      · rw [List.head?_take, if_neg (by omega)]

/-- A number without an exponent keeps its value. -/
theorem decimal_text (d : Decimal) :
    ∃ whole digits, (FloatStyle.positional.writeDecimal d).toList = whole ++ '.' :: digits ∧
      IsDigits whole ∧ IsDigits digits ∧
      LiteralSyntax.decimalValue whole (some digits) = d.digits * 10 ^ d.exponent := by
  rw [FloatStyle.writeDecimal]
  split
  · -- zero has a text of its own
    rename_i hzero
    refine ⟨['0'], ['0'], rfl, isDigits_zero, isDigits_zero, ?_⟩
    rw [hzero, decimalValue_eq]
    simp [digitsValue]
  · obtain ⟨whole, digits, htext, hwhole, hdigits, hvalue, -⟩ :=
      withPoint_text d.digits (d.exponent + (natText d.digits).length - 1 + 1)
    refine ⟨whole, digits, htext, hwhole, hdigits, hvalue.trans ?_⟩
    congr 2
    omega

/-! ### Literals -/

/-- An integer without too many digits is written as a number without a fraction. -/
private theorem integer_syntax {n : Int} (h : (Nat.toDigits 10 n.natAbs).length ≤ 4300) :
    ∃ w : LiteralSyntax, w.text = (Literal.integer n).render.toList ∧ w.Valid ∧
      w.Denotes (.integer n) := by
  -- at most 4300 digits, so that the text is read as an integer
  have hlength : (natText n.natAbs).toList.length ≤ 4300 := by
    rwa [toList_natText]
  have hvalue := digitsValue_eq (natText n.natAbs).toList
  rw [digitsValue_natText] at hvalue
  -- the sign is written in front of the digits of the absolute value
  by_cases hn : n < 0
  · refine ⟨.number .minus (natText n.natAbs).toList none, ?_, ⟨isDigits_natText _, by simp⟩, ?_⟩
    · simp [LiteralSyntax.text, LiteralSyntax.fractionText, Sign.text, Literal.render, intText, hn]
    · have hdenotes := @LiteralSyntax.Denotes.integer .minus _ hlength
      rwa [if_pos rfl, ← hvalue, show -(n.natAbs : Int) = n by omega] at hdenotes
  · refine ⟨.number .missing (natText n.natAbs).toList none, ?_, ⟨isDigits_natText _, by simp⟩, ?_⟩
    · simp [LiteralSyntax.text, LiteralSyntax.fractionText, Sign.text, Literal.render, intText, hn]
    · have hdenotes := @LiteralSyntax.Denotes.integer .missing _ hlength
      rwa [if_neg (by decide), ← hvalue, show (n.natAbs : Int) = n by omega] at hdenotes

/-- A finite number is written with a fraction, and it is the number nearest to what is written. -/
private theorem finite_syntax {m : Nat} {e : Int} (h : Binary.double.Holds m e) (negative : Bool) :
    ∃ w : LiteralSyntax, w.text = (Literal.float (.finite negative m e)).render.toList ∧ w.Valid ∧
      w.Denotes (.float (.finite negative m e)) := by
  obtain ⟨whole, digits, htext, hwhole, hdigits, hvalue⟩ :=
    decimal_text (Binary.double.shortest m e)
  -- the shortest decimal that is nearest to the number is what is written
  have hnear := Binary.Format.isNearest_shortest h negative
  rw [← hvalue] at hnear
  cases negative with
  | true =>
    refine ⟨.number .minus whole (some digits), ?_, ⟨hwhole, by simpa using hdigits⟩,
      .float (by simp) hnear⟩
    simp [LiteralSyntax.text, LiteralSyntax.fractionText, Sign.text, Literal.render,
      FloatStyle.write, htext]
  | false =>
    refine ⟨.number .missing whole (some digits), ?_, ⟨hwhole, by simpa using hdigits⟩,
      .float (by simp) hnear⟩
    simp [LiteralSyntax.text, LiteralSyntax.fractionText, Sign.text, Literal.render,
      FloatStyle.write, htext]

/-- A text that does not end in a backslash is written in single quotes. -/
theorem text_syntax {s : String} (h : s.toList.getLast? ≠ some '\\') :
    ∃ w : LiteralSyntax, w.text = (Literal.text s).render.toList ∧ w.Valid ∧
      w.Denotes (.text s) := by
  refine ⟨.quoted '\'' (Literal.escapeQuotes s.toList), ?_, ⟨.inl rfl, ?_⟩, ?_⟩
  · simp [LiteralSyntax.text, Literal.render]
  · exact unbroken_escapeQuotes (.inl rfl) h
  · have hdenotes := LiteralSyntax.Denotes.quoted '\'' (Literal.escapeQuotes s.toList)
    rwa [unescape_escapeQuotes, String.ofList_toList] at hdenotes

/-- A literal that reads back is written as the grammar asks for. -/
theorem exists_syntax {l : Literal} (hstored : ∀ x, l = .float x → x.IsStored)
    (hreadable : ¬ l.Unreadable) :
    ∃ w : LiteralSyntax, w.text = l.render.toList ∧ w.Valid ∧ w.Denotes l := by
  -- what has no readable text is ruled out kind by kind
  cases l with
  | integer n => exact integer_syntax (Nat.le_of_not_lt fun h => hreadable (.tooLong h))
  | float x =>
    cases x with
    | nan => exact absurd .nan hreadable
    | infinite negative => exact absurd (.infinite negative) hreadable
    | finite negative m e => exact finite_syntax (hstored _ rfl) negative
  | text s => exact text_syntax fun h => hreadable (.backslash h)
  | bool b =>
    cases b with
    | true => exact ⟨.word "true".toList, rfl, by simp [LiteralSyntax.Valid], .yes (.inl rfl)⟩
    | false => exact ⟨.word "false".toList, rfl, by simp [LiteralSyntax.Valid], .no (.inl rfl)⟩
  | null => exact ⟨.word "null".toList, rfl, by simp [LiteralSyntax.Valid], .null (.inl rfl)⟩

end Predicate

end SharedTables
