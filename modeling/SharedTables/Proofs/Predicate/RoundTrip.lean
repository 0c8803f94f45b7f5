import SharedTables.Proofs.Predicate.Parsing
import SharedTables.Proofs.Predicate.Rendering

/-!
# Reading undoes writing

A predicate in canonical form is read as the predicate again, unless its literal is one of
`Literal.Unreadable`.  Of the predicates that have been read only those with a number that is too
large for its kind are such.

## Key results

- `roundTrips_iff`: which predicates are read back
- `unreadable_iff_of_parse`: which of the exceptions can have been read
- `format_parse_iff`: both together
-/

namespace SharedTables

namespace Predicate

/-- The canonical form of the predicate is read as the predicate again. -/
def RoundTrips (p : Predicate) : Prop :=
  ∃ t, p.format = .ok t ∧ parse t = .ok p

private theorem toList_render (p : Predicate) : p.render.toList =
    p.column.toList ++ ' ' :: (p.operator.symbol.toList ++ ' ' :: p.value.render.toList) := by
  simp [render]

/-- Predicates are written unless they have an integer with too many digits. -/
private theorem format_eq_ok_iff (p : Predicate) (t : String) : p.format = .ok t ↔
    (∀ n, p.value = .integer n → (Nat.toDigits 10 n.natAbs).length ≤ 4300) ∧ p.render = t := by
  rw [format]
  split
  · rename_i n hn
    have hlength : (natText n.natAbs).length = (Nat.toDigits 10 n.natAbs).length := by
      rw [← String.length_toList, toList_natText]
    rw [hlength]
    split
    · rename_i hlong
      refine ⟨nofun, fun h => ?_⟩
      exact absurd hlong (Nat.not_lt.2 (h.1 n hn))
    · rename_i hshort
      rw [Except.ok.injEq, hn]
      refine ⟨fun h => ⟨?_, h⟩, fun h => h.2⟩
      rintro _ ⟨⟩
      exact Nat.le_of_not_lt hshort
  · rename_i hother
    rw [Except.ok.injEq]
    exact ⟨fun h => ⟨fun n hn => absurd hn (hother n), h⟩, fun h => h.2⟩

/-- The column of a predicate is a non-empty run of column characters. -/
private theorem column_chars (p : Predicate) :
    p.column.toList ≠ [] ∧ ∀ c ∈ p.column.toList, isColumnChar c = true := by
  have h := p.column_valid
  rw [isColumnName, Bool.and_eq_true, List.all_eq_true] at h
  exact ⟨by simpa using h.1, h.2⟩

/-! ### What reads back -/

theorem isBlanks_space : IsBlanks [' '] := by
  intro c hc
  simp_all

/-- A column, an operator and a literal of the grammar are read with one blank between them. -/
theorem parse_spaced {p : Predicate} {w : LiteralSyntax} {t : String} (htext : w.text = t.toList)
    (hw : w.Valid) (hl : w.Denotes p.value) :
    parse (p.column ++ " " ++ p.operator.symbol ++ " " ++ t) = .ok p := by
  obtain ⟨hne, hchars⟩ := column_chars p
  refine parse_text (d := ⟨[], p.column.toList, [' '], p.operator, [' '], w, []⟩)
    ⟨⟨nofun, hne, fun c hc => isColumnChar_iff.1 (hchars c hc), isBlanks_space, isBlanks_space, hw,
      nofun⟩, ?_⟩ ⟨rfl, String.ofList_toList.symm, hl⟩
  simp [Parts.text, htext]

/-- The canonical form of a literal of the grammar is read back. -/
private theorem parse_render {p : Predicate} {w : LiteralSyntax}
    (htext : w.text = p.value.render.toList)
    (hw : w.Valid) (hl : w.Denotes p.value) : parse p.render = .ok p :=
  parse_spaced htext hw hl

/-- A text that does not end in a backslash is read back. -/
theorem parse_render_text {p : Predicate} {s : String} (hvalue : p.value = .text s)
    (hlast : s.toList.getLast? ≠ some '\\') : parse p.render = .ok p := by
  obtain ⟨w, htext, hw, hl⟩ := text_syntax hlast
  exact parse_render (hvalue ▸ htext) hw (hvalue ▸ hl)

/-! ### What does not -/

/-- Whoever reads a canonical form reads its literal. -/
private theorem readLiteral_of_parse {p q : Predicate} (h : parse p.render = .ok q)
    (hhead : ∀ c ∈ p.value.render.toList.head?, isGap c = false) :
    ∃ rest, readLiteral 0 p.value.render.toList = .ok (q.value, rest) := by
  obtain ⟨d, ⟨hd, htext⟩, hq⟩ := exists_parts h
  obtain ⟨hne, hchars⟩ := column_chars p
  -- reading the form step by step gives the same as reading its parts
  have hstart : d.fromColumn = p.render.toList := by
    rw [← hd.skipGap_text, htext, toList_render]
    refine @skipGap_blanks [] _ nofun fun c hc => ?_
    obtain ⟨c', column, hcolumn⟩ := List.exists_cons_of_ne_nil hne
    rw [hcolumn] at hc
    obtain rfl : c' = c := Option.some.inj hc
    exact isGap_of_isColumnChar (hchars c' (by rw [hcolumn]; simp))
  have hoperator : d.beforeOperator ++ d.fromOperator =
      [' '] ++ (p.operator.symbol.toList ++ ' ' :: p.value.render.toList) := by
    rw [← hd.span_fromColumn.2, hstart, toList_render]
    refine (span_append hchars ?_).2
    rintro c ⟨⟩
    decide
  have hsymbol : d.fromOperator = p.operator.symbol.toList ++ ' ' :: p.value.render.toList := by
    rw [← hd.skipGap_beforeOperator, hoperator]
    exact skipGap_blanks isBlanks_space fun c hc => (symbol_head p.operator _ c hc).1
  have hread := hd.readOperator?_fromOperator
  rw [hsymbol, readOperator?_symbol p.operator (by simp)] at hread
  have hvalue : d.fromValue = p.value.render.toList := by
    rw [← hd.skipGap_beforeValue, ← (Prod.mk.inj (Option.some.inj hread)).2]
    exact skipGap_blanks isBlanks_space hhead
  exact ⟨d.after, hvalue ▸ hd.readLiteral_fromValue hq.value 0⟩

/-- A text that ends in a backslash escapes its closing quote, and nothing is read. -/
theorem not_parse_render_of_backslash {p : Predicate} {s : String} (hvalue : p.value = .text s)
    (hlast : s.toList.getLast? = some '\\') (q : Predicate) : parse p.render ≠ .ok q := by
  intro hparse
  have htext : p.value.render.toList = '\'' :: (Literal.escapeQuotes s.toList ++ ['\'']) := by
    simp [hvalue, Literal.render]
  obtain ⟨rest, hread⟩ := readLiteral_of_parse hparse (by rw [htext]; rintro c ⟨⟩; decide)
  rw [htext, readLiteral, if_pos (.inl rfl), readQuoted?_backslash (.inl rfl) hlast] at hread
  cases hread

/-- An exception is not read back. -/
private theorem not_roundTrips {p : Predicate} (h : p.value.Unreadable) : ¬ p.RoundTrips := by
  rintro ⟨t, hformat, hparse⟩
  obtain ⟨hshort, rfl⟩ := (format_eq_ok_iff p t).1 hformat
  obtain ⟨op, column, l, hcolumn⟩ := p
  -- too long an integer is not written, of the others the literal is not read
  cases h with
  | tooLong h => exact absurd h (Nat.not_lt.2 (hshort _ rfl))
  | infinite negative =>
    have htext : (Literal.float (.infinite negative)).render.toList =
        if negative then "-Infinity.0".toList else "Infinity.0".toList := by
      cases negative <;> simp [Literal.render, FloatStyle.write, FloatStyle.positional]
    obtain ⟨rest, hread⟩ := readLiteral_of_parse hparse
      (by rw [htext]; cases negative <;> rintro c ⟨⟩ <;> decide)
    have herror : readLiteral 0 (if negative then "-Infinity.0".toList else "Infinity.0".toList) =
        .error .value := by
      cases negative <;> rfl
    rw [htext, herror] at hread
    cases hread
  | nan =>
    have htext : (Literal.float .nan).render.toList = "NaN.0".toList := by
      simp [Literal.render, FloatStyle.write, FloatStyle.positional]
    obtain ⟨rest, hread⟩ := readLiteral_of_parse hparse (by rw [htext]; rintro c ⟨⟩; decide)
    have herror : readLiteral 0 "NaN.0".toList = .error .value := rfl
    rw [htext, herror] at hread
    cases hread
  | backslash h => exact not_parse_render_of_backslash rfl h _ hparse

/-- Which predicates are read back. -/
theorem roundTrips_iff {p : Predicate} (hstored : ∀ x, p.value = .float x → x.IsStored) :
    p.RoundTrips ↔ ¬ p.value.Unreadable := by
  refine ⟨fun h hbad => not_roundTrips hbad h, fun h => ?_⟩
  obtain ⟨w, htext, hw, hl⟩ := exists_syntax hstored h
  refine ⟨p.render, (format_eq_ok_iff _ _).2 ⟨fun n hn => ?_, rfl⟩, parse_render htext hw hl⟩
  rw [hn] at h
  exact Nat.le_of_not_lt fun hlong => h (.tooLong hlong)

/-! ### What has been read -/

/-- Taking out the backslashes before quotes leaves the last character. -/
private theorem getLast?_unescape (cs : List Char) : (unescape cs).getLast? = cs.getLast? := by
  induction cs using unescape.induct with
  | case1 cs ih | case2 cs ih =>
    rw [unescape, List.getLast?_cons, List.getLast?_cons, List.getLast?_cons, ih]; rfl
  | case3 c cs hsingle hdouble ih =>
    rw [unescape.eq_3 _ _ hsingle hdouble, List.getLast?_cons, List.getLast?_cons, ih]
  | case4 => rfl

/-- A text of the grammar does not end in a backslash. -/
private theorem getLast?_of_denotes {w : LiteralSyntax} (hw : w.Valid) {s : String}
    (h : w.Denotes (.text s)) : s.toList.getLast? ≠ some '\\' := by
  cases h with
  | quoted quote body =>
    rw [String.toList_ofList, getLast?_unescape]
    exact hw.2.closed

/-- An integer of the grammar does not have too many digits. -/
theorem length_of_denotes {w : LiteralSyntax} (hw : w.Valid) {n : Int}
    (h : w.Denotes (.integer n)) : (Nat.toDigits 10 n.natAbs).length ≤ 4300 := by
  cases h with
  | @integer sign whole hlength =>
    -- as many digits are written as the text has, fewer if it starts with zeros
    have hvalue := Text.digitsValue_lt hw.1.2
    rw [Text.digitsValue_eq] at hvalue
    refine (Nat.length_toDigits_le_iff (by decide) (by decide)).2 ?_
    calc _ = Nat.ofDigitChars 10 whole 0 := by split <;> omega
      _ < 10 ^ whole.length := hvalue
      _ ≤ 10 ^ 4300 := Nat.pow_le_pow_right (by decide) hlength

/-- A floating-point number that has been read is stored, and it is infinite iff what is written is
    too large. -/
theorem isStored_of_denotes {w : LiteralSyntax} {x : Binary} (h : w.Denotes (.float x)) :
    x.IsStored ∧ x ≠ .nan ∧ ∀ negative, x = .infinite negative → ∃ sign whole fraction,
      w = .number sign whole fraction ∧
        Binary.double.limit ≤ LiteralSyntax.decimalValue whole fraction := by
  cases h with
  | float hfew hnear =>
    cases hnear with
    | finite holds => exact ⟨holds, nofun, nofun⟩
    | infinite hlimit => exact ⟨trivial, nofun, fun _ _ => ⟨_, _, _, rfl, hlimit⟩⟩

/-- Of the exceptions only infinite numbers can have been read. -/
theorem unreadable_iff_of_parse {t : String} {p : Predicate} (h : parse t = .ok p) :
    p.value.Unreadable ↔ ∃ negative, p.value = .float (.infinite negative) := by
  obtain ⟨d, ⟨hd, -⟩, hp⟩ := exists_parts h
  have hdenotes := hp.value
  -- each of the other exceptions is ruled out by what the literal of the text denotes
  constructor
  · intro hbad
    generalize p.value = l at hdenotes hbad
    cases hbad with
    | infinite negative => exact ⟨negative, rfl⟩
    | nan => exact absurd rfl (isStored_of_denotes hdenotes).2.1
    | tooLong hlong => exact absurd (length_of_denotes hd.value hdenotes) (Nat.not_le.2 hlong)
    | backslash hlast => exact absurd hlast (getLast?_of_denotes hd.value hdenotes)
  · rintro ⟨negative, hvalue⟩
    rw [hvalue]
    exact .infinite negative

/-- A predicate is read back from its canonical form iff its literal is none of the exceptions.
    What has been read is none of them unless it is a number too large for its kind. -/
theorem format_parse_iff :
    (∀ p : Predicate, (∀ x, p.value = .float x → x.IsStored) →
      (p.RoundTrips ↔ ¬ p.value.Unreadable)) ∧
    ∀ t p, parse t = .ok p →
      (∀ s, p.value = .text s → s.toList.getLast? ≠ some '\\') ∧
      (∀ n, p.value = .integer n → (Nat.toDigits 10 n.natAbs).length ≤ 4300) ∧
      (¬ p.RoundTrips ↔ ∃ negative, p.value = .float (.infinite negative)) ∧
      (∀ negative, p.value = .float (.infinite negative) →
        ∃ (d : Parts) (sign : Sign) (whole : List Char) (fraction : Option (List Char)),
          d.Spells t ∧ d.value = .number sign whole fraction ∧
          Binary.double.limit ≤ LiteralSyntax.decimalValue whole fraction) := by
  refine ⟨fun p => roundTrips_iff, fun t p h => ?_⟩
  obtain ⟨d, hd, hp⟩ := exists_parts h
  have hdenotes := hp.value
  -- a quoted text is closed, an integer fits, and of floats only the infinite ones are lost
  refine ⟨fun s hs => ?_, fun n hn => ?_, ?_, fun negative hinfinite => ?_⟩
  · rw [hs] at hdenotes
    exact getLast?_of_denotes hd.1.value hdenotes
  · rw [hn] at hdenotes
    exact length_of_denotes hd.1.value hdenotes
  · rw [← unreadable_iff_of_parse h, roundTrips_iff, not_not]
    intro x hx
    rw [hx] at hdenotes
    exact (isStored_of_denotes hdenotes).1
  · rw [hinfinite] at hdenotes
    obtain ⟨sign, whole, fraction, hw, hlimit⟩ := (isStored_of_denotes hdenotes).2.2 negative rfl
    exact ⟨d, sign, whole, fraction, hd, hw, hlimit⟩

/-- Minus one half is read back. -/
theorem roundTrips_minus_half : (⟨.lt, "a.b", .float (.finite true (2 ^ 52) (-53)), by decide⟩ :
    Predicate).RoundTrips := by
  refine (format_parse_iff.1 _ ?_).2 nofun
  rintro x ⟨⟩
  exact ⟨by decide, by decide, by decide, .inl (by decide)⟩

end Predicate

end SharedTables
