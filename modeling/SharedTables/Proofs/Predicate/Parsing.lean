import Mathlib
import SharedTables.Proofs.Predicate.Literals

/-!
# Reading predicates

The reader of predicates accepts exactly the grammar: a text that can be taken apart can be taken
apart in one way only, and reading gives what its parts denote.

## Key results

- `parse_text`: a predicate of the grammar is read as what it denotes
- `exists_parts`: what is read as a predicate is one
- `Parts.Spells.unique`: a text is a predicate in at most one way
- `parse_iff_grammar`: the reader and the grammar agree
-/

namespace SharedTables

namespace Predicate

/-! ### Blanks, columns and operators -/

/-- The four blanks. -/
private theorem isGap_iff {c : Char} :
    isGap c = true ↔ c = ' ' ∨ c = '\t' ∨ c = '\r' ∨ c = '\n' := by
  simp only [isGap, Bool.or_eq_true, beq_iff_eq, or_assoc]

/-- The characters that columns consist of. -/
theorem isColumnChar_iff {c : Char} : isColumnChar c = true ↔
    'A' ≤ c ∧ c ≤ 'Z' ∨ 'a' ≤ c ∧ c ≤ 'z' ∨ '0' ≤ c ∧ c ≤ '9' ∨ c = '_' ∨ c = '.' := by
  simp [isColumnChar, Char.isAlphanum, Char.isAlpha, Char.isUpper, Char.isLower, Char.isDigit,
    Char.le_def, or_assoc]

/-- No blank is part of a column. -/
theorem isGap_of_isColumnChar {c : Char} (h : isColumnChar c = true) : isGap c = false := by
  refine Bool.eq_false_iff.2 fun hgap => ?_
  rcases isGap_iff.1 hgap with rfl | rfl | rfl | rfl <;> exact absurd h (by decide)

/-- Blanks end where something else stands. -/
theorem skipGap_blanks {blanks rest : List Char} (hblanks : IsBlanks blanks)
    (hrest : ∀ c ∈ rest.head?, isGap c = false) : skipGap (blanks ++ rest) = rest :=
  (span_append (fun c hc => isGap_iff.2 (hblanks c hc)) hrest).2

/-- What is skipped are blanks. -/
theorem exists_blanks (cs : List Char) : ∃ blanks, IsBlanks blanks ∧ cs = blanks ++ skipGap cs :=
  ⟨cs.takeWhile isGap, fun _ hc => isGap_iff.1 (List.mem_takeWhile_imp hc),
    List.takeWhile_append_dropWhile.symm⟩

/-- Where nothing is left after skipping there are only blanks. -/
private theorem skipGap_eq_nil {cs : List Char} (h : skipGap cs = []) : IsBlanks cs := by
  obtain ⟨blanks, hblanks, hcs⟩ := exists_blanks cs
  rw [h, List.append_nil] at hcs
  rwa [hcs]

/-- An operator is read whole unless an equals sign follows it. -/
theorem readOperator?_symbol (op : Operator) {rest : List Char} (hrest : rest.head? ≠ some '=') :
    readOperator? (op.symbol.toList ++ rest) = some (op, rest) := by
  cases op with
  -- an operator of two characters is found whatever follows, and so is the equals sign
  | ge | le | ne | eq => rfl
  | gt | lt =>
    cases rest with
    | nil => rfl
    | cons c rest =>
      -- `>=` and `<=` come earlier in the list of operators
      have hc : '=' ≠ c := by
        rintro rfl
        exact hrest rfl
      have hlength : ">".length = 1 ∧ "<".length = 1 := ⟨rfl, rfl⟩
      simp [readOperator?, Operator.all, Operator.symbol, hc, hlength]

/-- What is read as an operator is one. -/
theorem symbol_of_readOperator? {cs rest : List Char} {op : Operator}
    (h : readOperator? cs = some (op, rest)) : cs = op.symbol.toList ++ rest := by
  obtain ⟨op', -, hread⟩ := List.exists_of_findSome?_eq_some h
  split at hread
  · -- the operator is what the text starts with
    rename_i hprefix
    obtain ⟨rfl, rfl⟩ := Prod.mk.inj (Option.some.inj hread)
    obtain ⟨rest, rfl⟩ := List.isPrefixOf_iff_prefix.1 hprefix
    rw [← String.length_toList, List.drop_left]
  · exact nomatch hread

/-! ### One way to take a literal apart -/

/-- Every literal of the grammar denotes a value. -/
private theorem exists_denotes {w : LiteralSyntax} (h : w.Valid) : ∃ l, w.Denotes l := by
  cases w with
  | quoted quote body => exact ⟨_, .quoted quote body⟩
  | word letters =>
    simp only [LiteralSyntax.Valid, List.mem_cons, List.not_mem_nil, or_false] at h
    -- two spellings for each of the three values that words stand for
    rcases h with h | h | h | h | h | h
    · exact ⟨_, .yes (.inl h)⟩
    · exact ⟨_, .yes (.inr h)⟩
    · exact ⟨_, .no (.inl h)⟩
    · exact ⟨_, .no (.inr h)⟩
    · exact ⟨_, .null (.inl h)⟩
    · exact ⟨_, .null (.inr h)⟩
  | number sign whole fraction => exact ⟨_, denotes_numberLiteral sign whole fraction⟩

/-- The characters of a number tell its parts. -/
private theorem number_text_inj {sign sign' : Sign} {whole whole' : List Char}
    {fraction fraction' : Option (List Char)}
    (h : (LiteralSyntax.number sign whole fraction).Valid)
    (h' : (LiteralSyntax.number sign' whole' fraction').Valid)
    (heq : (LiteralSyntax.number sign whole fraction).text =
      (LiteralSyntax.number sign' whole' fraction').text) :
    LiteralSyntax.number sign whole fraction = LiteralSyntax.number sign' whole' fraction' := by
  -- the sign is split off first, then the digits up to the point
  have hstop : ∀ fraction, ∀ c ∈ (LiteralSyntax.fractionText fraction).head?,
      c.isDigit = false := by
    rintro (_ | digits) c ⟨⟩
    rfl
  have hbody : whole ++ LiteralSyntax.fractionText fraction =
      whole' ++ LiteralSyntax.fractionText fraction' := by
    obtain ⟨c, digits, rfl⟩ := List.exists_cons_of_ne_nil h.1.1
    obtain ⟨c', digits', rfl⟩ := List.exists_cons_of_ne_nil h'.1.1
    have hsplit := congrArg Number.splitSign heq
    simp only [LiteralSyntax.text, List.cons_append] at hsplit
    rw [splitSign_text sign (h.1.2 c List.mem_cons_self),
      splitSign_text sign' (h'.1.2 c' List.mem_cons_self)] at hsplit
    exact (Prod.mk.inj hsplit).2
  -- the digits are the same, so what stands before them is
  obtain rfl : sign = sign' := by
    rw [LiteralSyntax.text, LiteralSyntax.text, hbody] at heq
    have hsign := List.append_cancel_right heq
    cases sign <;> cases sign' <;> first | rfl | exact absurd hsign (by decide)
  obtain ⟨htake, hdrop⟩ := span_append h.1.2 (hstop fraction)
  obtain ⟨htake', hdrop'⟩ := span_append h'.1.2 (hstop fraction')
  rw [hbody, htake'] at htake
  rw [hbody, hdrop'] at hdrop
  -- the fraction is what follows the digits, with its point if there is one
  have hfraction : fraction' = fraction := by
    cases fraction <;> cases fraction' <;> simp_all [LiteralSyntax.fractionText]
  rw [htake, hfraction]

/-- No text in quotes is a word. -/
private theorem quoted_text_ne_word {quote : Char} (hquote : IsQuote quote) (body : List Char)
    {letters : List Char} (h : (LiteralSyntax.word letters).Valid) :
    (LiteralSyntax.quoted quote body).text ≠ (LiteralSyntax.word letters).text := by
  intro heq
  obtain ⟨c, cs, rfl, hc⟩ := word_head h
  obtain rfl : quote = c := (List.cons.inj heq).1
  rcases hquote with rfl | rfl <;> exact absurd hc (by decide)

/-- Neither a text in quotes nor a word is a number. -/
private theorem text_ne_number {w : LiteralSyntax} (hw : ∀ c ∈ w.text.head?, c ∈ otherHeads)
    {sign : Sign} {whole : List Char} {fraction : Option (List Char)}
    (h : (LiteralSyntax.number sign whole fraction).Valid) :
    w.text ≠ (LiteralSyntax.number sign whole fraction).text := by
  intro heq
  obtain ⟨c, cs, htext, hc⟩ := number_head h
  exact hc (hw c (by rw [heq, htext]; rfl))

/-- The characters of a literal tell its parts. -/
private theorem text_inj {w w' : LiteralSyntax} (h : w.Valid) (h' : w'.Valid)
    (heq : w.text = w'.text) :
    w = w' := by
  have hquoted : ∀ {quote body}, IsQuote quote →
      ∀ c ∈ (LiteralSyntax.quoted quote body).text.head?, c ∈ otherHeads := by
    rintro quote body (rfl | rfl) c ⟨⟩ <;> decide
  have hword : ∀ {letters}, (LiteralSyntax.word letters).Valid →
      ∀ c ∈ (LiteralSyntax.word letters).text.head?, c ∈ otherHeads := by
    intro letters hletters c hc
    obtain ⟨d, cs, rfl, hd⟩ := word_head hletters
    obtain rfl : d = c := Option.some.inj hc
    exact mem_otherHeads hd
  -- two literals of different kinds differ in the first character
  cases w with
  | quoted quote body =>
    cases w' with
    | quoted quote' body' =>
      obtain ⟨rfl, hbody⟩ := List.cons.inj heq
      rw [List.append_cancel_right hbody]
    | word letters => exact absurd heq (quoted_text_ne_word h.1 body h')
    | number sign whole fraction => exact absurd heq (text_ne_number (hquoted h.1) h')
  | word letters =>
    cases w' with
    | quoted quote body => exact absurd heq.symm (quoted_text_ne_word h'.1 body h)
    | word letters' => exact congrArg LiteralSyntax.word heq
    | number sign whole fraction => exact absurd heq (text_ne_number (hword h) h')
  | number sign whole fraction =>
    cases w' with
    | quoted quote body => exact absurd heq.symm (text_ne_number (hquoted h'.1) h)
    | word letters => exact absurd heq.symm (text_ne_number (hword h') h)
    | number sign' whole' fraction' => exact number_text_inj h h' heq

/-! ### Predicates -/

namespace Parts

/-- A predicate from its literal on. -/
def fromValue (d : Parts) : List Char := d.value.text ++ d.after

/-- A predicate from its operator on. -/
def fromOperator (d : Parts) : List Char :=
  d.operator.symbol.toList ++ (d.beforeValue ++ d.fromValue)

/-- A predicate from its column on. -/
def fromColumn (d : Parts) : List Char := d.column ++ (d.beforeOperator ++ d.fromOperator)

/-- A predicate is the blanks in front and what follows from its column on. -/
private theorem text_eq (d : Parts) : d.text = d.before ++ d.fromColumn := rfl

end Parts

/-- What holds of blanks and of the character after them holds of the first character. -/
private theorem head?_blanks {P : Char → Prop} {blanks rest : List Char} (hblanks : IsBlanks blanks)
    (hP : ∀ c, c = ' ' ∨ c = '\t' ∨ c = '\r' ∨ c = '\n' → P c) (hrest : ∀ c ∈ rest.head?, P c) :
    ∀ c ∈ (blanks ++ rest).head?, P c := by
  intro c hc
  cases blanks with
  | nil => exact hrest c hc
  | cons d blanks =>
    obtain rfl : d = c := Option.some.inj hc
    exact hP d (hblanks d (by simp))

/-- The first character of an operator is neither a blank nor part of a column. -/
theorem symbol_head (op : Operator) (rest : List Char) :
    ∀ c ∈ (op.symbol.toList ++ rest).head?, isGap c = false ∧ isColumnChar c = false := by
  cases op <;> rintro c ⟨⟩ <;> decide

namespace Parts.Valid

variable {d : Parts} (hd : d.Valid)

include hd

/-- The blanks in front end at the column. -/
theorem skipGap_text : skipGap d.text = d.fromColumn := by
  refine skipGap_blanks hd.before fun c hc => ?_
  obtain ⟨c', column, hcolumn⟩ := List.exists_cons_of_ne_nil hd.column_ne_nil
  rw [hcolumn] at hc
  obtain rfl : c' = c := Option.some.inj hc
  exact isGap_of_isColumnChar (isColumnChar_iff.2 (hd.column c' (by rw [hcolumn]; simp)))

/-- The column ends at the blanks or at the operator. -/
theorem span_fromColumn : d.fromColumn.takeWhile isColumnChar = d.column ∧
    d.fromColumn.dropWhile isColumnChar = d.beforeOperator ++ d.fromOperator := by
  refine span_append (fun c hc => isColumnChar_iff.2 (hd.column c hc)) ?_
  refine head?_blanks hd.beforeOperator ?_ fun c hc => (symbol_head d.operator _ c hc).2
  rintro c (rfl | rfl | rfl | rfl) <;> decide

/-- The blanks after the column end at the operator. -/
theorem skipGap_beforeOperator : skipGap (d.beforeOperator ++ d.fromOperator) = d.fromOperator :=
  skipGap_blanks hd.beforeOperator fun c hc => (symbol_head d.operator _ c hc).1

/-- A literal starts with no blank and does not go on the operator before it. -/
private theorem fromValue_head : ∀ c ∈ d.fromValue.head?, isGap c = false ∧ c ≠ '=' := by
  intro c hc
  obtain ⟨c', cs, htext, hc'⟩ := literal_head hd.value
  rw [fromValue, htext] at hc
  obtain rfl : c' = c := Option.some.inj hc
  exact hc'

/-- The operator is read up to what follows it. -/
theorem readOperator?_fromOperator :
    readOperator? d.fromOperator = some (d.operator, d.beforeValue ++ d.fromValue) := by
  refine readOperator?_symbol d.operator fun heq => ?_
  refine head?_blanks (P := (· ≠ '=')) hd.beforeValue ?_ (fun c hc => (hd.fromValue_head c hc).2)
    '=' heq rfl
  rintro c (rfl | rfl | rfl | rfl) <;> decide

/-- The blanks after the operator end at the literal. -/
theorem skipGap_beforeValue : skipGap (d.beforeValue ++ d.fromValue) = d.fromValue :=
  skipGap_blanks hd.beforeValue fun c hc => (hd.fromValue_head c hc).1

/-- After the literal there are only blanks. -/
private theorem skipGap_after : skipGap d.after = [] := by
  have hskip := @skipGap_blanks d.after [] hd.after (by simp)
  rwa [List.append_nil] at hskip

/-- The literal is read up to the blanks at the end. -/
theorem readLiteral_fromValue {l : Literal} (hl : d.value.Denotes l) (start : Nat) :
    readLiteral start d.fromValue = .ok (l, d.after) :=
  readLiteral_text hd.value hl hd.after start

end Parts.Valid

/-- The parts of a predicate denote a comparison. -/
theorem exists_comparison {d : Parts} (hd : d.Valid) : ∃ p, d.Denotes p := by
  obtain ⟨l, hl⟩ := exists_denotes hd.value
  have hcolumn : isColumnName (String.ofList d.column) = true := by
    have hne : d.column.isEmpty = false := by simpa using hd.column_ne_nil
    rw [isColumnName, String.toList_ofList, hne, Bool.not_false, Bool.true_and, List.all_eq_true]
    exact fun c hc => isColumnChar_iff.2 (hd.column c hc)
  exact ⟨⟨d.operator, String.ofList d.column, l, hcolumn⟩, rfl, rfl, hl⟩

/-- A predicate of the grammar is read as what it denotes. -/
theorem parse_text {d : Parts} {t : String} (hd : d.Spells t) {p : Predicate}
    (hp : d.Denotes p) : parse t = .ok p := by
  obtain ⟨hvalid, htext⟩ := hd
  obtain ⟨op, column, value, hcolumn⟩ := p
  obtain ⟨rfl, rfl, hvalue⟩ := hp
  obtain ⟨htake, hdrop⟩ := hvalid.span_fromColumn
  -- each reader takes its part and leaves the rest to the next
  simp only [parse, ← htext, hvalid.skipGap_text, htake, hdrop, hvalid.skipGap_beforeOperator,
    hvalid.readOperator?_fromOperator, hvalid.skipGap_beforeValue,
    hvalid.readLiteral_fromValue hvalue, hvalid.skipGap_after, dif_neg hvalid.column_ne_nil,
    if_true]

/-- What is read as a predicate is one. -/
theorem exists_parts {t : String} {p : Predicate} (h : parse t = .ok p) :
    ∃ d : Parts, d.Spells t ∧ d.Denotes p := by
  rw [parse] at h
  dsimp only at h
  -- the three readers and the end of the text, one after another
  split at h
  · exact nomatch h
  · rename_i hcolumn
    split at h
    · exact nomatch h
    · rename_i op afterOperator hoperator
      split at h
      · exact nomatch h
      · rename_i l afterValue hliteral
        split at h
        · rename_i htail
          cases Except.ok.inj h
          -- the parts are what each of the readers has taken, with the blanks in between
          obtain ⟨w, hw, hvalid, hl⟩ := text_of_readLiteral hliteral
          obtain ⟨before, hbefore, hstart⟩ := exists_blanks t.toList
          obtain ⟨beforeOperator, hbeforeOperator, hgap⟩ :=
            exists_blanks ((skipGap t.toList).dropWhile isColumnChar)
          obtain ⟨beforeValue, hbeforeValue, hoperand⟩ := exists_blanks afterOperator
          have hsymbol := symbol_of_readOperator? hoperator
          refine ⟨⟨before, (skipGap t.toList).takeWhile isColumnChar, beforeOperator, op,
            beforeValue, w, afterValue⟩, ⟨?_, ?_⟩, ⟨rfl, rfl, hl⟩⟩
          · exact ⟨hbefore, hcolumn, fun c hc => isColumnChar_iff.1 (List.mem_takeWhile_imp hc),
              hbeforeOperator, hbeforeValue, hvalid, skipGap_eq_nil htail⟩
          · rw [Parts.text, ← hw, ← hoperand, ← hsymbol, ← hgap, List.takeWhile_append_dropWhile,
              ← hstart]
        · exact nomatch h

/-- A text is a predicate in at most one way. -/
theorem Parts.Spells.unique {d d' : Parts} {t : String} (h : d.Spells t) (h' : d'.Spells t) :
    d = d' := by
  obtain ⟨hd, htext⟩ := h
  obtain ⟨hd', htext'⟩ := h'
  have heq : d.text = d'.text := htext.trans htext'.symm
  -- every reader finds the same in both, so the two go on alike after each part
  have hcolumn : d.fromColumn = d'.fromColumn := by
    rw [← hd.skipGap_text, heq, hd'.skipGap_text]
  have hafterColumn :
      d.beforeOperator ++ d.fromOperator = d'.beforeOperator ++ d'.fromOperator := by
    rw [← hd.span_fromColumn.2, hcolumn, hd'.span_fromColumn.2]
  have hoperator : d.fromOperator = d'.fromOperator := by
    rw [← hd.skipGap_beforeOperator, hafterColumn, hd'.skipGap_beforeOperator]
  have hread := hd.readOperator?_fromOperator
  rw [hoperator, hd'.readOperator?_fromOperator] at hread
  obtain ⟨hop, hafterOperator⟩ := Prod.mk.inj (Option.some.inj hread)
  have hvalue : d.fromValue = d'.fromValue := by
    rw [← hd.skipGap_beforeValue, ← hafterOperator, hd'.skipGap_beforeValue]
  obtain ⟨l, hl⟩ := exists_denotes hd.value
  obtain ⟨l', hl'⟩ := exists_denotes hd'.value
  have hliteral := hd.readLiteral_fromValue hl 0
  rw [hvalue, hd'.readLiteral_fromValue hl' 0] at hliteral
  have hafter := (Prod.mk.inj (Except.ok.inj hliteral)).2
  -- what stands in front of equal ends is equal
  rw [text_eq, text_eq, hcolumn] at heq
  rw [fromColumn, fromColumn, hafterColumn] at hcolumn
  rw [hoperator] at hafterColumn
  rw [hvalue] at hafterOperator
  rw [fromValue, fromValue, hafter] at hvalue
  obtain ⟨before, column, beforeOperator, operator, beforeValue, value, after⟩ := d
  obtain ⟨before', column', beforeOperator', operator', beforeValue', value', after'⟩ := d'
  have hw := text_inj hd.value hd'.value (List.append_cancel_right hvalue)
  congr
  · exact List.append_cancel_right heq
  · exact List.append_cancel_right hcolumn
  · exact List.append_cancel_right hafterColumn
  · exact hop.symm
  · exact (List.append_cancel_right hafterOperator).symm
  · exact hafter.symm

/-- The reader accepts exactly the texts of the grammar. There is one way to take such a text apart,
    and reading gives what the parts denote; every other text is rejected. -/
theorem parse_iff_grammar (t : String) :
    ((∃ p, parse t = .ok p) ↔ ∃ d : Parts, d.Spells t) ∧
    (∀ d d' : Parts, d.Spells t → d'.Spells t → d = d') ∧
    (∀ p, parse t = .ok p ↔ ∃ d : Parts, d.Spells t ∧ d.Denotes p) ∧
    ((∃ e : ParseError, parse t = .error e) ↔ ∀ d : Parts, ¬ d.Spells t) := by
  -- a text that can be taken apart denotes something, and that is what is read
  have haccepts : (∃ p, parse t = .ok p) ↔ ∃ d : Parts, d.Spells t := by
    constructor
    · rintro ⟨p, hp⟩
      obtain ⟨d, hd, -⟩ := exists_parts hp
      exact ⟨d, hd⟩
    · rintro ⟨d, hd⟩
      obtain ⟨p, hp⟩ := exists_comparison hd.1
      exact ⟨p, parse_text hd hp⟩
  refine ⟨haccepts, fun d d' => Parts.Spells.unique, fun p => ⟨exists_parts, ?_⟩, ?_⟩
  · rintro ⟨d, hd, hp⟩
    exact parse_text hd hp
  · rw [← not_exists, ← haccepts]
    cases parse t with
    | error e => simp
    | ok p => simp

end Predicate

end SharedTables
