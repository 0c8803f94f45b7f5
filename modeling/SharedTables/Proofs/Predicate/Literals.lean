import Mathlib
import SharedTables.Predicate.Parser
import SharedTables.Proofs.Number.IntText
import SharedTables.Proofs.Number.Rounding
import SharedTables.Proofs.Predicate.Grammar

/-!
# Reading literals

The reader of literals takes exactly the literals of the grammar, and its result is what they
denote.

## Key results

- `readQuoted?_body`, `body_of_readQuoted?`: texts in quotes
- `readNumber?_number`, `number_of_readNumber?`: numbers
- `readLiteral_text`, `text_of_readLiteral`: literals
-/

namespace SharedTables

namespace Predicate

/-! ### Texts in quotes -/

/-- The quotes that a text can stand in. -/
def IsQuote (c : Char) : Prop :=
  c = '\'' ∨ c = '"'

theorem IsQuote.ne_backslash {c : Char} (h : IsQuote c) : c ≠ '\\' := by
  rcases h with rfl | rfl <;> decide

section

variable {quote : Char} {c : Char} {body : List Char}

/-- An escaped quote in front leaves a text in quotes unbroken. -/
private theorem unbroken_escape (hc : IsQuote c) (hquote : IsQuote quote) :
    Unbroken quote ('\\' :: c :: body) ↔ Unbroken quote body := by
  have hne := hc.ne_backslash
  constructor
  · -- what stands before a quote of the body stands before it in the whole
    intro h
    refine ⟨fun before after hbody => ?_, fun hlast => h.closed ?_⟩
    · have hlast := h.escaped ('\\' :: c :: before) after (by rw [hbody]; rfl)
      cases before with
      | nil => simp [hne] at hlast
      | cons d before => simpa using hlast
    · cases body with
      | nil => simp at hlast
      | cons d body => simpa using hlast
  · intro h
    refine ⟨fun before after hbody => ?_, fun hlast => h.closed ?_⟩
    · -- the quote is the one that is escaped, or one further back
      match before, hbody with
      | [], hbody =>
        have hhead := (List.cons.inj hbody).1
        exact absurd hhead.symm hquote.ne_backslash
      | [d], hbody =>
        rw [(List.cons.inj hbody).1]
        rfl
      | d :: d' :: before, hbody =>
        have htail := (List.cons.inj (List.cons.inj hbody).2).2
        exact getLast?_cons_of_eq_some (getLast?_cons_of_eq_some (h.escaped before after htail))
    · -- the last character is that of the body, unless the escaped quote is the last
      cases body with
      | nil => simp [hne] at hlast
      | cons d body => simpa using hlast

/-- A backslash that is kept does not stand before a quote, also not before the closing one. -/
def Keeps (quote c : Char) (body : List Char) : Prop :=
  c = '\\' → ∀ d after, body ++ [quote] = d :: after → ¬ IsQuote d

/-- A character in front that escapes nothing and is not the closing quote leaves a text in quotes
    unbroken. -/
private theorem unbroken_cons (hquote : IsQuote quote) (hc : c ≠ quote)
    (hkeeps : Keeps quote c body) :
    Unbroken quote (c :: body) ↔ Unbroken quote body := by
  constructor
  · intro h
    refine ⟨fun before after hsplit => ?_, fun hlast => h.closed ?_⟩
    · have hlast := h.escaped (c :: before) after (by rw [hsplit]; rfl)
      cases before with
      | nil =>
        -- the body starts with a quote, which a backslash that is kept does not stand before
        have hback : c = '\\' := by simpa using hlast
        exact absurd hquote (hkeeps hback _ _ (by rw [hsplit]; rfl))
      | cons d before => simpa using hlast
    · exact getLast?_cons_of_eq_some hlast
  · -- a quote in the longer body is one of the shorter body, with the same character before it
    intro h
    refine ⟨fun before after hsplit => ?_, fun hlast => ?_⟩
    · cases before with
      | nil => exact absurd (List.cons.inj hsplit).1 hc
      | cons d before =>
        exact getLast?_cons_of_eq_some (h.escaped before after (List.cons.inj hsplit).2)
    · cases body with
      | nil =>
        have hback : c = '\\' := by simpa using hlast
        exact hkeeps hback _ _ rfl hquote
      | cons d body => exact h.closed (by simpa using hlast)

end

/-- What is read from a quote on is a body, its closing quote and the rest. -/
theorem body_of_readQuoted? {quote : Char} (hquote : IsQuote quote) {cs chars rest : List Char}
    (h : readQuoted? quote cs = some (chars, rest)) :
    ∃ body, cs = body ++ quote :: rest ∧ Unbroken quote body ∧ chars = unescape body := by
  -- along the cases of the reader: the end, the two escapes, the closing quote, anything else
  induction cs using readQuoted?.induct quote generalizing chars with
  | case1 => simp [readQuoted?] at h
  | case2 cs ih | case3 cs ih =>
    simp only [readQuoted?, Option.map_eq_some_iff, Prod.mk.injEq] at h
    obtain ⟨⟨chars, rest⟩, hread, rfl, rfl⟩ := h
    obtain ⟨body, rfl, hbody, rfl⟩ := ih hread
    refine ⟨'\\' :: _ :: body, rfl, (unbroken_escape ?_ hquote).2 hbody, rfl⟩
    simp [IsQuote]
  | case4 cs hsingle hdouble =>
    -- the closing quote: the body is empty
    rw [readQuoted?.eq_4 _ _ _ hsingle hdouble, if_pos rfl] at h
    obtain ⟨rfl, rfl⟩ := Prod.mk.inj (Option.some.inj h)
    exact ⟨[], rfl, ⟨fun before after h => by simp at h, by simp⟩, rfl⟩
  | case5 c cs hsingle hdouble hc ih =>
    rw [readQuoted?.eq_4 _ _ _ hsingle hdouble, if_neg hc, Option.map_eq_some_iff] at h
    obtain ⟨⟨chars', rest'⟩, hread, hpair⟩ := h
    obtain ⟨rfl, rfl⟩ := Prod.mk.inj hpair
    obtain ⟨body, rfl, hbody, rfl⟩ := ih hread
    -- a backslash before a quote would have been read as an escape
    have hkeeps : Keeps quote c body := by
      intro hback d after hd hd'
      have hnext : body ++ quote :: rest' = d :: (after ++ rest') := by
        rw [← List.cons_append, ← hd, List.append_assoc, List.singleton_append]
      rcases hd' with rfl | rfl
      · exact hsingle _ hback hnext
      · exact hdouble _ hback hnext
    refine ⟨c :: body, rfl, (unbroken_cons hquote hc hkeeps).2 hbody, ?_⟩
    rw [unescape.eq_3]
    · exact fun after hback hafter => hkeeps hback _ _ (by rw [hafter]; rfl) (.inl rfl)
    · exact fun after hback hafter => hkeeps hback _ _ (by rw [hafter]; rfl) (.inr rfl)

/-- A body is read up to its closing quote. -/
theorem readQuoted?_body {quote : Char} (hquote : IsQuote quote) {body : List Char}
    (hbody : Unbroken quote body) (rest : List Char) :
    readQuoted? quote (body ++ quote :: rest) = some (unescape body, rest) := by
  have hne := hquote.ne_backslash
  -- along the cases of what is denoted, which are those of the reader but for the closing quote
  induction body using unescape.induct with
  | case1 body ih =>
    have htail := (unbroken_escape (.inl rfl) hquote).1 hbody
    simp [readQuoted?, unescape, ih htail]
  | case2 body ih =>
    have htail := (unbroken_escape (.inr rfl) hquote).1 hbody
    simp [readQuoted?, unescape, ih htail]
  | case3 c body hsingle hdouble ih =>
    -- a quote at the start of the body would have no backslash before it
    have hc : c ≠ quote := by
      intro hc
      have hlast := hbody.escaped [] body (by rw [hc]; rfl)
      simp at hlast
    have hkeeps : Keeps quote c body := by
      intro hback d after hd hd'
      cases body with
      | nil => exact hbody.closed (by rw [hback]; rfl)
      | cons d' body =>
        obtain rfl : d' = d := (List.cons.inj hd).1
        rcases hd' with rfl | rfl
        · exact hsingle _ hback rfl
        · exact hdouble _ hback rfl
    have htail := (unbroken_cons hquote hc hkeeps).1 hbody
    -- also if the closing quote is the next character
    have hnext : ∀ d after, c = '\\' → body ++ quote :: rest = d :: after → ¬ IsQuote d := by
      intro d after hback hafter
      cases body with
      | nil => exact absurd hquote (hkeeps hback _ _ rfl)
      | cons d' body =>
        obtain rfl : d' = d := (List.cons.inj hafter).1
        exact hkeeps hback _ _ rfl
    rw [List.cons_append, readQuoted?.eq_4, if_neg hc, ih htail, unescape.eq_3 _ _ hsingle hdouble]
    · rfl
    · exact fun after hback hafter => hnext _ _ hback hafter (.inl rfl)
    · exact fun after hback hafter => hnext _ _ hback hafter (.inr rfl)
  | case4 =>
    rw [List.nil_append, readQuoted?.eq_4 _ _ _ (fun _ h => absurd h hne) (fun _ h => absurd h hne),
      if_pos rfl]
    rfl

/-! ### Words -/

/-- A word is read whatever follows it. -/
private theorem readWord?_word {letters : List Char} {l : Literal}
    (h : (LiteralSyntax.word letters).Denotes l) (rest : List Char) :
    readWord? (letters ++ rest) = some (l, rest) := by
  cases h with
  | yes h | no h | null h => rcases h with rfl | rfl <;> rfl

/-- What is read as a word is one. -/
private theorem word_of_readWord? {cs rest : List Char} {l : Literal}
    (h : readWord? cs = some (l, rest)) :
    ∃ letters, cs = letters ++ rest ∧ (LiteralSyntax.word letters).Valid ∧
      (LiteralSyntax.word letters).Denotes l := by
  obtain ⟨⟨letters, l'⟩, hmem, hread⟩ := List.exists_of_findSome?_eq_some h
  dsimp only at hread
  split at hread
  · rename_i hprefix
    obtain ⟨rfl, rfl⟩ := Prod.mk.inj (Option.some.inj hread)
    obtain ⟨rest, rfl⟩ := List.isPrefixOf_iff_prefix.1 hprefix
    refine ⟨letters, by simp, ?_⟩
    -- six words in all
    simp only [literalWords, List.mem_cons, Prod.mk.injEq, List.not_mem_nil, or_false] at hmem
    rcases hmem with ⟨rfl, rfl⟩ | ⟨rfl, rfl⟩ | ⟨rfl, rfl⟩ | ⟨rfl, rfl⟩ | ⟨rfl, rfl⟩ | ⟨rfl, rfl⟩
    · exact ⟨by simp [LiteralSyntax.Valid], .yes (.inl rfl)⟩
    · exact ⟨by simp [LiteralSyntax.Valid], .yes (.inr rfl)⟩
    · exact ⟨by simp [LiteralSyntax.Valid], .no (.inl rfl)⟩
    · exact ⟨by simp [LiteralSyntax.Valid], .no (.inr rfl)⟩
    · exact ⟨by simp [LiteralSyntax.Valid], .null (.inl rfl)⟩
    · exact ⟨by simp [LiteralSyntax.Valid], .null (.inr rfl)⟩
  · exact nomatch hread

/-! ### Numbers -/

/-- A run of digits that is not empty. -/
private theorem isDigits_takeWhile {cs : List Char} (h : cs.takeWhile Char.isDigit ≠ []) :
    IsDigits (cs.takeWhile Char.isDigit) :=
  ⟨h, fun _ hc => List.mem_takeWhile_imp hc⟩

/-- A sign is split off in front of anything that starts with a digit. -/
theorem splitSign_text (sign : Sign) {c : Char} (hc : c.isDigit = true) (rest : List Char) :
    Number.splitSign (sign.text ++ c :: rest) = (decide (sign = .minus), c :: rest) := by
  cases sign with
  | missing => exact splitSign_of_isDigit hc rest
  | plus => rfl
  | minus => rfl

/-- What a sign is split off from. -/
private theorem exists_sign (cs : List Char) :
    ∃ sign : Sign, cs = sign.text ++ (Number.splitSign cs).2 ∧
      (Number.splitSign cs).1 = decide (sign = .minus) := by
  rw [Number.splitSign.eq_def]
  split
  · exact ⟨.plus, rfl, rfl⟩
  · exact ⟨.minus, rfl, rfl⟩
  · exact ⟨.missing, rfl, rfl⟩

/-- A blank goes on no run of digits, and it is no point. -/
private theorem IsBlanks.not_digit {rest : List Char} (h : IsBlanks rest) :
    ∀ c ∈ rest.head?, c.isDigit = false ∧ c ≠ '.' := by
  intro c hc
  rcases h c (List.mem_of_mem_head? hc) with rfl | rfl | rfl | rfl <;> decide

/-- A fraction in front of a blank or of the end stops there. -/
private theorem readFraction?_fraction {fraction : Option (List Char)}
    (hfraction : ∀ digits ∈ fraction, IsDigits digits) {rest : List Char}
    (hrest : IsBlanks rest) :
    readFraction? (LiteralSyntax.fractionText fraction ++ rest) = (fraction, rest) := by
  cases fraction with
  | none =>
    cases rest with
    | nil => rfl
    | cons c rest =>
      -- what follows is no point
      have hc := (hrest.not_digit c rfl).2
      simp [readFraction?, LiteralSyntax.fractionText, hc]
  | some digits =>
    have hdigits := hfraction digits rfl
    obtain ⟨htake, hdrop⟩ := span_append hdigits.2 fun c hc => (hrest.not_digit c hc).1
    have hne : digits.isEmpty = false := by simpa using hdigits.1
    simp [readFraction?, LiteralSyntax.fractionText, htake, hdrop, hne]

/-- The fraction that is read. -/
private theorem fraction_of_readFraction? {cs rest : List Char} {fraction : Option (List Char)}
    (h : readFraction? cs = (fraction, rest)) :
    cs = LiteralSyntax.fractionText fraction ++ rest ∧ ∀ digits ∈ fraction, IsDigits digits := by
  rw [readFraction?.eq_def] at h
  split at h
  · rename_i after
    dsimp only at h
    split at h
    · -- a point without digits after it is left where it is
      obtain ⟨rfl, rfl⟩ := Prod.mk.inj h
      exact ⟨rfl, by simp⟩
    · rename_i hdigits
      obtain ⟨rfl, rfl⟩ := Prod.mk.inj h
      refine ⟨by simp [LiteralSyntax.fractionText], ?_⟩
      rintro digits ⟨rfl⟩
      exact isDigits_takeWhile (by simpa using hdigits)
  · obtain ⟨rfl, rfl⟩ := Prod.mk.inj h
    exact ⟨rfl, by simp⟩

/-- The digits before and after the point, taken together, in units of the last one. -/
theorem decimalValue_eq (whole digits : List Char) :
    LiteralSyntax.decimalValue whole (some digits) =
      (Text.digitsValue (whole ++ digits) : ℚ) * 10 ^ (-(digits.length : Int)) := by
  have hten : (10 : ℚ) ^ digits.length ≠ 0 := by positivity
  rw [LiteralSyntax.decimalValue, Text.digitsValue_append, Text.digitsValue_eq, Text.digitsValue_eq,
    zpow_neg, zpow_natCast]
  push_cast
  field_simp

/-- The literal that is built from the parts of a number is what they denote. -/
theorem denotes_numberLiteral (sign : Sign) (whole : List Char) (fraction : Option (List Char)) :
    (LiteralSyntax.number sign whole fraction).Denotes
      (numberLiteral (decide (sign = .minus)) whole fraction) := by
  have hvalue := Text.digitsValue_eq whole
  cases fraction with
  | none =>
    simp only [numberLiteral]
    split
    · rename_i hlength
      rw [hvalue, Binary.signed]
      simpa using @LiteralSyntax.Denotes.integer sign _ hlength
    · rename_i hlength
      -- too many digits for an integer: the nearest number, as with a point
      refine .float (fun _ => Nat.lt_of_not_le hlength) ?_
      have hnear := Binary.Format.ofDecimal_isNearest Binary.Format.usual_double
        (decide (sign = .minus)) (Text.digitsValue whole) 0
      rw [zpow_zero, mul_one, hvalue] at hnear
      rw [hvalue]
      exact hnear
  | some digits =>
    refine .float ?_ ?_
    · intro h
      cases h
    · rw [decimalValue_eq]
      exact Binary.Format.ofDecimal_isNearest Binary.Format.usual_double _ _ _

/-- A number in front of a blank or of the end is read whole. -/
theorem readNumber?_number {sign : Sign} {whole : List Char} {fraction : Option (List Char)}
    (h : (LiteralSyntax.number sign whole fraction).Valid) {rest : List Char}
    (hrest : IsBlanks rest) :
    readNumber? ((LiteralSyntax.number sign whole fraction).text ++ rest) =
      some (numberLiteral (decide (sign = .minus)) whole fraction, rest) := by
  obtain ⟨⟨hne, hdigit⟩, hfraction⟩ := h
  -- the digits end at the point, or where the number ends
  have hstop : ∀ c ∈ (LiteralSyntax.fractionText fraction ++ rest).head?, c.isDigit = false := by
    intro c hc
    cases fraction with
    | none => exact (hrest.not_digit c hc).1
    | some digits =>
      obtain rfl : '.' = c := Option.some.inj hc
      rfl
  obtain ⟨htake, hdrop⟩ := span_append hdigit hstop
  have hsplit : Number.splitSign ((LiteralSyntax.number sign whole fraction).text ++ rest) =
      (decide (sign = .minus), whole ++ (LiteralSyntax.fractionText fraction ++ rest)) := by
    obtain ⟨c, digits, rfl⟩ := List.exists_cons_of_ne_nil hne
    rw [LiteralSyntax.text, List.append_assoc, List.append_assoc]
    exact splitSign_text sign (hdigit c (by simp)) _
  have hempty : whole.isEmpty = false := by simpa using hne
  rw [readNumber?, hsplit]
  dsimp only
  rw [htake, hdrop, hempty, readFraction?_fraction hfraction hrest]
  rfl

/-- What is read as a number is one. -/
theorem number_of_readNumber? {cs rest : List Char} {l : Literal}
    (h : readNumber? cs = some (l, rest)) :
    ∃ sign whole fraction, cs = (LiteralSyntax.number sign whole fraction).text ++ rest ∧
      (LiteralSyntax.number sign whole fraction).Valid ∧
      (LiteralSyntax.number sign whole fraction).Denotes l := by
  obtain ⟨sign, hcs, hsign⟩ := exists_sign cs
  rw [readNumber?] at h
  generalize Number.splitSign cs = split at h hcs hsign
  obtain ⟨negative, body⟩ := split
  dsimp only at h hcs hsign
  split at h
  · exact nomatch h
  · rename_i hwhole
    generalize hread : readFraction? (body.dropWhile Char.isDigit) = fraction at h
    obtain ⟨fraction, rest'⟩ := fraction
    obtain ⟨rfl, rfl⟩ := Prod.mk.inj (Option.some.inj h)
    obtain ⟨hdrop, hfraction⟩ := fraction_of_readFraction? hread
    -- the parts that were read are the parts of the text
    refine ⟨sign, body.takeWhile Char.isDigit, fraction, ?_,
      ⟨isDigits_takeWhile (by simpa using hwhole), hfraction⟩, ?_⟩
    · rw [LiteralSyntax.text, List.append_assoc, List.append_assoc, ← hdrop,
        List.takeWhile_append_dropWhile, hcs]
    · rw [hsign]
      exact denotes_numberLiteral sign _ fraction

/-! ### Literals -/

/-- The first letters of words. -/
def wordHeads : List Char := ['t', 'T', 'f', 'F', 'n', 'N']

/-- The first characters of all that can stand beside a number. -/
def otherHeads : List Char := [' ', '\t', '\r', '\n', '=', '\'', '"'] ++ wordHeads

theorem mem_otherHeads {c : Char} (h : c ∈ wordHeads) : c ∈ otherHeads :=
  List.mem_append_right _ h

/-- A word starts with one of six letters. -/
theorem word_head {letters : List Char} (h : (LiteralSyntax.word letters).Valid) :
    ∃ c cs, letters = c :: cs ∧ c ∈ wordHeads := by
  simp only [LiteralSyntax.Valid, List.mem_cons, List.not_mem_nil, or_false] at h
  rcases h with rfl | rfl | rfl | rfl | rfl | rfl <;> exact ⟨_, _, rfl, by decide⟩

/-- A number starts with no blank, no operator, no quote and no word. -/
theorem number_head {sign : Sign} {whole : List Char} {fraction : Option (List Char)}
    (h : (LiteralSyntax.number sign whole fraction).Valid) :
    ∃ c cs, (LiteralSyntax.number sign whole fraction).text = c :: cs ∧
      c ∉ otherHeads := by
  obtain ⟨c, digits, rfl⟩ := List.exists_cons_of_ne_nil h.1.1
  cases sign with
  | missing =>
    refine ⟨c, _, rfl, fun hc => ?_⟩
    have hdigit := h.1.2 c List.mem_cons_self
    -- none of the other first characters is a digit
    have hother := List.all_eq_true.1 (by decide : otherHeads.all (!·.isDigit) = true) c hc
    simp [hdigit] at hother
  | plus => exact ⟨'+', _, rfl, by decide⟩
  | minus => exact ⟨'-', _, rfl, by decide⟩

/-- A literal starts with no blank and does not go on the operator before it. -/
theorem literal_head {w : LiteralSyntax} (h : w.Valid) :
    ∃ c cs, w.text = c :: cs ∧ isGap c = false ∧ c ≠ '=' := by
  cases w with
  | quoted quote body =>
    refine ⟨quote, _, rfl, ?_⟩
    rcases h.1 with rfl | rfl <;> decide
  | word letters =>
    obtain ⟨c, cs, rfl, hc⟩ := word_head h
    have hletter := List.all_eq_true.1
      (by decide : wordHeads.all (fun d => !isGap d && d != '=') = true) c hc
    exact ⟨c, cs, rfl, by simpa using hletter⟩
  | number sign whole fraction =>
    obtain ⟨c, cs, htext, hc⟩ := number_head h
    refine ⟨c, cs, htext, Bool.eq_false_iff.2 fun hgap => hc ?_, ?_⟩
    · simp only [isGap, Bool.or_eq_true, beq_iff_eq] at hgap
      -- the blanks are among the characters that start something else
      rcases hgap with ((rfl | rfl) | rfl) | rfl <;> decide
    · rintro rfl
      exact hc (by decide)

/-- A literal in front of a blank or of the end is read whole. -/
theorem readLiteral_text {w : LiteralSyntax} (h : w.Valid) {l : Literal} (hl : w.Denotes l)
    {rest : List Char} (hrest : IsBlanks rest) (start : Nat) :
    readLiteral start (w.text ++ rest) = .ok (l, rest) := by
  cases w with
  | quoted quote body =>
    obtain ⟨hquote, hbody⟩ := h
    cases hl
    have hread := readQuoted?_body hquote hbody rest
    simp only [LiteralSyntax.text, List.cons_append, List.append_assoc, List.nil_append,
      readLiteral, if_pos hquote, hread]
  | word letters =>
    have hread := readWord?_word hl rest
    obtain ⟨c, cs, rfl, hc⟩ := word_head h
    have hletter := List.all_eq_true.1
      (by decide : wordHeads.all (fun d => !decide (d = '\'' ∨ d = '"')) = true) c hc
    -- no word starts with a quote
    have hquote : ¬(c = '\'' ∨ c = '"') := by simpa using hletter
    rw [List.cons_append] at hread
    rw [LiteralSyntax.text, List.cons_append]
    rw [readLiteral, if_neg hquote, hread]
  | number sign whole fraction =>
    have hread := readNumber?_number h hrest
    rw [hl.unique (denotes_numberLiteral sign whole fraction)]
    obtain ⟨c, cs, htext, hc⟩ := number_head h
    rw [htext] at hread ⊢
    have hquote : ¬(c = '\'' ∨ c = '"') := by
      rintro (rfl | rfl) <;> exact hc (by decide)
    -- words are tried before numbers, and none of them starts like a number
    have hword : readWord? (c :: cs ++ rest) = none := by
      cases hfound : readWord? (c :: cs ++ rest) with
      | none => rfl
      | some found =>
        obtain ⟨letters, hcs, hvalid, -⟩ := word_of_readWord? hfound
        obtain ⟨d, letters, rfl, hd⟩ := word_head hvalid
        obtain rfl : c = d := (List.cons.inj hcs).1
        exact absurd (mem_otherHeads hd) hc
    rw [List.cons_append] at hread hword ⊢
    rw [readLiteral, if_neg hquote, hword, hread]

/-- What is read as a literal is one. -/
theorem text_of_readLiteral {start : Nat} {cs rest : List Char} {l : Literal}
    (h : readLiteral start cs = .ok (l, rest)) :
    ∃ w : LiteralSyntax, cs = w.text ++ rest ∧ w.Valid ∧ w.Denotes l := by
  rw [readLiteral.eq_def] at h
  split at h
  · -- quoted text, word or number, in the order of the reader
    rename_i c after
    split at h
    · rename_i hquote
      split at h
      · rename_i chars rest' hread
        obtain ⟨rfl, rfl⟩ := Prod.mk.inj (Except.ok.inj h)
        obtain ⟨body, rfl, hbody, rfl⟩ := body_of_readQuoted? hquote hread
        exact ⟨.quoted c body, by simp [LiteralSyntax.text], ⟨hquote, hbody⟩, .quoted c body⟩
      · exact nomatch h
    · split at h
      · rename_i hread
        cases Except.ok.inj h
        obtain ⟨letters, hcs, hvalid, hl⟩ := word_of_readWord? hread
        exact ⟨.word letters, hcs, hvalid, hl⟩
      · split at h
        · rename_i hread
          cases Except.ok.inj h
          obtain ⟨sign, whole, fraction, hcs, hvalid, hl⟩ := number_of_readNumber? hread
          exact ⟨.number sign whole fraction, hcs, hvalid, hl⟩
        · exact nomatch h
  · exact nomatch h

end Predicate

end SharedTables
