import Mathlib
import SharedTables.Proofs.Predicate.Parsing

/-!
# Where reading a predicate stops

A text that is no predicate is rejected with an offset.  What stands before it is the beginning of
some predicate, so the offset is no further right than the first mistake; and where something
follows a whole predicate, it is that predicate.

The line and the column of an error are counted from the characters before the offset, which are at
hand with the error only.  A reader of the message has the text, the line and the column: the line
is found by walking to its start, and the column counts on from there.

## Key results

- `lineStart_count`: the start of the last line and what stands in that line
- `exists_completion`: what was read before an error goes on to a predicate
- `error_place`: where errors are, in offsets and in lines and columns
-/

namespace SharedTables

namespace Text

/-- The offset right after so many line breaks. -/
def lineStart : Nat → List Char → Nat
  | 0, _ => 0
  | _ + 1, [] => 0
  | n + 1, c :: rest => lineStart (if c = '\n' then n else n + 1) rest + 1

example : lineStart 0 "ab\n\ncd".toList = 0 ∧ lineStart 1 "ab\n\ncd".toList = 3 ∧
    lineStart 2 "ab\n\ncd".toList = 4 := by decide

/-- A line starts right after the line break before it. -/
private theorem lineStart_break (before rest : List Char) :
    lineStart (before.count '\n' + 1) (before ++ '\n' :: rest) = before.length + 1 := by
  induction before with
  | nil => simp [lineStart]
  | cons c before ih =>
    simp only [List.cons_append, lineStart, List.length_cons, Nat.add_right_cancel_iff]
    by_cases hc : c = '\n'
    · rw [if_pos hc, hc, List.count_cons_self]
      exact ih
    · rw [if_neg hc, List.count_cons_of_ne hc]
      exact ih

/-- The characters of the last line stand after its start. -/
theorem lineStart_count (before rest : List Char) :
    lineStart (before.count '\n') (before ++ rest) +
      (before.reverse.takeWhile (· != '\n')).length = before.length := by
  -- from the right, as the last line break is what counts
  induction before using List.reverseRecOn generalizing rest with
  | nil => simp [lineStart]
  | append_singleton before c ih =>
    rw [List.reverse_concat, List.append_assoc, List.singleton_append, List.count_append,
      List.length_append]
    by_cases hc : c = '\n'
    · subst hc
      rw [List.takeWhile_cons_of_neg (by simp)]
      exact lineStart_break before rest
    · -- the character goes on the line that the others end with
      have hstart := ih (c :: rest)
      have hcount : [c].count '\n' = 0 := by simp [hc]
      rw [List.takeWhile_cons_of_pos (by simpa using hc), hcount, Nat.add_zero, List.length_cons,
        List.length_singleton]
      omega

end Text

namespace Predicate

/-! ### What was read before an error -/

/-- A value for a predicate that lacks one. -/
def zero : LiteralSyntax := .number .missing ['0'] none

theorem IsBlanks.nil : IsBlanks [] := by
  intro c hc
  exact absurd hc List.not_mem_nil

private theorem valid_zero : zero.Valid := by
  refine ⟨⟨by simp, ?_⟩, by simp⟩
  intro c hc
  obtain rfl : c = '0' := by simpa using hc
  decide

/-- The parts that the readers take are those of a predicate. -/
private theorem valid_of_column {before column beforeOperator beforeValue after : List Char}
    {w : LiteralSyntax} (op : Operator) (hbefore : IsBlanks before) (hcolumn : column ≠ [])
    (hname : ∀ c ∈ column, isColumnChar c = true) (hbeforeOperator : IsBlanks beforeOperator)
    (hbeforeValue : IsBlanks beforeValue) (hw : w.Valid) (hafter : IsBlanks after) :
    (⟨before, column, beforeOperator, op, beforeValue, w, after⟩ : Parts).Valid :=
  ⟨hbefore, hcolumn, fun c hc => isColumnChar_iff.1 (hname c hc), hbeforeOperator, hbeforeValue, hw,
    hafter⟩

/-- What a literal that cannot be read lacks. -/
private theorem reason_of_readLiteral {start : Nat} {cs : List Char} {reason : ParseReason}
    (h : readLiteral start cs = .error reason) :
    reason = .value ∨ reason = .unterminated start := by
  rw [readLiteral.eq_def] at h
  split at h
  · split at h
    · split at h
      · cases h
      · exact .inr (Except.error.inj h).symm
    · split at h
      · cases h
      · split at h
        · cases h
        · exact .inl (Except.error.inj h).symm
  · exact .inl (Except.error.inj h).symm

/-- What was read of a text before it was rejected, and what was left. -/
structure ReadUpTo (t : String) (e : ParseError) (before rest : List Char) : Prop where
  text : e.text = t
  split : t.toList = before ++ rest
  offset : e.offset = before.length

/-- The offset of an error is told by what was left. -/
private theorem readUpTo_of_split {t : String} {before rest : List Char}
    (h : t.toList = before ++ rest)
    (reason : ParseReason) :
    ReadUpTo t ⟨t, t.toList.length - rest.length, reason⟩ before rest := by
  refine ⟨rfl, h, ?_⟩
  simp [h]

/-- What was read before an error goes on to a predicate, and it is one if nothing but the end of
    the text was missing. -/
theorem exists_completion {t : String} {e : ParseError} (h : parse t = .error e) :
    ∃ before rest, ReadUpTo t e before rest ∧ ∃ d : Parts, d.Valid ∧ before <+: d.text ∧
      ∀ found, e.reason = .trailing found → d.text = before ∧ rest = found.toList := by
  rw [parse] at h
  dsimp only at h
  obtain ⟨blanks, hblanks, hstart⟩ := exists_blanks t.toList
  -- one case for each reader that stops
  split at h
  · -- no column: blanks go on to any predicate
    obtain rfl := Except.error.inj h
    have hname : ∀ c ∈ ['c'], isColumnChar c = true := List.forall_mem_singleton.2 rfl
    have hvalid := valid_of_column .eq hblanks (by simp) hname IsBlanks.nil IsBlanks.nil
      valid_zero IsBlanks.nil
    refine ⟨_, _, readUpTo_of_split hstart _, _, hvalid, ?_, by simp⟩
    exact ⟨_, rfl⟩
  · rename_i hcolumn
    have hname : ∀ c ∈ (skipGap t.toList).takeWhile isColumnChar, isColumnChar c = true := by
      intro c hc
      exact List.mem_takeWhile_imp hc
    obtain ⟨beforeOperator, hbeforeOperator, hgap⟩ :=
      exists_blanks ((skipGap t.toList).dropWhile isColumnChar)
    have hupTo : t.toList = (blanks ++ ((skipGap t.toList).takeWhile isColumnChar ++
        beforeOperator)) ++ skipGap ((skipGap t.toList).dropWhile isColumnChar) := by
      rw [List.append_assoc, List.append_assoc, ← hgap, List.takeWhile_append_dropWhile, ← hstart]
    split at h
    · -- no operator: any one will do
      obtain rfl := Except.error.inj h
      have hvalid := valid_of_column .eq hblanks hcolumn hname hbeforeOperator IsBlanks.nil
        valid_zero IsBlanks.nil
      refine ⟨_, _, readUpTo_of_split hupTo _, _, hvalid, ?_, by simp⟩
      simp [Parts.text]
    · rename_i op afterOperator hoperator
      obtain ⟨beforeValue, hbeforeValue, hoperand⟩ := exists_blanks afterOperator
      rw [symbol_of_readOperator? hoperator, hoperand, ← List.append_assoc,
        ← List.append_assoc] at hupTo
      split at h
      · -- no value, or one that is not closed: its place is where it starts
        rename_i reason hliteral
        obtain rfl := Except.error.inj h
        have hvalid := valid_of_column op hblanks hcolumn hname hbeforeOperator hbeforeValue
          valid_zero IsBlanks.nil
        refine ⟨_, _, readUpTo_of_split hupTo _, _, hvalid, ?_, ?_⟩
        · simp [Parts.text, List.append_assoc]
        · intro found hfound
          rcases reason_of_readLiteral hliteral with rfl | rfl
          · cases hfound
          · cases hfound
      · rename_i l afterValue hliteral
        split at h
        · cases h
        · -- all of a predicate was read, and something follows it
          obtain rfl := Except.error.inj h
          obtain ⟨w, hw, hvalue, -⟩ := text_of_readLiteral hliteral
          obtain ⟨after, hafter, hrest⟩ := exists_blanks afterValue
          rw [hw, hrest, ← List.append_assoc, ← List.append_assoc] at hupTo
          have hvalid := valid_of_column op hblanks hcolumn hname hbeforeOperator hbeforeValue
            hvalue hafter
          refine ⟨_, _, readUpTo_of_split hupTo _, _, hvalid, ?_, ?_⟩
          · simp [Parts.text, List.append_assoc]
          · intro found hfound
            obtain rfl := ParseReason.trailing.inj hfound
            simp [Parts.text, List.append_assoc]

/-- A text that is taken apart in parts of the grammar is accepted. -/
private theorem exists_parse {d : Parts} (hd : d.Valid) : ∃ p, parse
    (String.ofList d.text) = .ok p := by
  obtain ⟨p, hp⟩ := exists_comparison hd
  exact ⟨p, parse_text ⟨hd, String.toList_ofList.symm⟩ hp⟩

/-! ### Places -/

/-- An error is at most at the end of its text, and what stands before it is the beginning of a
    predicate, or a whole one if something follows it.  The line of an error is told by the line
    breaks before it, and its column counts from the start of that line. -/
theorem error_place {t : String} {e : ParseError} (h : parse t = .error e) :
    e.text = t ∧ e.offset ≤ t.length ∧
    (∃ rest p, parse (String.ofList (t.toList.take e.offset ++ rest)) = .ok p) ∧
    (∀ found, e.reason = .trailing found →
      (∃ p, parse (String.ofList (t.toList.take e.offset)) = .ok p) ∧
        found.toList = t.toList.drop e.offset) ∧
    1 ≤ e.line ∧ 1 ≤ e.column ∧ (t.toList.take e.offset).count '\n' = e.line - 1 ∧
    e.offset = Text.lineStart (e.line - 1) t.toList + (e.column - 1) := by
  obtain ⟨before, rest, ⟨htext, hsplit, hoffset⟩, d, hd, hprefix, htrailing⟩ :=
    exists_completion h
  have htake : t.toList.take e.offset = before := by
    rw [hsplit, hoffset, List.take_left]
  have hconsumed : e.consumed = before := by
    rw [ParseError.consumed, htext, htake]
  refine ⟨htext, ?_, ?_, ?_, ?_, ?_, ?_, ?_⟩
  · rw [hoffset, ← String.length_toList, hsplit, List.length_append]
    omega
  · obtain ⟨more, hmore⟩ := hprefix
    rw [htake]
    refine ⟨more, ?_⟩
    rw [hmore]
    exact exists_parse hd
  · intro found hfound
    obtain ⟨hwhole, hrest⟩ := htrailing found hfound
    rw [htake, ← hwhole]
    refine ⟨exists_parse hd, ?_⟩
    rw [hsplit, hoffset, List.drop_left, hrest]
  · simp [ParseError.line]
  · simp [ParseError.column]
  · rw [htake, ParseError.line, hconsumed, Nat.add_sub_cancel]
  · have hstart := Text.lineStart_count before rest
    rw [ParseError.line, ParseError.column, hconsumed, Nat.add_sub_cancel, Nat.add_sub_cancel,
      hoffset, hsplit]
    exact hstart.symm

/-- A predicate of several lines, also inside its value, and more on a fifth one. -/
theorem error_place_fifth_line :
    parse "\na =\n 'b\nc' \n d" = .error ⟨"\na =\n 'b\nc' \n d", 14, .trailing "d"⟩ ∧
    (∃ p, parse (String.ofList ("\na =\n 'b\nc' \n d".toList.take 14)) = .ok p) ∧
    14 = Text.lineStart (5 - 1) "\na =\n 'b\nc' \n d".toList + (2 - 1) := by
  have h : parse "\na =\n 'b\nc' \n d" = .error ⟨"\na =\n 'b\nc' \n d", 14, .trailing "d"⟩ :=
    rfl
  obtain ⟨-, -, -, htrailing, -, -, -, hplace⟩ := error_place h
  exact ⟨h, (htrailing "d" rfl).1, hplace⟩

end Predicate

end SharedTables
