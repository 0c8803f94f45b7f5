import Mathlib
import SharedTables.Proofs.Json.Grammar
import SharedTables.Proofs.Number.IntText
import SharedTables.Proofs.Text.Runs

/-!
# Reading what the grammar spells

Every text that spells a value is read as the value.  What follows a value must not go on a
number; blanks, commas and closing brackets do not.

The reader is a recursion on fuel, and so is the proof: each level of it uses up one unit, and a
text of some characters has at most twice as many levels.

## Key results

- `stringUnits?_spelled`: a string ends at its closing quote, and its units are its characters
- `readNumber_spelled`: a number ends where the first character stands that cannot go on it
- `reads_all`: values, items and members are read with fuel for twice their characters
- `read_spelled`: a text with a value and blanks around it is read as the value
-/

namespace SharedTables.Json

variable {cs rest gap : List Char}

/-- What follows does not go on a number. -/
def Ends (rest : List Char) : Prop :=
  ∀ c ∈ rest.head?, c.isDigit = false ∧ c ≠ '.' ∧ c ≠ 'e' ∧ c ≠ 'E'

/-! ### Blanks -/

/-- Blanks end where something else stands. -/
private theorem skipSpace_gap (hgap : IsGap gap) (hrest : ∀ c ∈ rest.head?, isSpace c = false) :
    skipSpace (gap ++ rest) = rest :=
  (span_append hgap hrest).2

/-- Blanks in front of what does not go on a number do not go on it either. -/
theorem IsGap.ends (hgap : IsGap gap) (hrest : Ends rest) : Ends (gap ++ rest) := by
  cases gap with
  | nil => exact hrest
  | cons c gap =>
    rintro d ⟨⟩
    have hspace := hgap c (List.mem_cons_self ..)
    simp only [isSpace, Bool.or_eq_true, beq_iff_eq] at hspace
    rcases hspace with ((rfl | rfl) | rfl) | rfl <;> decide

/-! ### Strings -/

/-- A code that is not half of a surrogate pair is a character by itself. -/
private theorem unitChars_code {n : Nat} (h : n < 0xd800 ∨ 0xe000 ≤ n) (units : List StringUnit) :
    unitChars (.code n :: units) = Char.ofNat n :: unitChars units := by
  have hwhole : ¬ (0xd800 ≤ n ∧ n < 0xe000) := by omega
  have hfirst : ∀ low, ¬ (0xd800 ≤ n ∧ n < 0xdc00 ∧ 0xdc00 ≤ low ∧ low < 0xe000) := by omega
  match units with
  | [] => simp [unitChars, hwhole]
  | .char c :: units => simp [unitChars, hwhole]
  | .code low :: units => rw [unitChars, if_neg (hfirst low), if_neg hwhole]

/-- A surrogate pair is one character. -/
private theorem unitChars_pair {m n : Nat} (hm : m < 0x400) (hn : n < 0x400)
    (units : List StringUnit) :
    unitChars (.code (0xd800 + m) :: .code (0xdc00 + n) :: units) =
      Char.ofNat (0x10000 + m * 0x400 + n) :: unitChars units := by
  rw [unitChars, if_pos (by omega), Nat.add_sub_cancel_left, Nat.add_sub_cancel_left]

/-- A code in a string is one unit. -/
private theorem stringUnits?_code {n : Nat} {code : List Char} (h : SpellsCode n code)
    (rest : List Char) :
    stringUnits? (code ++ rest) = (stringUnits? rest).map fun r => (.code n :: r.1, r.2) := by
  cases h with
  | intro hex =>
    simp only [List.cons_append, List.nil_append, stringUnits?, hex]
    cases stringUnits? rest <;> rfl

/-- A string ends at its closing quote, and its units are its characters. -/
theorem stringUnits?_spelled {body : List Char} (h : SpellsChars cs body) (rest : List Char) :
    ∃ units, stringUnits? (body ++ '"' :: rest) = some (units, rest) ∧ unitChars units = cs := by
  -- the induction is on the grammar, which goes through a string from front to back as the reader
  -- does
  induction h with
  | nil => exact ⟨[], by rw [List.nil_append, stringUnits?], rfl⟩
  | @plain c cs body quote backslash printed _ ih =>
    obtain ⟨units, hunits, hchars⟩ := ih
    refine ⟨.char c :: units, ?_, ?_⟩
    · rw [List.cons_append, stringUnits?.eq_5, hunits, if_neg (by simp [backslash, printed])]
      · rfl
      all_goals simp_all
    · rw [unitChars, hchars]
  | @letter l c cs body escaped _ ih =>
    obtain ⟨units, hunits, hchars⟩ := ih
    refine ⟨.char c :: units, ?_, ?_⟩
    · rw [List.cons_append, List.cons_append, stringUnits?.eq_4, escaped, hunits]
      · rfl
      · rintro a b c d rest rfl
        cases escaped
    · rw [unitChars, hchars]
  | @code n cs code body spells whole _ ih =>
    obtain ⟨units, hunits, hchars⟩ := ih
    refine ⟨.code n :: units, ?_, ?_⟩
    · rw [List.append_assoc, stringUnits?_code spells, hunits]
      rfl
    · rw [unitChars_code whole, hchars]
  | @pair m n cs high low body first second first_lt second_lt _ ih =>
    -- two units, which are one character
    obtain ⟨units, hunits, hchars⟩ := ih
    refine ⟨.code (0xd800 + m) :: .code (0xdc00 + n) :: units, ?_, ?_⟩
    · rw [List.append_assoc, List.append_assoc, stringUnits?_code first, stringUnits?_code second,
        hunits]
      rfl
    · rw [unitChars_pair first_lt second_lt, hchars]

/-- A string is read up to its closing quote. -/
private theorem readString?_spelled {s : String} {body : List Char} (h : SpellsChars s.toList body)
    (rest : List Char) : readString? (body ++ '"' :: rest) = some (s, rest) := by
  obtain ⟨units, hunits, hchars⟩ := stringUnits?_spelled h rest
  rw [readString?, hunits, ← String.ofList_toList (s := s), ← hchars]
  rfl

/-! ### Numbers -/

/-- A run of digits ends where the first other character stands. -/
private theorem span_digits {ds : List Char} (hds : ∀ c ∈ ds, c.isDigit = true)
    (hrest : ∀ c ∈ rest.head?, c.isDigit = false) :
    (ds ++ rest).span Char.isDigit = (ds, rest) := by
  obtain ⟨htake, hdrop⟩ := span_append hds hrest
  rw [List.span_eq_takeWhile_dropWhile, htake, hdrop]

/-- The whole part of a number ends where the first other character stands. -/
private theorem readWhole?_spelled {whole : List Char} (h : IsWhole whole)
    (hrest : ∀ c ∈ rest.head?, c.isDigit = false) :
    readWhole? (whole ++ rest) = some (whole, rest) := by
  obtain rfl | ⟨hdigits, hzero⟩ := h
  · rfl
  · rw [readWhole?.eq_2]
    · simp only [span_digits hdigits.2 hrest, hdigits.isEmpty_eq_false]
      rfl
    · -- a zero in front would be the whole number
      intro tail htail
      obtain ⟨c, ds, rfl⟩ := List.exists_cons_of_ne_nil hdigits.1
      rw [List.cons_append, List.cons.injEq] at htail
      exact hzero (congrArg some htail.1)

/-- What follows an exponent or its absence does not go on the digits before it. -/
theorem SpellsExponent.head {e : Option Int} {exponent : List Char} (h : SpellsExponent e exponent)
    (hrest : Ends rest) : ∀ c ∈ (exponent ++ rest).head?, c.isDigit = false ∧ c ≠ '.' := by
  cases h with
  | missing => exact fun c hc => ⟨(hrest c hc).1, (hrest c hc).2.1⟩
  | plain letter | plus letter | minus letter =>
    rintro c ⟨⟩
    rcases letter with rfl | rfl <;> decide

/-- A fraction or its absence does not go on the digits before it either. -/
private theorem fractionText_head {ds : List Char} (hrest : ∀ c ∈ rest.head?, c.isDigit = false) :
    ∀ c ∈ (fractionText ds ++ rest).head?, c.isDigit = false := by
  rw [fractionText]
  split
  · exact hrest
  · rintro c ⟨⟩
    decide

/-- So does the fraction, which is empty where there is no point. -/
private theorem readFraction_spelled {ds : List Char} (hds : ∀ c ∈ ds, c.isDigit = true)
    (hrest : ∀ c ∈ rest.head?, c.isDigit = false ∧ c ≠ '.') :
    readFraction (fractionText ds ++ rest) = (ds, rest) := by
  rw [fractionText]
  split
  · -- without digits there is no point, and what follows does not start with one
    rename_i hnil
    subst hnil
    rw [List.nil_append, readFraction.eq_def]
    split
    · exact absurd rfl (hrest '.' rfl).2
    · rfl
  · -- the point, and then a run of digits
    rename_i hne
    have hdigits : IsDigits ds := ⟨hne, hds⟩
    simp only [List.cons_append, readFraction, span_digits hds fun c hc => (hrest c hc).1,
      hdigits.isEmpty_eq_false]
    rfl

/-- So does the exponent, if there is one. -/
private theorem readExponent_spelled {e : Option Int} {exponent : List Char}
    (h : SpellsExponent e exponent) (hrest : Ends rest) :
    readExponent (exponent ++ rest) = (e, rest) := by
  have hdigit : ∀ c ∈ rest.head?, c.isDigit = false := fun c hc => (hrest c hc).1
  cases h with
  | missing =>
    -- without an exponent what follows does not start with its letter
    cases rest with
    | nil => rfl
    | cons c rest =>
      have hc := hrest c rfl
      exact if_neg (not_or.2 ⟨hc.2.2.1, hc.2.2.2⟩)
  | @plain e ds letter digits =>
    -- without a sign the digits are not taken apart
    have hsign : Number.splitSign (ds ++ rest) = (false, ds ++ rest) := by
      obtain ⟨c, tail, rfl⟩ := List.exists_cons_of_ne_nil digits.1
      exact splitSign_of_isDigit (digits.2 c (List.mem_cons_self ..)) _
    simp only [List.cons_append, readExponent, letter, if_true, hsign, span_digits digits.2 hdigit,
      digits.isEmpty_eq_false]
    rfl
  | plus letter digits | minus letter digits =>
    simp only [List.cons_append, readExponent, letter, if_true, Number.splitSign,
      span_digits digits.2 hdigit, digits.isEmpty_eq_false]
    rfl

/-- A number ends where the first character stands that cannot go on it. -/
theorem readNumber_spelled {negative : Bool} {v : Value} (h : SpellsNumber negative v cs)
    (hrest : Ends rest) : readNumber negative (cs ++ rest) = .ok (v, rest) := by
  cases h with
  | integer digits length =>
    have hend : ∀ c ∈ rest.head?, c.isDigit = false ∧ c ≠ '.' :=
      fun c hc => ⟨(hrest c hc).1, (hrest c hc).2.1⟩
    -- what follows has neither a fraction nor an exponent to read
    have hfraction : readFraction rest = ([], rest) := by
      have hnone : ∀ c ∈ ([] : List Char), c.isDigit = true := nofun
      simpa [fractionText] using readFraction_spelled hnone hend
    have hexponent : readExponent rest = (none, rest) := readExponent_spelled .missing hrest
    rw [readNumber, readWhole?_spelled digits fun c hc => (hrest c hc).1]
    simp only [hfraction]
    rw [hexponent]
    simp [length]
  | @decimal whole fraction exponent e digits fraction_digits spells inexact =>
    -- each part ends at the next one, and the last at what follows the number
    have hend := spells.head hrest
    have hhead : ∀ c ∈ (fractionText fraction ++ (exponent ++ rest)).head?, c.isDigit = false :=
      fractionText_head fun c hc => (hend c hc).1
    have hwhole := readWhole?_spelled digits hhead
    have hfraction := readFraction_spelled fraction_digits hend
    have hexponent := readExponent_spelled spells hrest
    rw [readNumber, List.append_assoc, List.append_assoc, hwhole]
    simp only [hfraction]
    split
    · -- neither a fraction nor an exponent: that would be an integer
      rename_i heq
      rw [hexponent] at heq
      simp_all
    · rename_i heq
      rw [hexponent] at heq
      obtain ⟨rfl, rfl⟩ := Prod.mk.inj heq
      rfl

/-! ### Where values start -/

/-- A value, or the items of a list, start with neither a blank nor the bracket that ends a list. -/
def Starts (cs : List Char) : Prop :=
  ∃ c tail, cs = c :: tail ∧ isSpace c = false ∧ c ≠ ']'

/-- What starts a value starts it whatever follows. -/
theorem Starts.append (h : Starts cs) (rest : List Char) : Starts (cs ++ rest) := by
  obtain ⟨c, tail, rfl, hc⟩ := h
  exact ⟨c, tail ++ rest, rfl, hc⟩

/-- A digit is neither a blank nor a bracket. -/
private theorem starts_of_isDigit {c : Char} (hc : c.isDigit = true) (tail : List Char) :
    Starts (c :: tail) := by
  refine ⟨c, tail, rfl, ?_, ?_⟩
  · have h := @of_isDigit_or_minus (fun c => !isSpace c) (by decide) c (.inr hc)
    simpa using h
  · rintro rfl
    cases hc

/-- A word starts like no other value, nor like the end of a list. -/
private theorem head_of_mem_words {v : Value} {word : List Char} (h : (word, v) ∈ words) :
    ∃ c tail, word = c :: tail ∧ isSpace c = false ∧ c ≠ ']' ∧ c ≠ '"' ∧ c ≠ '[' ∧ c ≠ '{' := by
  simp only [words, List.mem_cons, Prod.mk.injEq, List.not_mem_nil, or_false] at h
  rcases h with ⟨rfl, -⟩ | ⟨rfl, -⟩ | ⟨rfl, -⟩ | ⟨rfl, -⟩ | ⟨rfl, -⟩ | ⟨rfl, -⟩ <;>
    exact ⟨_, _, rfl, rfl, by decide⟩

/-- A number starts with a digit. -/
theorem SpellsNumber.head {negative : Bool} {v : Value} (h : SpellsNumber negative v cs) :
    ∃ c tail, cs = c :: tail ∧ c.isDigit = true := by
  have hwhole : ∀ {whole : List Char}, IsWhole whole →
      ∃ c tail, whole = c :: tail ∧ c.isDigit = true := by
    rintro whole (rfl | ⟨hdigits, -⟩)
    · exact ⟨'0', [], rfl, rfl⟩
    · obtain ⟨c, tail, rfl⟩ := List.exists_cons_of_ne_nil hdigits.1
      exact ⟨c, tail, rfl, hdigits.2 c (List.mem_cons_self ..)⟩
  cases h with
  | integer digits => exact hwhole digits
  | decimal digits =>
    obtain ⟨c, tail, rfl, hc⟩ := hwhole digits
    exact ⟨c, _, rfl, hc⟩

/-- So do all values. -/
theorem Spells.starts {v : Value} (h : Spells v cs) : Starts cs := by
  cases h with
  | word mem =>
    obtain ⟨c, tail, rfl, hspace, hbracket, -⟩ := head_of_mem_words mem
    exact ⟨c, tail, rfl, hspace, hbracket⟩
  | number spells =>
    obtain ⟨c, tail, rfl, hc⟩ := spells.head
    exact starts_of_isDigit hc tail
  | _ => exact ⟨_, _, rfl, rfl, by decide⟩

/-- The items of a list start as the first of them does. -/
theorem SpellsItems.starts {items : List Value} (h : SpellsItems items cs) : Starts cs := by
  cases h with
  | last spells => exact spells.starts.append _
  | more spells => exact spells.starts.append _

/-- Blanks before a value are skipped up to it. -/
theorem Starts.skipSpace (h : Starts cs) (hgap : IsGap gap) : skipSpace (gap ++ cs) = cs := by
  obtain ⟨c, tail, rfl, hc, -⟩ := h
  refine skipSpace_gap hgap ?_
  rintro d ⟨⟩
  exact hc

/-! ### Words and numbers as values -/

/-- A word is found in the list of words, whatever follows it. -/
private theorem readWord?_spelled {v : Value} {word : List Char} (h : (word, v) ∈ words)
    (rest : List Char) : readWord? (word ++ rest) = some (v, rest) := by
  simp only [words, List.mem_cons, Prod.mk.injEq, List.not_mem_nil, or_false] at h
  rcases h with ⟨rfl, rfl⟩ | ⟨rfl, rfl⟩ | ⟨rfl, rfl⟩ | ⟨rfl, rfl⟩ | ⟨rfl, rfl⟩ | ⟨rfl, rfl⟩ <;> rfl

/-- A digit is none of the other characters that values start with. -/
private theorem ne_of_isDigit {c : Char} (hc : c.isDigit = true) :
    ∀ d ∈ ['n', 't', 'f', 'N', 'I', '-', '"', '[', '{'], d ≠ c := by
  have hall : ['n', 't', 'f', 'N', 'I', '-', '"', '[', '{'].all (fun d => !d.isDigit) = true := rfl
  rintro d hd rfl
  have hdigit := List.all_eq_true.1 hall d hd
  rw [hc] at hdigit
  cases hdigit

/-- No word starts with a digit, nor goes on with one after a minus sign. -/
private theorem readWord?_of_isDigit {c : Char} (hc : c.isDigit = true) (rest : List Char) :
    readWord? (c :: rest) = none ∧ readWord? ('-' :: c :: rest) = none := by
  have hne := ne_of_isDigit hc
  simp only [List.forall_mem_cons] at hne
  constructor <;> simp [readWord?, words, hne]

/-- What starts like neither a string, a list nor an object is a word if it can be one. -/
private theorem readValue_of_readWord? {c : Char} {found : Value × List Char}
    (hc : c ≠ '"' ∧ c ≠ '[' ∧ c ≠ '{') (h : readWord? (c :: cs) = some found) (fuel : Nat) :
    readValue (fuel + 1) (c :: cs) = .ok found := by
  by_cases hminus : c = '-'
  · subst hminus
    rw [readValue.eq_5, h]
  · rw [readValue.eq_6, h]
    all_goals simp_all

/-- A word is read as the value that it stands for. -/
private theorem readValue_word {v : Value} {word : List Char} (h : (word, v) ∈ words) (fuel : Nat)
    (rest : List Char) : readValue (fuel + 1) (word ++ rest) = .ok (v, rest) := by
  have hread := readWord?_spelled h rest
  obtain ⟨c, tail, rfl, -, -, hother⟩ := head_of_mem_words h
  exact readValue_of_readWord? hother hread fuel

/-- A number without a sign is read as a value. -/
private theorem readValue_number {v : Value} (h : SpellsNumber false v cs) (hrest : Ends rest)
    (fuel : Nat) : readValue (fuel + 1) (cs ++ rest) = .ok (v, rest) := by
  have hread := readNumber_spelled h hrest
  obtain ⟨c, tail, rfl, hc⟩ := h.head
  -- no other kind of value starts with a digit
  have hne := ne_of_isDigit hc
  simp only [List.forall_mem_cons] at hne
  rw [List.cons_append, readValue.eq_6, (readWord?_of_isDigit hc _).1]
  · exact hread
  all_goals
    rintro _ ⟨⟩
    simp at hne

/-- A number after a minus sign is read as a value. -/
private theorem readValue_negative {v : Value} (h : SpellsNumber true v cs) (hrest : Ends rest)
    (fuel : Nat) : readValue (fuel + 1) ('-' :: (cs ++ rest)) = .ok (v, rest) := by
  have hread := readNumber_spelled h hrest
  obtain ⟨c, tail, rfl, hc⟩ := h.head
  -- the minus sign and a digit start no word
  rw [readValue.eq_5, List.cons_append, (readWord?_of_isDigit hc _).2]
  exact hread

/-! ### Lists, objects and their parts -/

/-- With so much fuel every value is read up to what follows it. -/
def ReadsValues (fuel : Nat) : Prop :=
  ∀ v cs rest, Spells v cs → Ends rest → 2 * cs.length ≤ fuel →
    readValue fuel (cs ++ rest) = .ok (v, rest)

/-- So are all items of a list up to its closing bracket. -/
def ReadsItems (fuel : Nat) : Prop :=
  ∀ items cs rest, SpellsItems items cs → 2 * cs.length ≤ fuel →
    readItems fuel (cs ++ rest) = .ok (items, rest)

/-- So are all members of an object up to its closing brace. -/
def ReadsMembers (fuel : Nat) : Prop :=
  ∀ members cs rest, SpellsMembers members cs → 2 * cs.length ≤ fuel →
    readMembers fuel (cs ++ rest) = .ok (members, rest)

variable {fuel : Nat}

/-- A comma or a closing bracket does not go on a number. -/
private theorem ends_cons {c : Char} (h : c = ',' ∨ c = ']' ∨ c = '}') (rest : List Char) :
    Ends (c :: rest) := by
  rintro d ⟨⟩
  rcases h with rfl | rfl | rfl <;> decide

/-- Blanks before a character that is none are skipped. -/
private theorem skipSpace_cons {c : Char} (hgap : IsGap gap) (hc : isSpace c = false)
    (rest : List Char) :
    skipSpace (gap ++ c :: rest) = c :: rest := by
  refine skipSpace_gap hgap ?_
  rintro d ⟨⟩
  exact hc

/-- One unit of fuel more is enough for an item and those after it. -/
private theorem readsItems_succ (hvalues : ReadsValues fuel) (hitems : ReadsItems fuel) :
    ReadsItems (fuel + 1) := by
  intro items cs rest h hfuel
  cases h with
  | @last v cs gap spells blank =>
    simp only [List.length_append, List.length_singleton] at hfuel
    -- the value ends before the blanks, and the bracket after them ends the list
    have hread := hvalues v cs (gap ++ ']' :: rest) spells
      (blank.ends (ends_cons (by simp) rest)) (by omega)
    rw [readItems.eq_2, List.append_assoc, List.append_assoc, List.singleton_append, hread]
    simp only [bind, Except.bind, skipSpace_cons (c := ']') blank rfl]
    rfl
  | @more v items cs gap gap' others spells blank blank' hothers =>
    simp only [List.length_append, List.length_cons] at hfuel
    -- the comma uses up a character, so the fuel is enough for the other items
    have hread := hvalues v cs (gap ++ ',' :: (gap' ++ (others ++ rest))) spells
      (blank.ends (ends_cons (by simp) _)) (by omega)
    have hskip := (hothers.starts.append rest).skipSpace blank'
    rw [readItems.eq_2, List.append_assoc, List.append_assoc, List.cons_append, List.append_assoc,
      hread]
    simp only [bind, Except.bind, skipSpace_cons (c := ',') blank rfl, hskip,
      hitems items others rest hothers (by omega)]
    rfl

/-- A member starts with the quote of its name. -/
theorem SpellsMember.head {m : String × Value} (h : SpellsMember m cs) :
    ∃ tail, cs = '"' :: tail := by
  cases h with
  | intro => exact ⟨_, rfl⟩

/-- So do the members of an object. -/
theorem SpellsMembers.head {members : List (String × Value)} (h : SpellsMembers members cs) :
    ∃ tail, cs = '"' :: tail := by
  cases h with
  | last spells =>
    obtain ⟨tail, rfl⟩ := spells.head
    exact ⟨_, rfl⟩
  | more spells =>
    obtain ⟨tail, rfl⟩ := spells.head
    exact ⟨_, rfl⟩

/-- After a name and its value a brace ends the object, and a comma goes on with it. -/
private theorem readMembers_member (hvalues : ReadsValues fuel) {m : String × Value}
    (h : SpellsMember m cs) (hfuel : 2 * cs.length ≤ fuel + 1) (hrest : Ends rest) :
    readMembers (fuel + 1) (cs ++ rest) =
      match skipSpace rest with
      | '}' :: after => .ok ([m], after)
      | ',' :: after => do
        let (members, after) ← readMembers fuel (skipSpace after)
        return (m :: members, after)
      | _ => .error .malformed := by
  cases h with
  | @intro name v body gap gap' cs name_spells blank blank' spells =>
    simp only [List.length_cons, List.length_append] at hfuel
    have hname := readString?_spelled name_spells (gap ++ ':' :: (gap' ++ (cs ++ rest)))
    have hvalue := hvalues v cs rest spells hrest (by omega)
    have hskip := (spells.starts.append rest).skipSpace blank'
    -- the text is regrouped as the reader takes it apart: name, colon, value
    have hassoc : '"' :: (body ++ '"' :: (gap ++ ':' :: (gap' ++ cs))) ++ rest =
        '"' :: (body ++ '"' :: (gap ++ ':' :: (gap' ++ (cs ++ rest)))) := by simp
    rw [hassoc, readMembers.eq_2, hname]
    simp only [skipSpace_cons (c := ':') blank rfl, hskip, hvalue, bind, Except.bind]
    rfl

/-- One unit of fuel more is enough for a member and those after it. -/
private theorem readsMembers_succ (hvalues : ReadsValues fuel) (hmembers : ReadsMembers fuel) :
    ReadsMembers (fuel + 1) := by
  intro members cs rest h hfuel
  cases h with
  | @last m cs gap spells blank =>
    simp only [List.length_append, List.length_singleton] at hfuel
    -- the brace after the member ends the object
    rw [List.append_assoc, List.append_assoc, List.singleton_append,
      readMembers_member hvalues spells (by omega) (blank.ends (ends_cons (by simp) rest)),
      skipSpace_cons blank rfl]
    rfl
  | @more m members cs gap gap' others spells blank blank' hothers =>
    simp only [List.length_append, List.length_cons] at hfuel
    -- the other members start with a quote, so the blanks before them are skipped
    have hskip : skipSpace (gap' ++ (others ++ rest)) = others ++ rest := by
      obtain ⟨tail, rfl⟩ := hothers.head
      exact skipSpace_cons blank' rfl _
    rw [List.append_assoc, List.append_assoc, List.cons_append, List.append_assoc,
      readMembers_member hvalues spells (by omega) (blank.ends (ends_cons (by simp) _)),
      skipSpace_cons blank rfl]
    simp only [hskip, hmembers members others rest hothers (by omega)]
    rfl

/-- One unit of fuel more is enough for a value with all its parts. -/
private theorem readsValues_succ (hitems : ReadsItems fuel) (hmembers : ReadsMembers fuel) :
    ReadsValues (fuel + 1) := by
  intro v cs rest h hrest hfuel
  -- the first character tells what kind of value it is, except for words and numbers
  cases h with
  | word mem => exact readValue_word mem fuel rest
  | number spells => exact readValue_number spells hrest fuel
  | negative spells => exact readValue_negative spells hrest fuel
  | @text s body spells =>
    rw [List.cons_append, List.append_assoc, List.singleton_append, readValue.eq_2,
      readString?_spelled spells rest]
  | @emptyList gap blank =>
    rw [List.cons_append, List.append_assoc, List.singleton_append, readValue.eq_3,
      skipSpace_cons blank rfl]
    rfl
  | @list gap cs items blank spells =>
    simp only [List.length_cons, List.length_append] at hfuel
    have hskip := (spells.starts.append rest).skipSpace blank
    have hread := hitems items cs rest spells (by omega)
    obtain ⟨c, tail, rfl, -, hc⟩ := spells.starts
    rw [List.cons_append, List.append_assoc, readValue.eq_3, hskip]
    split
    · -- items do not start with the bracket
      rename_i heq
      exact absurd (List.cons.inj heq).1 hc
    · rw [hread]
      rfl
  | @emptyObject gap blank =>
    rw [List.cons_append, List.append_assoc, List.singleton_append, readValue.eq_4,
      skipSpace_cons blank rfl]
    rfl
  | @object gap cs members blank spells =>
    simp only [List.length_cons, List.length_append] at hfuel
    have hread := hmembers members cs rest spells (by omega)
    obtain ⟨tail, rfl⟩ := spells.head
    rw [List.cons_append] at hread
    rw [List.cons_append, List.append_assoc, readValue.eq_4, List.cons_append,
      skipSpace_cons blank rfl]
    split
    · -- members do not start with the brace
      rename_i heq
      cases heq
    · rw [hread]
      rfl

/-! ### Texts -/

/-- Any amount of fuel is enough for the values that have so few characters. -/
theorem reads_all (fuel : Nat) : ReadsValues fuel ∧ ReadsItems fuel ∧ ReadsMembers fuel := by
  -- values, items and members take turns, so the three statements are proved together
  induction fuel with
  | zero =>
    -- there is no value, no item and no member without a character
    refine ⟨?_, ?_, ?_⟩
    · intro v cs rest h _ hfuel
      obtain ⟨c, tail, rfl, -⟩ := h.starts
      cases hfuel
    · intro items cs rest h hfuel
      obtain ⟨c, tail, rfl, -⟩ := h.starts
      cases hfuel
    · intro members cs rest h hfuel
      obtain ⟨tail, rfl⟩ := h.head
      cases hfuel
  | succ fuel ih =>
    obtain ⟨hvalues, hitems, hmembers⟩ := ih
    exact ⟨readsValues_succ hitems hmembers, readsItems_succ hvalues hitems,
      readsMembers_succ hvalues hmembers⟩

/-- A text with a value and blanks around it is read as the value. -/
theorem read_spelled {v : Value} {before after : List Char} (h : Spells v cs)
    (hbefore : IsGap before) (hafter : IsGap after) :
    read (String.ofList (before ++ (cs ++ after))) = .ok v := by
  have hskip := (h.starts.append after).skipSpace hbefore
  -- blanks may follow the value, and nothing else
  have hends : Ends after := by
    have hnil : Ends [] := nofun
    simpa using hafter.ends hnil
  -- the fuel that the reader starts with is enough
  have hvalue := (reads_all (2 * (before ++ (cs ++ after)).length + 2)).1 v cs after h hends
    (by simp only [List.length_append]; omega)
  have hrest : skipSpace after = [] := List.dropWhile_eq_nil_iff.2 hafter
  rw [read, String.toList_ofList]
  simp only [hskip, hvalue, bind, Except.bind, hrest]
  rfl

end SharedTables.Json
