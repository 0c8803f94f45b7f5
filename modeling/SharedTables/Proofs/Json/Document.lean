import Mathlib
import SharedTables.Proofs.Json.Grammar

/-!
# JSON documents

The grammar of RFC 8259, which is about texts alone: what may be passed from one program to another
as JSON.  It is stricter than the reader, which also accepts words for numbers that are none, and
wider, since a document may hold integers of any length and halves of surrogate pairs.

Strings may hold any character, so what a document cannot hold has to be looked for outside of them.
There a document has no letters but those of its three words and of exponents.

## Key results

- `bare_brackets`: what stands outside of the strings of a list or an object
- `IsDocument.not_isForeign`: no document has an `I` or an `N` outside of its strings
-/

namespace SharedTables.Json

/-! ### The grammar -/

/-- A number: maybe a sign, a whole part, maybe a fraction and maybe an exponent. -/
inductive IsNumber : List Char → Prop
  | intro {sign whole fraction exponent : List Char} {e : Option Int}
      (sign_eq : sign = [] ∨ sign = ['-']) (digits : IsWhole whole)
      (fraction_digits : ∀ c ∈ fraction, c.isDigit = true) (spells : SpellsExponent e exponent) :
      IsNumber (sign ++ (whole ++ (fractionText fraction ++ exponent)))

/-- What stands between the quotes of a string. -/
inductive IsBody : List Char → Prop
  | nil : IsBody []
  | plain {c : Char} {body : List Char} (quote : c ≠ '"') (backslash : c ≠ '\\')
      (printed : 0x20 ≤ c.toNat) (rest : IsBody body) : IsBody (c :: body)
  | letter {l : Char} {body : List Char} (mem : l ∈ ['"', '\\', '/', 'b', 'f', 'n', 'r', 't'])
      (rest : IsBody body) : IsBody ('\\' :: l :: body)
  | code {a b c d : Char} {body : List Char}
      (hex : ∀ x ∈ [a, b, c, d], (Text.hexValue? x).isSome = true) (rest : IsBody body) :
      IsBody ('\\' :: 'u' :: a :: b :: c :: d :: body)

/-- A text with blanks around it. -/
structure Spaced where
  before : List Char
  value : List Char
  after : List Char

namespace Spaced

/-- The characters of it. -/
def text (s : Spaced) : List Char :=
  s.before ++ (s.value ++ s.after)

/-- What is around it are blanks. -/
structure Blank (s : Spaced) : Prop where
  before : IsGap s.before
  after : IsGap s.after

end Spaced

/-- A name between quotes and a value, with blanks around them. -/
structure Named where
  before : List Char
  name : List Char
  between : List Char
  item : Spaced

namespace Named

/-- The characters of it. -/
def text (n : Named) : List Char :=
  n.before ++ ('"' :: (n.name ++ ['"']) ++ (n.between ++ (':' :: n.item.text)))

/-- What is around them are blanks, and the name can stand between quotes. -/
structure Blank (n : Named) : Prop where
  before : IsGap n.before
  name : IsBody n.name
  between : IsGap n.between
  item : n.item.Blank

end Named

/-- A value as it may be written. -/
inductive IsValue : List Char → Prop
  | word {cs : List Char} (mem : cs ∈ ["true".toList, "false".toList, "null".toList]) : IsValue cs
  | number {cs : List Char} (number : IsNumber cs) : IsValue cs
  | string {body : List Char} (stands : IsBody body) : IsValue ('"' :: (body ++ ['"']))
  | list {items : List Spaced} {gap : List Char} (blanks : ∀ s ∈ items, s.Blank)
      (values : ∀ s ∈ items, IsValue s.value) (blank : IsGap gap) :
      IsValue ('[' :: (List.intercalate [','] (items.map Spaced.text) ++ (gap ++ [']'])))
  | object {members : List Named} {gap : List Char} (blanks : ∀ n ∈ members, n.Blank)
      (values : ∀ n ∈ members, IsValue n.item.value) (blank : IsGap gap) :
      IsValue ('{' :: (List.intercalate [','] (members.map Named.text) ++ (gap ++ ['}'])))

/-- A whole text: one value with blanks around it. -/
def IsDocument (cs : List Char) : Prop :=
  ∃ s : Spaced, cs = s.text ∧ s.Blank ∧ IsValue s.value

/-! ### Strings and numbers -/

/-- The letters that stand for characters after a backslash. -/
private theorem mem_of_escaped? {l c : Char} (h : escaped? l = some c) :
    l ∈ ['"', '\\', '/', 'b', 'f', 'n', 'r', 't'] := by
  unfold escaped? at h
  split at h
  case h_9 => cases h
  all_goals simp

/-- Whatever a string holds can stand between its quotes. -/
theorem SpellsChars.isBody {cs body : List Char} (h : SpellsChars cs body) : IsBody body := by
  -- all four characters of a code have values as hexadecimal digits
  have hcode : ∀ {n : Nat} {code body : List Char}, SpellsCode n code → IsBody body →
      IsBody (code ++ body) := by
    intro n code body hspells hbody
    obtain @⟨a, b, c, d, _, hex⟩ := hspells
    simp only [hexCode?, Option.bind_eq_bind, Option.bind_eq_some_iff] at hex
    obtain ⟨_, ha, _, hb, _, hc, _, hd, -⟩ := hex
    exact .code (by simp [ha, hb, hc, hd]) hbody
  induction h with
  | nil => exact .nil
  | plain quote backslash printed _ ih => exact .plain quote backslash printed ih
  | letter escaped _ ih => exact .letter (mem_of_escaped? escaped) ih
  | code spells _ _ ih => exact hcode spells ih
  | pair first second _ _ _ ih => exact hcode first (hcode second ih)

/-- There is no line end between the quotes of a string. -/
theorem IsBody.noNewline {body : List Char} (h : IsBody body) : '\n' ∉ body := by
  induction h with
  | nil => exact List.not_mem_nil
  | plain quote backslash printed _ ih =>
    rw [List.mem_cons, not_or]
    refine ⟨?_, ih⟩
    -- a line end is a control character
    rintro rfl
    exact absurd printed (by decide)
  | letter mem _ ih =>
    simp only [List.mem_cons, not_or]
    refine ⟨by decide, ?_, ih⟩
    rintro rfl
    exact absurd mem (by decide)
  | @code a b c d body hex _ ih =>
    -- a line end is no hexadecimal digit
    have hcode : '\n' ∉ [a, b, c, d] := fun hmem => absurd (hex _ hmem) (by decide)
    simp only [List.mem_cons, List.not_mem_nil, or_false, not_or] at hcode
    simp [hcode, ih]

/-- A sign in front of what is written without one. -/
theorem SpellsNumber.isNumber {negative : Bool} {v : Value} {cs : List Char}
    (h : SpellsNumber negative v cs) {sign : List Char} (hsign : sign = [] ∨ sign = ['-']) :
    IsNumber (sign ++ cs) := by
  cases h with
  | integer digits =>
    have hnumber := IsNumber.intro hsign digits (List.forall_mem_nil _) .missing
    simpa [fractionText] using hnumber
  | decimal digits fraction_digits spells =>
    exact .intro hsign digits fraction_digits spells

/-- What holds of digits and of the marks of numbers holds of all characters of a number. -/
private theorem IsNumber.forall_mem {P : Char → Prop} (hdigit : ∀ c, c.isDigit = true → P c)
    (hmark : ∀ c ∈ ['-', '+', '.', 'e', 'E'], P c) {cs : List Char} (h : IsNumber cs) :
    ∀ c ∈ cs, P c := by
  obtain ⟨hsign, hdigits, hfraction, hexponent⟩ := h
  simp only [List.forall_mem_cons] at hmark
  obtain ⟨hminus, hplus, hpoint, hsmall, hlarge, -⟩ := hmark
  simp only [List.forall_mem_append]
  -- the sign, the whole part, the fraction and the exponent
  refine ⟨?_, ?_, ?_, ?_⟩
  · rcases hsign with rfl | rfl
    · simp
    · simpa using hminus
  · rcases hdigits with rfl | ⟨hdigits, -⟩
    · simpa using hdigit '0' (by decide)
    · exact fun c hc => hdigit c (hdigits.2 c hc)
  · -- a fraction is a point and digits, or nothing
    unfold fractionText
    split
    · simp
    · simp only [List.forall_mem_cons]
      exact ⟨hpoint, fun c hc => hdigit c (hfraction c hc)⟩
  · cases hexponent with
    | missing => simp
    | plain letter digits | plus letter digits | minus letter digits =>
      have hdigits := fun c hc => hdigit c (digits.2 c hc)
      rcases letter with rfl | rfl <;> simp only [List.forall_mem_cons]
      all_goals tauto

/-- A number has no other characters. -/
theorem IsNumber.notMem {c : Char} (hdigit : c.isDigit = false)
    (hmark : c ∉ ['-', '+', '.', 'e', 'E']) {cs : List Char} (h : IsNumber cs) : c ∉ cs := by
  intro hmem
  refine h.forall_mem (P := (· ≠ c)) ?_ ?_ c hmem rfl
  · rintro _ hd rfl
    rw [hd] at hdigit
    cases hdigit
  · rintro _ hd rfl
    exact hmark hd

/-! ### Outside of strings -/

/-- Where a character stands: outside of strings, inside of one, or after a backslash there. -/
inductive Place where
  | outside | inside | escaped
deriving DecidableEq

/-- The characters of a text that stand outside of strings. -/
def bare : Place → List Char → List Char
  | _, [] => []
  | .outside, c :: rest =>
    if c = '"' then bare .inside rest else c :: bare .outside rest
  | .inside, c :: rest =>
    if c = '"' then bare .outside rest
    else if c = '\\' then bare .escaped rest
    else bare .inside rest
  | .escaped, _ :: rest => bare .inside rest

example : bare .outside "[\"a\\\"I\", 1]".toList = "[, 1]".toList := by decide

/-- The strings of a text end in it, so that what follows it is outside of them. -/
def Closed (cs : List Char) : Prop :=
  ∀ rest, bare .outside (cs ++ rest) = bare .outside cs ++ bare .outside rest

/-- There are no strings in an empty text. -/
private theorem closed_nil : Closed [] := by
  intro rest
  rfl

/-- Outside of strings a character counts unless a string starts with it. -/
private theorem bare_outside {c : Char} (hc : c ≠ '"') (rest : List Char) :
    bare .outside (c :: rest) = c :: bare .outside rest := by
  rw [bare, if_neg hc]

/-- Inside of a string a character neither counts nor ends it. -/
private theorem bare_inside {c : Char} (hquote : c ≠ '"') (hbackslash : c ≠ '\\')
    (rest : List Char) : bare .inside (c :: rest) = bare .inside rest := by
  rw [bare, if_neg hquote, if_neg hbackslash]

/-- What follows a backslash does not end a string either. -/
private theorem bare_escape (c : Char) (rest : List Char) :
    bare .inside ('\\' :: c :: rest) = bare .inside rest := rfl

/-- A quote outside of strings starts one. -/
private theorem bare_open (rest : List Char) : bare .outside
    ('"' :: rest) = bare .inside rest := rfl

/-- A quote inside of a string ends it. -/
private theorem bare_close (rest : List Char) : bare .inside
    ('"' :: rest) = bare .outside rest := rfl

/-- A character in front that is no quote changes nothing about the strings. -/
theorem Closed.cons {c : Char} (hc : c ≠ '"') {cs : List Char} (h : Closed cs) :
    Closed (c :: cs) := by
  intro rest
  rw [List.cons_append, bare_outside hc, bare_outside hc, h, List.cons_append]

/-- Two texts whose strings end in them are together such a text. -/
theorem Closed.append {cs ds : List Char} (hcs : Closed cs) (hds : Closed ds) :
    Closed (cs ++ ds) := by
  intro rest
  rw [List.append_assoc, hcs, hds, hcs, List.append_assoc]

/-- All of a text without quotes stands outside of strings. -/
theorem closed_of_notMem {cs : List Char} (h : '"' ∉ cs) : Closed cs ∧ bare .outside cs = cs := by
  induction cs with
  | nil => exact ⟨closed_nil, rfl⟩
  | cons c cs ih =>
    rw [List.mem_cons, not_or] at h
    obtain ⟨hclosed, hbare⟩ := ih h.2
    refine ⟨hclosed.cons (Ne.symm h.1), ?_⟩
    rw [bare_outside (Ne.symm h.1), hbare]

/-- There are no quotes among blanks. -/
theorem IsGap.notMem {gap : List Char} (h : IsGap gap) : '"' ∉ gap := by
  intro hmem
  exact absurd (h _ hmem) (by decide)

/-- A string ends at the quote after its body. -/
private theorem IsBody.bare_append {body : List Char} (h : IsBody body) (rest : List Char) :
    bare .inside (body ++ '"' :: rest) = bare .outside rest := by
  -- characters of the string are passed over one by one, escapes as a whole
  induction h with
  | nil => exact bare_close rest
  | plain quote backslash printed _ ih =>
    rw [List.cons_append, bare_inside quote backslash]
    exact ih
  | letter _ _ ih => exact ih
  | @code a b c d body hex _ ih =>
    -- hexadecimal digits neither end the string nor escape what follows
    have hinside : ∀ x ∈ [a, b, c, d], ∀ rest, bare .inside (x :: rest) = bare .inside rest := by
      intro x hx rest
      refine bare_inside ?_ ?_ rest
      · rintro rfl
        exact absurd (hex _ hx) (by decide)
      · rintro rfl
        exact absurd (hex _ hx) (by decide)
    simp only [List.forall_mem_cons] at hinside
    obtain ⟨ha, hb, hc, hd, -⟩ := hinside
    simp only [List.cons_append]
    rw [bare_escape, ha, hb, hc, hd]
    exact ih

/-- Nothing of a string stands outside of it. -/
theorem IsBody.closed {body : List Char} (h : IsBody body) :
    Closed ('"' :: (body ++ ['"'])) ∧ bare .outside ('"' :: (body ++ ['"'])) = [] := by
  have hopen : ∀ rest, bare .outside ('"' :: (body ++ ['"'] ++ rest)) = bare .outside rest := by
    intro rest
    rw [bare_open, List.append_assoc]
    exact h.bare_append rest
  -- with nothing after the string nothing is left at all
  have hnone : bare .outside ('"' :: (body ++ ['"'])) = [] := by
    have hend := hopen []
    rwa [List.append_nil] at hend
  refine ⟨?_, hnone⟩
  intro rest
  rw [hnone, List.cons_append, hopen, List.nil_append]

/-- Texts with commas between them. -/
private theorem bare_intercalate {texts : List (List Char)} (h : ∀ t ∈ texts, Closed t) :
    Closed (List.intercalate [','] texts) ∧ bare .outside (List.intercalate [','] texts) =
      List.intercalate [','] (texts.map (bare .outside)) := by
  induction texts with
  | nil => exact ⟨closed_nil, rfl⟩
  | cons t rest ih =>
    rw [List.forall_mem_cons] at h
    cases rest with
    | nil => simpa using h.1
    | cons u rest =>
      obtain ⟨hclosed, hbare⟩ := ih h.2
      -- the first text is left behind before the comma, which is no quote
      have hcomma := hclosed.cons (show ',' ≠ '"' by decide)
      rw [List.intercalate_cons_cons, List.append_assoc, List.singleton_append, h.1,
        bare_outside (by decide), hbare]
      refine ⟨h.1.append hcomma, ?_⟩
      simp [List.intercalate_cons_cons]

/-- Texts with commas between them and brackets around them. -/
theorem bare_brackets {texts : List (List Char)} {gap : List Char} {first last : Char}
    (h : ∀ t ∈ texts, Closed t) (hgap : IsGap gap) (hfirst : first ≠ '"') (hlast : last ≠ '"') :
    Closed (first :: (List.intercalate [','] texts ++ (gap ++ [last]))) ∧
      bare .outside (first :: (List.intercalate [','] texts ++ (gap ++ [last]))) =
        first :: (List.intercalate [','] (texts.map (bare .outside)) ++ (gap ++ [last])) := by
  -- gaps and brackets hold no quotes
  have hquote : '"' ∉ gap ++ [last] := by
    rw [List.mem_append, List.mem_singleton, not_or]
    exact ⟨hgap.notMem, Ne.symm hlast⟩
  obtain ⟨hclosed, hbare⟩ := bare_intercalate h
  obtain ⟨hend, hendBare⟩ := closed_of_notMem hquote
  refine ⟨(hclosed.append hend).cons hfirst, ?_⟩
  rw [bare_outside hfirst, hclosed, hbare, hendBare]

/-- Only the value between its blanks is looked into. -/
theorem Spaced.bare_text {s : Spaced} (hblank : s.Blank) (h : Closed s.value) :
    Closed s.text ∧
      bare .outside s.text = s.before ++ (bare .outside s.value ++ s.after) := by
  obtain ⟨hbefore, hbareBefore⟩ := closed_of_notMem hblank.before.notMem
  obtain ⟨hafter, hbareAfter⟩ := closed_of_notMem hblank.after.notMem
  refine ⟨hbefore.append (h.append hafter), ?_⟩
  rw [text, hbefore, h, hbareBefore, hbareAfter]

/-- Nothing of the name stands outside of strings. -/
theorem Named.bare_text {n : Named} (hblank : n.Blank) (h : Closed n.item.value) :
    Closed n.text ∧ bare .outside n.text =
      n.before ++ (n.between ++ (':' :: bare .outside n.item.text)) := by
  obtain ⟨hbefore, hbareBefore⟩ := closed_of_notMem hblank.before.notMem
  obtain ⟨hbetween, hbareBetween⟩ := closed_of_notMem hblank.between.notMem
  obtain ⟨hname, hbareName⟩ := hblank.name.closed
  obtain ⟨hitem, -⟩ := Spaced.bare_text hblank.item h
  have hcolon := hitem.cons (show ':' ≠ '"' by decide)
  refine ⟨hbefore.append (hname.append (hbetween.append hcolon)), ?_⟩
  rw [text, hbefore, hname, hbetween, bare_outside (show ':' ≠ '"' by decide) n.item.text,
    hbareBefore, hbareName, hbareBetween, List.nil_append]

/-! ### What no document holds -/

/-- The first letters of the words for infinities and for what is not a number. -/
def IsForeign (c : Char) : Prop :=
  c = 'I' ∨ c = 'N'

instance (c : Char) : Decidable (IsForeign c) :=
  inferInstanceAs (Decidable (c = 'I' ∨ c = 'N'))

/-- A character between commas is one of the texts between them. -/
private theorem exists_of_mem_intercalate {texts : List (List Char)} {c : Char}
    (h : c ∈ List.intercalate [','] texts) : c = ',' ∨ ∃ t ∈ texts, c ∈ t := by
  induction texts with
  | nil => exact absurd h List.not_mem_nil
  | cons t rest ih =>
    cases rest with
    | nil => exact .inr ⟨t, by simp, by simpa using h⟩
    | cons u rest =>
      rw [List.intercalate_cons_cons, List.append_assoc, List.mem_append, List.singleton_append,
        List.mem_cons] at h
      -- in the first text, the comma, or further on
      rcases h with h | rfl | h
      · exact .inr ⟨t, by simp, h⟩
      · exact .inl rfl
      · rcases ih h with rfl | ⟨v, hv, hc⟩
        · exact .inl rfl
        · exact .inr ⟨v, List.mem_cons_of_mem _ hv, hc⟩

/-- There are no letters among blanks. -/
theorem IsGap.not_isForeign {gap : List Char} (h : IsGap gap) : ∀ c ∈ gap, ¬ IsForeign c := by
  rintro c hc (rfl | rfl)
  · exact absurd (h _ hc) (by decide)
  · exact absurd (h _ hc) (by decide)

/-- Brackets around texts that hold nothing foreign. -/
private theorem not_isForeign_brackets {texts : List (List Char)} {gap : List Char}
    {first last : Char}
    (h : ∀ t ∈ texts, Closed t ∧ ∀ c ∈ bare .outside t, ¬ IsForeign c) (hgap : IsGap gap)
    (hfirst : first ≠ '"' ∧ ¬ IsForeign first) (hlast : last ≠ '"' ∧ ¬ IsForeign last) :
    Closed (first :: (List.intercalate [','] texts ++ (gap ++ [last]))) ∧
      ∀ c ∈ bare .outside (first :: (List.intercalate [','] texts ++ (gap ++ [last]))),
        ¬ IsForeign c := by
  obtain ⟨hclosed, hbare⟩ := bare_brackets (fun t ht => (h t ht).1) hgap hfirst.1 hlast.1
  refine ⟨hclosed, ?_⟩
  rw [hbare]
  simp only [List.forall_mem_cons, List.forall_mem_append]
  refine ⟨hfirst.2, ?_, hgap.not_isForeign, hlast.2, by simp⟩
  intro c hc
  -- it is a comma, or it stands outside of the strings of one of the texts
  rcases exists_of_mem_intercalate hc with rfl | ⟨t', ht', hc'⟩
  · decide
  · obtain ⟨t, ht, rfl⟩ := List.mem_map.1 ht'
    exact (h t ht).2 c hc'

/-- A value has nothing foreign outside of its strings. -/
theorem IsValue.not_isForeign {cs : List Char} (h : IsValue cs) :
    Closed cs ∧ ∀ c ∈ bare .outside cs, ¬ IsForeign c := by
  -- the parts of lists and objects bring nothing foreign with them, and neither does what is around
  induction h with
  | word mem =>
    simp only [List.mem_cons, List.not_mem_nil, or_false] at mem
    rcases mem with rfl | rfl | rfl
    all_goals
      rw [(closed_of_notMem (by decide)).2]
      exact ⟨(closed_of_notMem (by decide)).1, by simp [IsForeign]⟩
  | number number =>
    -- a number has no quotes, so that all of it stands outside of strings
    obtain ⟨hclosed, hbare⟩ := closed_of_notMem (number.notMem (by decide) (by decide))
    rw [hbare]
    refine ⟨hclosed, ?_⟩
    rintro c hc (rfl | rfl)
    · exact number.notMem (by decide) (by decide) hc
    · exact number.notMem (by decide) (by decide) hc
  -- of a string nothing is left outside
  | string stands =>
    rw [stands.closed.2]
    exact ⟨stands.closed.1, by simp⟩
  | list blanks _ blank ih =>
    refine not_isForeign_brackets ?_ blank (by decide) (by decide)
    intro t ht
    obtain ⟨s, hs, rfl⟩ := List.mem_map.1 ht
    obtain ⟨hclosed, hbare⟩ := Spaced.bare_text (blanks s hs) (ih s hs).1
    rw [hbare]
    simp only [List.forall_mem_append]
    exact ⟨hclosed, (blanks s hs).before.not_isForeign, (ih s hs).2,
      (blanks s hs).after.not_isForeign⟩
  -- a member is a name, of which nothing is left, a colon and a value
  | object blanks _ blank ih =>
    refine not_isForeign_brackets ?_ blank (by decide) (by decide)
    intro t ht
    obtain ⟨n, hn, rfl⟩ := List.mem_map.1 ht
    obtain ⟨hclosed, hbare⟩ := Named.bare_text (blanks n hn) (ih n hn).1
    have hitem := (Spaced.bare_text (blanks n hn).item (ih n hn).1).2
    rw [hbare, hitem]
    simp only [List.forall_mem_append, List.forall_mem_cons]
    exact ⟨hclosed, (blanks n hn).before.not_isForeign, (blanks n hn).between.not_isForeign,
      by decide, (blanks n hn).item.before.not_isForeign, (ih n hn).2,
      (blanks n hn).item.after.not_isForeign⟩

/-- No document has an `I` or an `N` outside of its strings. -/
theorem IsDocument.not_isForeign {cs : List Char} (h : IsDocument cs) :
    ∀ c ∈ bare .outside cs, ¬ IsForeign c := by
  obtain ⟨s, rfl, hblank, hvalue⟩ := h
  obtain ⟨hclosed, hvalue⟩ := hvalue.not_isForeign
  rw [(Spaced.bare_text hblank hclosed).2]
  simp only [List.forall_mem_append]
  exact ⟨hblank.before.not_isForeign, hvalue, hblank.after.not_isForeign⟩

end SharedTables.Json
