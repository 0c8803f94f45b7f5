import Mathlib
import SharedTables.Json.Writer
import SharedTables.Proofs.Json.Document
import SharedTables.Proofs.Number.IntText
import SharedTables.Proofs.Number.Stored
import SharedTables.Proofs.Predicate.Rendering

/-!
# What is written spells the value

Values are written as the grammar asks for: characters are escaped by letters and codes that stand
for them, integers have no needless zeros, and a floating-point number is nearest to its digits.
What is written on one line has no line end in it, whatever the value holds.

## Key results

- `spellsChars_escape`: any text can be written between quotes
- `spells_intText`, `spells_float`: numbers are spelled, with an exponent or without
- `Writable.spells`: what is written on one line spells the value
- `Writable.noNewline`: and it is one line
-/

namespace SharedTables

/-- Members whose names are all different are what their pairs describe. -/
theorem Members.ofPairs_of_nodup {pairs : List (String × Value)}
    (h : (pairs.map Prod.fst).Nodup) : ofPairs pairs = pairs := by
  -- a name that is new is added at the end
  have hinsert : ∀ (ms : Members) (name : String) (v : Value), name ∉ ms.map Prod.fst →
      ms.insert name v = ms ++ [(name, v)] := by
    intro ms name v hname
    induction ms with
    | nil => rfl
    | cons m rest ih =>
      rw [List.map_cons, List.mem_cons, not_or] at hname
      rw [insert, if_neg (Ne.symm hname.1), ih hname.2, List.cons_append]
  -- the pairs go to the end one by one
  induction pairs using List.reverseRecOn with
  | nil => rfl
  | append_singleton pairs m ih =>
    rw [List.map_append, List.nodup_append] at h
    have hname : m.1 ∉ pairs.map Prod.fst := fun hmem => h.2.2 _ hmem _ (by simp) rfl
    have hpairs := ih h.1
    rw [ofPairs, merge] at hpairs
    rw [ofPairs, merge, List.foldl_append, hpairs]
    exact hinsert pairs m.1 m.2 hname

namespace Json

/-! ### Strings -/

/-- The hexadecimal digits have their values. -/
private theorem hexValue?_digitChar : ∀ d < 16, Text.hexValue? (Nat.digitChar d) = some d := by
  decide

/-- A number with 16 bits is written as a code. -/
private theorem spellsCode_codeEscape {n : Nat} (h : n < 0x10000) : SpellsCode n
    (codeEscape n) := by
  refine .intro ?_
  have hvalue : ∀ m, Text.hexValue? (Nat.digitChar (m % 16)) = some (m % 16) :=
    fun m => hexValue?_digitChar _ (Nat.mod_lt _ (by decide))
  rw [hexCode?, hvalue, hvalue, hvalue, hvalue]
  simp only [Option.bind_eq_bind, Option.bind_some, Option.pure_def, Option.some.injEq]
  omega

/-- The code of a character is no half of a surrogate pair. -/
private theorem toNat_valid (c : Char) :
    (c.toNat < 0xd800 ∨ 0xe000 ≤ c.toNat) ∧ c.toNat < 0x110000 := by
  have h : c.toNat < 0xd800 ∨ 0xdfff < c.toNat ∧ c.toNat < 0x110000 := c.valid
  omega

/-- A character beyond ASCII can be written by its codes. -/
theorem SpellsChars.wide {cs body : List Char} (h : SpellsChars cs body) (c : Char) :
    SpellsChars (c :: cs) (escapeWide c.toNat ++ body) := by
  obtain ⟨hwhole, hlt⟩ := toNat_valid c
  rw [escapeWide]
  split
  · -- a character of 16 bits has one code
    rename_i hsmall
    have hcode := SpellsChars.code (spellsCode_codeEscape hsmall) hwhole h
    rwa [Char.ofNat_toNat] at hcode
  · rename_i hlarge
    -- the character is a pair of its upper and its lower ten bits
    have hchar : 0x10000 + (c.toNat - 0x10000) / 0x400 * 0x400 + (c.toNat - 0x10000) % 0x400 =
        c.toNat := by omega
    have hpair := SpellsChars.pair (m := (c.toNat - 0x10000) / 0x400)
      (n := (c.toNat - 0x10000) % 0x400) (spellsCode_codeEscape (by omega))
      (spellsCode_codeEscape (by omega)) (by omega) (by omega) h
    rwa [hchar, Char.ofNat_toNat, ← List.append_assoc] at hpair

/-- Any text can be written between quotes. -/
theorem spellsChars_escape (ascii : Bool) (cs : List Char) :
    SpellsChars cs (cs.flatMap (escapeChar ascii)) := by
  induction cs with
  | nil => exact .nil
  | cons c cs ih =>
    rw [List.flatMap_cons, escapeChar]
    split_ifs with _ _ _ _ _ _ _ hcontrol _
    -- seven characters are written by letters
    any_goals
      subst c
      exact .letter rfl ih
    · -- the other control characters are written by codes
      have hcode := SpellsChars.code (spellsCode_codeEscape (n := c.toNat) (by omega))
        (.inl (by omega)) ih
      rwa [Char.ofNat_toNat] at hcode
    · exact ih.wide c
    · exact .plain ‹_› ‹_› (by omega) ih

/-! ### Numbers -/

/-- Only zero starts with a zero. -/
private theorem head?_natText_ne {n : Nat} (h : n ≠ 0) : (natText n).toList.head? ≠ some '0' := by
  obtain ⟨c, ds, hcons⟩ := List.exists_cons_of_ne_nil (natText_ne_nil n)
  rw [hcons]
  rintro hhead
  obtain rfl : c = '0' := Option.some.inj hhead
  have hdigits : ∀ c ∈ ds, c.isDigit = true :=
    fun c hc => isDigit_of_mem_natText (n := n) (hcons ▸ List.mem_cons_of_mem _ hc)
  have hvalue : Text.digitsValue ds = n := by
    rw [← Text.digitsValue_natText n, hcons, Text.digitsValue_cons]
    simp
  -- the other digits are too few for the number
  have hlt := Text.digitsValue_lt hdigits
  rw [hvalue] at hlt
  cases ds with
  | nil => exact h (Nat.lt_one_iff.1 hlt)
  | cons d ds =>
    have hlength := (length_natText_le_iff (Nat.succ_pos ds.length)).2 hlt
    rw [← String.length_toList, hcons] at hlength
    simp at hlength

/-- The digits of a number are a whole part. -/
theorem isWhole_natText (n : Nat) : IsWhole (natText n).toList := by
  by_cases h : n = 0
  · subst h
    exact .inl rfl
  · exact .inr ⟨isDigits_natText n, head?_natText_ne h⟩

/-- Zeros in front of digits keep their value. -/
private theorem digits_padZeros (width n : Nat) :
    IsDigits (padZeros width (natText n)).toList ∧
      Text.digitsValue (padZeros width (natText n)).toList = n := by
  rw [padZeros, String.toList_append, String.toList_ofList]
  refine ⟨((isDigits_natText n).append_of_digits fun c => isDigit_of_mem_zeros).2, ?_⟩
  · rw [Text.digitsValue_append, Text.digitsValue_zeros, Text.digitsValue_natText]
    omega

/-- An integer that does not have too many digits is spelled by them and its sign. -/
theorem spells_intText {n : Int} (h : (natText n.natAbs).length ≤ maxIntegerDigits) :
    Spells (.int n) (intText n).toList := by
  rw [← String.length_toList] at h
  have hnumber : ∀ negative, SpellsNumber negative
      (.int (Binary.signed negative n.natAbs)) (natText n.natAbs).toList := by
    intro negative
    have hinteger := @SpellsNumber.integer negative _ (isWhole_natText n.natAbs) h
    rwa [Text.digitsValue_natText] at hinteger
  have hsigned := signed_natAbs n
  rw [toList_intText]
  -- the sign is read by itself, and what follows it as a number without sign
  by_cases hn : n < 0
  · rw [decide_eq_true hn] at hsigned ⊢
    have hspells := Spells.negative (hnumber true)
    rwa [hsigned] at hspells
  · rw [decide_eq_false hn] at hsigned ⊢
    have hspells := Spells.number (hnumber false)
    rwa [hsigned] at hspells

/-- The text is a number with a fraction or an exponent that has the given value. -/
def SpellsDecimal (negative : Bool) (q : ℚ) (cs : List Char) : Prop :=
  ∃ (c : Nat) (k : Int), (c : ℚ) * 10 ^ k = q ∧
    SpellsNumber negative (.float (Binary.double.ofDecimal negative c k)) cs

/-- A point among the digits of a number. -/
private theorem spellsDecimal_withPoint (negative : Bool) {n : Nat} (hn : n ≠ 0) (before : Int) :
    SpellsDecimal negative (n * 10 ^ (before - (natText n).length))
      (FloatStyle.withPoint (natText n) before).toList := by
  obtain ⟨whole, digits, htext, hwhole, hdigits, hvalue, hhead⟩ :=
    Predicate.withPoint_text n before
  -- digits before the point are a zero, or start as the number does
  have hwhole' : IsWhole whole := by
    obtain hzero | hfirst := hhead
    · exact .inl hzero
    · refine .inr ⟨hwhole, ?_⟩
      rw [hfirst]
      exact head?_natText_ne hn
  -- there is no exponent, so the digits after the point give the power of ten
  have hspells := @SpellsNumber.decimal negative whole digits [] none hwhole'
    hdigits.2 .missing (.inl hdigits.1)
  rw [fractionText, if_neg hdigits.1, List.append_nil, Option.getD_none, Int.zero_sub] at hspells
  rw [htext, ← hvalue, Predicate.decimalValue_eq]
  exact ⟨_, _, rfl, hspells⟩

/-- A text with an exponent is a digit, the others as a fraction, and the exponent with its sign. -/
private theorem toList_withExponent (style : FloatStyle) {text : String} {c : Char}
    {tail : List Char}
    (h : text.toList = c :: tail) (leading : Int) :
    (style.withExponent text leading).toList = [c] ++ (fractionText tail ++
      'e' :: (if leading < 0 then '-' else '+') ::
        (padZeros style.exponentWidth (natText leading.natAbs)).toList) := by
  have htail : (text.drop 1).toString.isEmpty = decide (tail = []) := by
    rw [← Bool.coe_iff_coe]
    simp [← String.toList_eq_nil_iff, h]
  rw [FloatStyle.withExponent]
  simp only [htail]
  by_cases hnil : tail = [] <;> by_cases hneg : leading < 0 <;> simp [hnil, hneg, h, fractionText]

/-- A point after the first digit of a number, and an exponent. -/
private theorem spellsDecimal_withExponent (negative : Bool) (style : FloatStyle) {n : Nat}
    (hn : n ≠ 0)
    (leading : Int) :
    SpellsDecimal negative (n * 10 ^ (leading - ((natText n).length - 1)))
      (style.withExponent (natText n) leading).toList := by
  obtain ⟨c, tail, hcons⟩ := List.exists_cons_of_ne_nil (natText_ne_nil n)
  have hdigits : ∀ d ∈ c :: tail, d.isDigit = true :=
    fun d hd => isDigit_of_mem_natText (n := n) (hcons ▸ hd)
  rw [List.forall_mem_cons] at hdigits
  -- the first digit is not zero, since the number is not
  have hwhole : IsWhole [c] := by
    refine .inr ⟨⟨by simp, by simpa using hdigits.1⟩, ?_⟩
    have hhead := head?_natText_ne hn
    rwa [hcons] at hhead
  obtain ⟨hexponent, hvalue⟩ := digits_padZeros style.exponentWidth leading.natAbs
  -- the sign and the digits of the exponent are its value
  have hspells : SpellsExponent (some leading) ('e' :: (if leading < 0 then '-' else '+') ::
      (padZeros style.exponentWidth (natText leading.natAbs)).toList) := by
    by_cases hneg : leading < 0
    · have hminus := SpellsExponent.minus (.inl rfl) hexponent
      rw [hvalue, show -(leading.natAbs : Int) = leading by omega] at hminus
      rwa [if_pos hneg]
    · have hplus := SpellsExponent.plus (.inl rfl) hexponent
      rw [hvalue, show (leading.natAbs : Int) = leading by omega] at hplus
      rwa [if_neg hneg]
  have hnumber := @SpellsNumber.decimal negative [c] tail _ _ hwhole hdigits.2 hspells
    (.inr (Option.some_ne_none leading))
  -- the point stands after the first digit and so takes its length off the exponent
  have hall : Text.digitsValue ([c] ++ tail) = n := by
    rw [List.singleton_append, ← hcons, Text.digitsValue_natText]
  have hlength : ((natText n).length : Int) - 1 = tail.length := by
    rw [← String.length_toList, hcons, List.length_cons]
    omega
  rw [hall, Option.getD_some, ← hlength, ← toList_withExponent style hcons] at hnumber
  exact ⟨_, _, rfl, hnumber⟩

/-- A decimal number is written as digits that have its value. -/
theorem spellsDecimal_writeDecimal (negative : Bool) (style : FloatStyle) (d : Decimal) :
    SpellsDecimal negative (d.digits * 10 ^ d.exponent) (style.writeDecimal d).toList := by
  rw [FloatStyle.writeDecimal]
  split
  · -- zero is written with a fraction
    rename_i hzero
    have hspells := @SpellsNumber.decimal negative ['0'] ['0'] [] none (.inl rfl) (by simp)
      .missing (.inl (by simp))
    refine ⟨_, _, ?_, hspells⟩
    simp [hzero, Text.digitsValue]
  · rename_i hnonzero
    split
    · -- the point stands among the digits
      have hpoint := spellsDecimal_withPoint negative hnonzero
        (d.exponent + (natText d.digits).length - 1 + 1)
      rwa [show d.exponent + (natText d.digits).length - 1 + 1 - (natText d.digits).length =
        d.exponent by omega] at hpoint
    · -- or there is an exponent after them
      have hexponent := spellsDecimal_withExponent negative style hnonzero
        (d.exponent + (natText d.digits).length - 1)
      rwa [show d.exponent + (natText d.digits).length - 1 - ((natText d.digits).length - 1) =
        d.exponent by omega] at hexponent

/-- A finite number is written as digits to which it is nearest. -/
private theorem spells_finite {m : Nat} {e : Int} (h : Binary.double.Holds m e) (negative : Bool) :
    Spells (.float (.finite negative m e))
      (FloatStyle.json.write Binary.double (.finite negative m e)).toList := by
  have hnumber : SpellsNumber negative (.float (.finite negative m e))
      (FloatStyle.json.writeDecimal (Binary.double.shortest m e)).toList := by
    obtain ⟨c, k, hvalue, hspells⟩ :=
      spellsDecimal_writeDecimal negative FloatStyle.json (Binary.double.shortest m e)
    -- the number is nearest to its digits, and so is what the digits are read as
    have hnear := Binary.Format.ofDecimal_isNearest Binary.Format.usual_double negative c k
    rw [hvalue] at hnear
    rwa [hnear.unique Binary.Format.usual_double
      (Binary.Format.isNearest_shortest h negative)] at hspells
  -- the minus sign stands in front of the number
  cases negative with
  | true => simpa [FloatStyle.write] using Spells.negative hnumber
  | false => simpa [FloatStyle.write] using Spells.number hnumber

/-- So is any number that is stored. -/
theorem spells_float {x : Binary} (h : Binary.double.Stores x) :
    Spells (.float x) (FloatStyle.json.write Binary.double x).toList := by
  cases x with
  | nan => exact .word (by simp [words, FloatStyle.write, FloatStyle.json])
  | infinite negative =>
    cases negative <;> exact .word (by simp [words, FloatStyle.write, FloatStyle.json])
  | finite negative m e => exact spells_finite h negative

/-! ### Values -/

/-- What can be written as JSON and read again: integers do not have too many digits, floating-point
    numbers are stored with 64 bits, and the names of the members of an object are different. -/
inductive Writable : Value → Prop
  | null : Writable .null
  | bool {b : Bool} : Writable (.bool b)
  | int {n : Int} (length_le : (natText n.natAbs).length ≤ maxIntegerDigits) : Writable (.int n)
  | float {x : Binary} (stores : Binary.double.Stores x) : Writable (.float x)
  | text {s : String} : Writable (.text s)
  | list {items : List Value} (writable : ∀ v ∈ items, Writable v) : Writable (.list items)
  | object {members : Members} (nodup : (members.map Prod.fst).Nodup)
      (writable : ∀ m ∈ members, Writable m.2) : Writable (.object members)

variable {gap : String}

/-- There need not be any blanks. -/
theorem isGap_nil : IsGap [] := nofun

/-- Items are written one by one. -/
private theorem inlineItems_eq_map (gap : String) (items : List Value) :
    inlineItems gap items = items.map (writeInline gap) := by
  induction items with
  | nil => rfl
  | cons v rest ih => rw [inlineItems, ih, List.map_cons]

/-- So are members, each after its name. -/
private theorem inlineMembers_eq_map (gap : String) (members : List (String × Value)) :
    inlineMembers gap members =
      members.map fun m => writeString true m.1 ++ ":" ++ gap ++ writeInline gap m.2 := by
  induction members with
  | nil => rfl
  | cons m rest ih => rw [inlineMembers, ih, List.map_cons]

variable {last : List Char}

/-- Items with commas and gaps between them. -/
theorem spellsItems_intercalate (hgap : IsGap gap.toList) (hlast : IsGap last)
    {texts : Value → String} {items : List Value} (hne : items ≠ [])
    (h : ∀ v ∈ items, Spells v (texts v).toList) :
    SpellsItems items
      ((String.intercalate ("," ++ gap) (items.map texts)).toList ++ (last ++ [']'])) := by
  induction items with
  | nil => exact absurd rfl hne
  | cons v rest ih =>
    rw [List.forall_mem_cons] at h
    cases rest with
    | nil =>
      -- the last item is followed by the closing bracket
      have hend := SpellsItems.last h.1 hlast
      simpa using hend
    | cons w rest =>
      -- a comma goes on with the other items, which end where the list does
      have hmore := SpellsItems.more h.1 isGap_nil hgap (ih (List.cons_ne_nil w rest) h.2)
      simpa [String.intercalate_cons_cons] using hmore

/-- Members with commas and gaps between them. -/
theorem spellsMembers_intercalate (hgap : IsGap gap.toList) (hlast : IsGap last)
    {texts : String × Value → String} {members : List (String × Value)} (hne : members ≠ [])
    (h : ∀ m ∈ members, SpellsMember m (texts m).toList) :
    SpellsMembers members
      ((String.intercalate ("," ++ gap) (members.map texts)).toList ++ (last ++ ['}'])) := by
  induction members with
  | nil => exact absurd rfl hne
  | cons m rest ih =>
    rw [List.forall_mem_cons] at h
    cases rest with
    | nil =>
      -- the last member is followed by the closing brace
      have hend := SpellsMembers.last h.1 hlast
      simpa using hend
    | cons n rest =>
      -- a comma goes on with the other members
      have hmore := SpellsMembers.more h.1 isGap_nil hgap
        (ih (List.cons_ne_nil n rest) h.2)
      simpa [String.intercalate_cons_cons] using hmore

/-- What is written on one line spells the value. -/
theorem Writable.spells {v : Value} (h : Writable v) (hgap : IsGap gap.toList) :
    Spells v (writeInline gap v).toList := by
  -- the parts of lists and objects are spelled, and so are these
  induction h with
  | null => exact .word (by simp [words, writeInline])
  | @bool b => cases b <;> exact .word (by simp [words, writeInline])
  | int length_le => exact spells_intText length_le
  | float stores => exact spells_float stores
  | @text s =>
    have htext := Spells.text (s := s) (spellsChars_escape true s.toList)
    simpa [writeInline, writeString] using htext
  | @list items _ ih =>
    rw [writeInline, inlineItems_eq_map]
    cases items with
    | nil => simpa using Spells.emptyList isGap_nil
    | cons v rest =>
      have hlist := Spells.list isGap_nil
        (spellsItems_intercalate hgap isGap_nil (List.cons_ne_nil v rest) ih)
      simpa using hlist
  | @object members nodup _ ih =>
    rw [writeInline, inlineMembers_eq_map]
    cases members with
    | nil => simpa using Spells.emptyObject isGap_nil
    | cons m rest =>
      have hmember : ∀ n ∈ m :: rest, SpellsMember n
          (writeString true n.1 ++ ":" ++ gap ++ writeInline gap n.2).toList := by
        intro n hn
        have hmember := SpellsMember.intro (spellsChars_escape true n.1.toList) isGap_nil hgap
          (ih n hn)
        simpa [writeString] using hmember
      -- no name comes up twice, so the members are those that are read
      have hobject := Spells.object isGap_nil
        (spellsMembers_intercalate hgap isGap_nil (List.cons_ne_nil m rest) hmember)
      rw [Members.ofPairs_of_nodup nodup] at hobject
      simpa using hobject

/-! ### Lines -/

/-- There is no line end in a number. -/
theorem SpellsNumber.noNewline {negative : Bool} {v : Value} {cs : List Char}
    (h : SpellsNumber negative v cs) : '\n' ∉ cs :=
  (h.isNumber (.inl rfl)).notMem (by decide) (by decide)

/-- There is no line end in words and numbers. -/
private theorem Spells.noNewline_of_plain {v : Value} {cs : List Char} (h : Spells v cs)
    (hplain : ∀ s, v ≠ .text s) (hlist : ∀ items, v ≠ .list items)
    (hobject : ∀ members, v ≠ .object members) : '\n' ∉ cs := by
  cases h with
  | word mem =>
    -- six words in all
    have hwords : ∀ word ∈ words, '\n' ∉ word.1 := by decide
    exact hwords _ mem
  | number spells => exact spells.noNewline
  | negative spells => simp [spells.noNewline]
  | text => exact absurd rfl (hplain _)
  | emptyList => exact absurd rfl (hlist _)
  | list => exact absurd rfl (hlist _)
  | emptyObject => exact absurd rfl (hobject _)
  | object => exact absurd rfl (hobject _)

/-- Parts without a line end have none together. -/
private theorem noNewline_intercalate {separator : String} {texts : List String}
    (hseparator : '\n' ∉ separator.toList) (h : ∀ t ∈ texts, '\n' ∉ t.toList) :
    '\n' ∉ (String.intercalate separator texts).toList := by
  induction texts with
  | nil => exact List.not_mem_nil
  | cons t rest ih =>
    rw [List.forall_mem_cons] at h
    -- the last part has no separator after it
    cases rest with
    | nil => simpa using h.1
    | cons u rest =>
      have hrest := ih h.2
      rw [String.intercalate_cons_cons]
      simp only [String.toList_append, List.mem_append, not_or]
      exact ⟨⟨h.1, hseparator⟩, hrest⟩

/-- What is written on one line is one line. -/
theorem Writable.noNewline {v : Value} (h : Writable v) (hgap : IsGap gap.toList)
    (hline : '\n' ∉ gap.toList) : '\n' ∉ (writeInline gap v).toList := by
  -- neither commas nor strings bring a line end with them
  have hseparator : '\n' ∉ ("," ++ gap).toList := by simp [hline]
  have hstring : ∀ s : String, '\n' ∉ (writeString true s).toList := by
    intro s
    simp [writeString, (spellsChars_escape true s.toList).isBody.noNewline]
  induction h with
  | null | bool | int | float =>
    -- the grammar alone rules a line end out
    refine Spells.noNewline_of_plain (Writable.spells ?_ hgap) nofun nofun nofun
    constructor <;> assumption
  | text => exact hstring _
  | @list items _ ih =>
    have hitems : ∀ t ∈ items.map (writeInline gap), '\n' ∉ t.toList := by
      simpa using ih
    rw [writeInline, inlineItems_eq_map]
    simp only [String.toList_append, List.mem_append, not_or]
    exact ⟨⟨by decide, noNewline_intercalate hseparator hitems⟩, by decide⟩
  | @object members nodup _ ih =>
    have hmembers : ∀ t ∈ members.map fun m =>
        writeString true m.1 ++ ":" ++ gap ++ writeInline gap m.2, '\n' ∉ t.toList := by
      intro t ht
      obtain ⟨m, hm, rfl⟩ := List.mem_map.1 ht
      simp [hstring, hline, ih m hm]
    rw [writeInline, inlineMembers_eq_map]
    simp only [String.toList_append, List.mem_append, not_or]
    exact ⟨⟨by decide, noNewline_intercalate hseparator hmembers⟩, by decide⟩

end Json

end SharedTables
