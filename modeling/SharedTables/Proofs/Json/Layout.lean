import Mathlib
import SharedTables.Proofs.Json.Document
import SharedTables.Proofs.Json.Reading
import SharedTables.Proofs.Json.Writing

/-!
# Values on several lines

A value on several lines is a JSON document exactly if there is no infinity in it and nothing that
is not a number, for which JSON has no form.  The reader knows the words that stand for these, so
it reads back what was written in any case.

## Key results

- `toList_writeAt_list`, `toList_writeAt_object`: the layout of lists and objects, in the grammar
- `isValue_writeAt`: values that hold finite numbers only are written as documents
- `closed_writeAt`, `exists_isForeign`: strings end where they should, so that the words for other
  numbers stand outside of them
- `isDocument_write_iff`: when a document is written
- `read_write`: what is written is read as the value
-/

namespace SharedTables

namespace Value

/-- What lists and objects take over from their parts holds of all values. -/
@[elab_as_elim]
theorem induction {P : Value → Prop} (null : P .null) (bool : ∀ b, P (.bool b))
    (int : ∀ n, P (.int n)) (float : ∀ x, P (.float x)) (text : ∀ s, P (.text s))
    (date : ∀ d, P (.date d)) (moment : ∀ m, P (.moment m))
    (list : ∀ items, (∀ v ∈ items, P v) → P (.list items))
    (object : ∀ members, (∀ m ∈ members, P m.2) → P (.object members)) (v : Value) : P v := by
  refine Value.rec (motive_2 := fun items => ∀ v ∈ items, P v)
    (motive_3 := fun members => ∀ m ∈ members, P m.2) (motive_4 := fun m => P m.2)
    null bool int float text date moment list object ?_ ?_ ?_ ?_ ?_ v
  · exact List.forall_mem_nil _
  · exact fun _ _ hv hitems => List.forall_mem_cons.2 ⟨hv, hitems⟩
  · exact List.forall_mem_nil _
  · exact fun _ _ hm hmembers => List.forall_mem_cons.2 ⟨hm, hmembers⟩
  · exact fun _ _ hv => hv

/-- There is an infinity in the value, or what is not a number. -/
inductive HoldsNonFinite : Value → Prop
  | float {x : Binary} (not_finite : x.isFinite = false) : HoldsNonFinite (.float x)
  | item {v : Value} {items : List Value} (mem : v ∈ items) (holds : HoldsNonFinite v) :
      HoldsNonFinite (.list items)
  | member {m : String × Value} {members : Members} (mem : m ∈ members)
      (holds : HoldsNonFinite m.2) : HoldsNonFinite (.object members)

/-- In a number there is what the number is. -/
theorem holdsNonFinite_float_iff {x : Binary} :
    (float x).HoldsNonFinite ↔ x.isFinite = false := by
  constructor
  · rintro ⟨not_finite⟩
    exact not_finite
  · exact .float

/-- In a list there is what is in one of its items. -/
theorem holdsNonFinite_list_iff {items : List Value} :
    (list items).HoldsNonFinite ↔ ∃ v ∈ items, v.HoldsNonFinite := by
  constructor
  · intro h
    cases h with
    | item mem holds => exact ⟨_, mem, holds⟩
  · rintro ⟨v, hv, h⟩
    exact .item hv h

/-- In an object there is what is in the value of one of its members. -/
theorem holdsNonFinite_object_iff {members : Members} :
    (object members).HoldsNonFinite ↔ ∃ m ∈ members, m.2.HoldsNonFinite := by
  constructor
  · intro h
    cases h with
    | member mem holds => exact ⟨_, mem, holds⟩
  · rintro ⟨m, hm, h⟩
    exact .member hm h

end Value

namespace Json

/-! ### The layout -/

/-- Every item is written on a line of its own. -/
private theorem writeItems_eq_map (level : Nat) (items : List Value) :
    writeItems level items = items.map fun v => newLine level ++ writeAt level v := by
  induction items with
  | nil => rfl
  | cons v rest ih => rw [writeItems, ih, List.map_cons]

/-- Every member is written on a line of its own, after its name. -/
private theorem writeMembers_eq_map (level : Nat) (members : List (String × Value)) :
    writeMembers level members = members.map fun m =>
      newLine level ++ writeString false m.1 ++ ": " ++ writeAt level m.2 := by
  induction members with
  | nil => rfl
  | cons m rest ih => rw [writeMembers, ih, List.map_cons]

/-- A line break with its indentation consists of blanks. -/
theorem isGap_newLine (level : Nat) : IsGap (newLine level).toList := by
  intro c hc
  have hblank : c = '\n' ∨ level ≠ 0 ∧ c = ' ' := by simpa [newLine] using hc
  rcases hblank with rfl | ⟨-, rfl⟩ <;> rfl

/-- A blank is one. -/
private theorem isGap_space : IsGap [' '] := by
  intro c hc
  rw [List.mem_singleton.1 hc]
  rfl

/-- An item on lines of its own. -/
def itemAt (level : Nat) (v : Value) : Spaced :=
  ⟨(newLine level).toList, (writeAt level v).toList, []⟩

/-- A member on lines of its own. -/
def memberAt (level : Nat) (m : String × Value) : Named :=
  ⟨(newLine level).toList, m.1.toList.flatMap (escapeChar false), [],
    ⟨[' '], (writeAt level m.2).toList, []⟩⟩

/-- What stands before the bracket that closes a list or an object. -/
def closingGap {α : Type} (level : Nat) (parts : List α) : List Char :=
  if parts = [] then [] else (newLine level).toList

/-- What stands before the closing bracket are blanks. -/
private theorem isGap_closingGap {α : Type} (level : Nat) (parts : List α) :
    IsGap (closingGap level parts) := by
  unfold closingGap
  split
  · exact isGap_nil
  · exact isGap_newLine level

/-- What stands around an item are blanks. -/
private theorem blank_itemAt (level : Nat) (v : Value) : (itemAt level v).Blank :=
  ⟨isGap_newLine level, isGap_nil⟩

/-- A list is written as brackets around its items, with commas in between. -/
theorem toList_writeAt_list (level : Nat) (items : List Value) :
    (writeAt level (.list items)).toList =
      '[' :: (List.intercalate [','] ((items.map (itemAt (level + 1))).map Spaced.text) ++
        (closingGap level items ++ [']'])) := by
  have htexts : (items.map fun v => newLine (level + 1) ++ writeAt (level + 1) v).map
      String.toList = (items.map (itemAt (level + 1))).map Spaced.text := by
    simp [itemAt, Spaced.text]
  cases items with
  -- an empty list has its brackets side by side
  | nil => simp [writeAt, closingGap]
  | cons v rest =>
    rw [writeAt, writeItems_eq_map]
    simp only [String.toList_append, String.toList_intercalate, htexts, closingGap,
      List.append_assoc]
    rfl

/-- An object is written as braces around its members, with commas in between. -/
theorem toList_writeAt_object (level : Nat) (members : Members) :
    (writeAt level (.object members)).toList =
      '{' :: (List.intercalate [','] ((members.map (memberAt (level + 1))).map Named.text) ++
        (closingGap level members ++ ['}'])) := by
  have htexts : (members.map fun m =>
      newLine (level + 1) ++ writeString false m.1 ++ ": " ++ writeAt (level + 1) m.2).map
      String.toList = (members.map (memberAt (level + 1))).map Named.text := by
    simp [memberAt, Named.text, Spaced.text, writeString]
  cases members with
  -- an object is laid out as a list of its members is
  | nil => simp [writeAt, closingGap]
  | cons m rest =>
    rw [writeAt, writeMembers_eq_map]
    simp only [String.toList_append, String.toList_intercalate, htexts, closingGap,
      List.append_assoc]
    rfl

/-! ### Strings and numbers -/

/-- What is written between the quotes of a string is the body of one. -/
private theorem isBody_escape (s : String) : IsBody (s.toList.flatMap (escapeChar false)) :=
  (spellsChars_escape false s.toList).isBody

/-- What stands around a member and its value are blanks. -/
private theorem blank_memberAt (level : Nat) (m : String × Value) : (memberAt level m).Blank :=
  ⟨isGap_newLine level, isBody_escape m.1, isGap_nil, isGap_space, isGap_nil⟩

/-- An integer is written as a number, with a minus sign or without a sign. -/
private theorem isNumber_intText (n : Int) : IsNumber (intText n).toList := by
  have hnumber := IsNumber.intro (Number.signText_eq (decide (n < 0))) (isWhole_natText n.natAbs)
    (List.forall_mem_nil _) .missing
  rw [toList_intText]
  simpa [fractionText] using hnumber

/-- A finite number is written as one. -/
private theorem isNumber_float {x : Binary} (h : x.isFinite = true) :
    IsNumber (FloatStyle.json.write Binary.double x).toList := by
  cases x with
  | nan => cases h
  | infinite => cases h
  | finite negative m e =>
    -- the shortest decimal of the number is written, with its sign in front
    obtain ⟨_, _, -, hspells⟩ :=
      spellsDecimal_writeDecimal negative FloatStyle.json (Binary.double.shortest m e)
    have hnumber := hspells.isNumber (Number.signText_eq negative)
    cases negative <;> simpa [FloatStyle.write, Number.signText] using hnumber

/-- Other numbers are words without quotes that no document has. -/
private theorem isForeign_float {x : Binary} (h : x.isFinite = false) :
    '"' ∉ (FloatStyle.json.write Binary.double x).toList ∧
      ∃ c ∈ (FloatStyle.json.write Binary.double x).toList, IsForeign c := by
  cases x with
  | nan => exact ⟨by decide, 'N', by decide, .inr rfl⟩
  | infinite negative => cases negative <;> exact ⟨by decide, 'I', by decide, .inl rfl⟩
  | finite => cases h

/-! ### Documents -/

/-- A text in quotes is a value. -/
private theorem isValue_writeString (s : String) : IsValue (writeString false s).toList := by
  have hstring := IsValue.string (isBody_escape s)
  simpa [writeString] using hstring

/-- Values that hold finite numbers only are written as the grammar of documents asks for. -/
theorem isValue_writeAt {v : Value} (h : ¬ v.HoldsNonFinite) :
    ∀ level, IsValue (writeAt level v).toList := by
  -- lists and objects take over from their parts, one level further in
  induction v using Value.induction with
  | null => exact fun _ => .word (by simp [writeAt])
  | bool b =>
    intro level
    cases b <;> exact .word (by simp [writeAt])
  | int n => exact fun _ => .number (isNumber_intText n)
  | float x =>
    intro level
    -- a number that is not finite would be held by the value
    have hfinite : x.isFinite = true := by
      by_contra hx
      exact h (.float (by simpa using hx))
    exact .number (isNumber_float hfinite)
  | text s =>
    intro level
    exact isValue_writeString s
  | date d =>
    intro level
    exact isValue_writeString d.text
  | moment m =>
    intro level
    exact isValue_writeString m.text
  | list items ih =>
    intro level
    rw [toList_writeAt_list]
    refine .list ?_ ?_ (isGap_closingGap level items)
    · exact List.forall_mem_map.2 fun v _ => blank_itemAt _ v
    · intro s hs
      obtain ⟨v, hv, rfl⟩ := List.mem_map.1 hs
      exact ih v hv (fun hholds => h (.item hv hholds)) _
  | object members ih =>
    intro level
    rw [toList_writeAt_object]
    refine .object ?_ ?_ (isGap_closingGap level members)
    · exact List.forall_mem_map.2 fun m _ => blank_memberAt _ m
    · intro n hn
      obtain ⟨m, hm, rfl⟩ := List.mem_map.1 hn
      exact ih m hm (fun hholds => h (.member hm hholds)) _

/-- The strings of a value end where they should, whatever numbers there are. -/
theorem closed_writeAt (v : Value) : ∀ level, Closed (writeAt level v).toList := by
  -- the grammar is of no use where a number is not finite, so the parts are gone through again
  induction v using Value.induction with
  | null | bool | int | text | date | moment =>
    -- what is in the grammar of documents closes its strings
    refine fun level => (isValue_writeAt ?_ level).not_isForeign.1
    rintro ⟨⟩
  | float x =>
    intro level
    -- the words for other numbers are not, but there are no quotes in them
    cases hx : x.isFinite with
    | false => exact (closed_of_notMem (isForeign_float hx).1).1
    | true => exact (IsValue.number (isNumber_float hx)).not_isForeign.1
  | list items ih =>
    intro level
    rw [toList_writeAt_list]
    refine (bare_brackets ?_ (isGap_closingGap level items) (by decide) (by decide)).1
    simp only [List.forall_mem_map]
    exact fun v hv => (Spaced.bare_text (blank_itemAt _ v) (ih v hv _)).1
  | object members ih =>
    intro level
    rw [toList_writeAt_object]
    refine (bare_brackets ?_ (isGap_closingGap level members) (by decide) (by decide)).1
    simp only [List.forall_mem_map]
    exact fun m hm => (Named.bare_text (blank_memberAt _ m) (ih m hm _)).1

/-- The strings of an item end in it. -/
private theorem closed_itemAt (level : Nat) (v : Value) : Closed (itemAt level v).text :=
  (Spaced.bare_text (blank_itemAt level v) (closed_writeAt v level)).1

/-- The strings of a member end in it. -/
private theorem closed_memberAt (level : Nat) (m : String × Value) : Closed
    (memberAt level m).text :=
  (Named.bare_text (blank_memberAt level m) (closed_writeAt m.2 level)).1

/-- A character of one of the texts between commas. -/
private theorem mem_intercalate {texts : List (List Char)} {t : List Char} {c : Char}
    (ht : t ∈ texts)
    (hc : c ∈ t) : c ∈ List.intercalate [','] texts := by
  induction texts with
  | nil => exact absurd ht List.not_mem_nil
  | cons u rest ih =>
    -- the last text has no comma after it
    cases rest with
    | nil => simpa [List.mem_singleton.1 ht] using hc
    | cons w rest =>
      rw [List.intercalate_cons_cons, List.mem_append]
      rcases List.mem_cons.1 ht with rfl | ht
      · exact .inl (List.mem_append_left _ hc)
      · exact .inr (ih ht)

/-- What stands outside of the strings of a part stands outside of the strings of the whole. -/
private theorem mem_bare_brackets {texts : List (List Char)} {t gap : List Char}
    {first last c : Char}
    (h : ∀ t ∈ texts, Closed t) (hgap : IsGap gap) (hfirst : first ≠ '"') (hlast : last ≠ '"')
    (ht : t ∈ texts) (hc : c ∈ bare .outside t) :
    c ∈ bare .outside (first :: (List.intercalate [','] texts ++ (gap ++ [last]))) := by
  rw [(bare_brackets h hgap hfirst hlast).2]
  exact List.mem_cons_of_mem _
    (List.mem_append_left _ (mem_intercalate (List.mem_map_of_mem ht) hc))

/-- The words for numbers that are not finite stand outside of strings. -/
theorem exists_isForeign {v : Value} (h : v.HoldsNonFinite) :
    ∀ level, ∃ c ∈ bare .outside (writeAt level v).toList, IsForeign c := by
  -- the induction leads from the number that is not finite outward to the whole value
  induction h with
  | @float x not_finite =>
    intro level
    obtain ⟨hquote, hforeign⟩ := isForeign_float not_finite
    rw [writeAt, (closed_of_notMem hquote).2]
    exact hforeign
  | @item v items mem _ ih =>
    intro level
    obtain ⟨c, hc, hforeign⟩ := ih (level + 1)
    refine ⟨c, ?_, hforeign⟩
    rw [toList_writeAt_list]
    refine mem_bare_brackets ?_ (isGap_closingGap level items) (by decide) (by decide)
      (List.mem_map_of_mem (List.mem_map_of_mem mem)) ?_
    · simp only [List.forall_mem_map]
      exact fun w _ => closed_itemAt _ w
    · rw [(Spaced.bare_text (blank_itemAt _ v) (closed_writeAt v _)).2]
      simp [itemAt, hc]
  | @member m members mem _ ih =>
    intro level
    obtain ⟨c, hc, hforeign⟩ := ih (level + 1)
    refine ⟨c, ?_, hforeign⟩
    rw [toList_writeAt_object]
    -- what stands outside of strings in a part stands outside of strings in the whole
    refine mem_bare_brackets ?_ (isGap_closingGap level members) (by decide) (by decide)
      (List.mem_map_of_mem (List.mem_map_of_mem mem)) ?_
    · simp only [List.forall_mem_map]
      exact fun n _ => closed_memberAt _ n
    · have hblank := blank_memberAt (level + 1) m
      have hclosed := closed_writeAt m.2 (level + 1)
      rw [(Named.bare_text hblank hclosed).2, (Spaced.bare_text hblank.item hclosed).2]
      simp [memberAt, hc]

/-- A document is written exactly if all numbers are finite. -/
theorem isDocument_write_iff {v : Value} {after : List Char} (hafter : IsGap after) :
    IsDocument ((write v).toList ++ after) ↔ ¬ v.HoldsNonFinite := by
  constructor
  · intro hdocument hholds
    obtain ⟨c, hc, hforeign⟩ := exists_isForeign hholds 0
    refine hdocument.not_isForeign c ?_ hforeign
    rw [write, closed_writeAt v 0]
    exact List.mem_append_left _ hc
  · intro hfinite
    exact ⟨⟨[], (write v).toList, after⟩, rfl, ⟨isGap_nil, hafter⟩, isValue_writeAt hfinite 0⟩

/-! ### Reading it again -/

/-- A gap before every part, or before the first one and after every comma. -/
private theorem intercalate_gap {α : Type} (gap : String) (texts : α → String) {parts : List α}
    (hne : parts ≠ []) : String.intercalate "," (parts.map fun a => gap ++ texts a) =
      gap ++ String.intercalate ("," ++ gap) (parts.map texts) := by
  -- the gap in front of every part but the first goes into the separator
  induction parts with
  | nil => exact absurd rfl hne
  | cons a rest ih =>
    cases rest with
    | nil => simp
    | cons b rest =>
      have hrest := ih (List.cons_ne_nil b rest)
      simp only [List.map_cons] at hrest
      simp only [List.map_cons, String.intercalate_cons_cons, hrest, String.append_assoc]

/-- What is written on several lines spells the value. -/
private theorem Writable.spells_writeAt {v : Value} (h : Writable v) :
    ∀ level, Spells v (writeAt level v).toList := by
  -- again lists and objects take over from their parts, one level further in
  induction h with
  | null => exact fun _ => .word (by simp [words, writeAt])
  | @bool b =>
    intro level
    cases b <;> exact .word (by simp [words, writeAt])
  | int length_le => exact fun _ => spells_intText length_le
  | float stores => exact fun _ => spells_float stores
  | @text s =>
    intro level
    have htext := Spells.text (s := s) (spellsChars_escape false s.toList)
    simpa [writeAt, writeString] using htext
  | @list items _ ih =>
    intro level
    cases items with
    | nil => simpa [writeAt] using Spells.emptyList isGap_nil
    | cons v rest =>
      have hlist := Spells.list (isGap_newLine (level + 1))
        (spellsItems_intercalate (isGap_newLine (level + 1)) (isGap_newLine level)
          (List.cons_ne_nil v rest) fun v hv => ih v hv (level + 1))
      rw [writeAt, writeItems_eq_map, intercalate_gap _ _ (List.cons_ne_nil v rest)]
      simpa using hlist
  | @object members nodup _ ih =>
    intro level
    cases members with
    | nil => simpa [writeAt] using Spells.emptyObject isGap_nil
    | cons m rest =>
      have hmember : ∀ n ∈ m :: rest, SpellsMember n
          (writeString false n.1 ++ ": " ++ writeAt (level + 1) n.2).toList := by
        intro n hn
        have hmember := SpellsMember.intro (spellsChars_escape false n.1.toList) isGap_nil
          isGap_space (ih n hn (level + 1))
        simpa [writeString] using hmember
      have hobject := Spells.object (isGap_newLine (level + 1))
        (spellsMembers_intercalate (isGap_newLine (level + 1)) (isGap_newLine level)
          (List.cons_ne_nil m rest) hmember)
      -- no name comes up twice, so the members that are read are the members
      rw [Members.ofPairs_of_nodup nodup] at hobject
      rw [writeAt, writeMembers_eq_map]
      simp only [String.append_assoc]
      rw [intercalate_gap _ _ (List.cons_ne_nil m rest)]
      simpa [String.append_assoc] using hobject

/-- What is written on several lines is read as the value. -/
theorem read_write {v : Value} (h : Writable v) {after : String} (hafter : IsGap after.toList) :
    read (write v ++ after) = .ok v := by
  have hread := read_spelled (h.spells_writeAt 0) isGap_nil hafter
  rwa [List.nil_append, String.ofList_append, String.ofList_toList, String.ofList_toList] at hread

end Json

end SharedTables
