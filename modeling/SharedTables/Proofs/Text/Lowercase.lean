import Mathlib
import SharedTables.Text.Lowercase
import SharedTables.Text.Substring

/-!
# Lower case of parts of a text

All characters but one are lower-cased by themselves.  A capital sigma looks at the characters
around it, so the lower case of a part of a text may differ from that part of the lower case of the
text.  `Wavering` says which parts can differ: those with a capital sigma that reaches, past
case-ignorable characters, an end of the part behind which there may be a letter or not.

## Key results

- `lowerAfter_append`: the lower case of a text by its parts
- `occursIn_lowercase`: a part that does not waver stays a part in lower case
- `exists_missed_of_wavering`: one that wavers is a part of a text in whose lower case it is none
-/

namespace SharedTables.Text

/-- Whether the search for the end of a word passes over the character. -/
def isIgnorable (c : Char) : Bool :=
  CodeRange.covers caseIgnorableRanges c

/-- Whether a capital sigma between two parts of a text is at the end of a word depends on what
    surrounds the text: on what is before it, as in front of the sigma there are only case-ignorable
    characters, or on what is after it. -/
def SigmaWavers (front back : List Char) : Prop :=
  (front.all isIgnorable = true ∧ startsCased back = false) ∨
    (startsCased front.reverse = true ∧ back.all isIgnorable = true)

/-- The text has such a capital sigma. -/
def Wavering (cs : List Char) : Prop :=
  ∃ front back, cs = front ++ '\u03a3' :: back ∧ SigmaWavers front back

/-- The small letters of a character between others, those before it nearest first. -/
def smallOf (before : List Char) (c : Char) (after : List Char) : List Char :=
  if c = '\u03a3' then
    if startsCased before && !startsCased after then ['\u03c2'] else ['\u03c3']
  else lowerChar c

/-- The small letters of a text between others, those before it nearest first. -/
def lowerWithin (before after : List Char) : List Char → List Char
  | [] => []
  | c :: rest => smallOf before c (rest ++ after) ++ lowerWithin (c :: before) after rest

variable {before before' after after' : List Char}

/-! ### Letters around a sigma -/

/-- Only where the characters in front are all case-ignorable does it matter what comes next. -/
private theorem startsCased_append (cs after : List Char) : startsCased (cs ++ after) =
    if cs.all isIgnorable then startsCased after else startsCased cs := by
  -- the characters in front are passed over one by one as long as they are case-ignorable
  induction cs with
  | nil => rfl
  | cons c rest ih =>
    rw [List.cons_append, List.all_cons]
    cases hc : isIgnorable c with
    | false =>
      have hstop : ∀ ds, startsCased (c :: ds) = CodeRange.covers casedRanges c := by
        intro ds
        rw [startsCased, List.dropWhile_cons_of_neg]
        exact Bool.eq_false_iff.1 hc
      rw [hstop, hstop, Bool.false_and, if_neg Bool.false_ne_true]
    | true =>
      have hpass : ∀ ds, startsCased (c :: ds) = startsCased ds := by
        intro ds
        rw [startsCased, List.dropWhile_cons_of_pos (by exact hc), startsCased]
      rw [hpass, hpass, ih, Bool.true_and]

/-- Among case-ignorable characters there is no letter. -/
private theorem startsCased_of_ignorable {cs : List Char} (h : cs.all isIgnorable = true) :
    startsCased cs = false := by
  have happend := startsCased_append cs []
  rw [List.append_nil, if_pos h] at happend
  exact happend.trans rfl

/-- What comes next matters as far as it starts with a letter or not. -/
private theorem startsCased_append_congr (h : startsCased after = startsCased after')
    (cs : List Char) :
    startsCased (cs ++ after) = startsCased (cs ++ after') := by
  rw [startsCased_append, startsCased_append, h]

/-! ### Lower case by parts -/

/-- A text is lower-cased character by character. -/
private theorem lowerAfter_cons (before : List Char) (c : Char) (rest : List Char) :
    lowerAfter before (c :: rest) = smallOf before c rest ++ lowerAfter (c :: before) rest := rfl

/-- The lower case of a text by its parts. -/
theorem lowerAfter_append (before cs after : List Char) : lowerAfter before (cs ++ after) =
    lowerWithin before after cs ++ lowerAfter (cs.reverse ++ before) after := by
  induction cs generalizing before with
  | nil => rfl
  | cons c rest ih =>
    rw [List.cons_append, lowerAfter_cons, ih, lowerWithin, List.reverse_cons, List.append_assoc,
      List.append_assoc, List.singleton_append]

/-- A text by itself has nothing around it. -/
private theorem lowerAfter_eq_lowerWithin (before cs : List Char) :
    lowerAfter before cs = lowerWithin before [] cs := by
  have h := lowerAfter_append before cs []
  rwa [List.append_nil, lowerAfter, List.append_nil] at h

/-- Of what surrounds a text it matters on each side whether there is a letter next. -/
private theorem lowerWithin_congr (hbefore : startsCased before = startsCased before')
    (hafter : startsCased after = startsCased after') (cs : List Char) :
    lowerWithin before after cs = lowerWithin before' after' cs := by
  induction cs generalizing before before' with
  | nil => rfl
  | cons c rest ih =>
    have hnext : startsCased (c :: before) = startsCased (c :: before') :=
      startsCased_append_congr hbefore [c]
    rw [lowerWithin, lowerWithin, ih hnext, smallOf, smallOf, hbefore,
      startsCased_append_congr hafter]

/-- Without a capital sigma nothing that surrounds a text matters. -/
private theorem lowerWithin_of_not_mem {cs : List Char} (h : '\u03a3' ∉ cs) :
    lowerWithin before after cs = cs.flatMap lowerChar := by
  induction cs generalizing before with
  | nil => rfl
  | cons c rest ih =>
    rw [List.mem_cons, not_or] at h
    rw [lowerWithin, ih h.2, smallOf, if_neg (Ne.symm h.1), List.flatMap_cons]

/-- A capital sigma is not case-ignorable. -/
private theorem not_isIgnorable_sigma : isIgnorable '\u03a3' = false := by
  decide +kernel

/-- There is no capital sigma among case-ignorable characters. -/
private theorem sigma_not_mem_of_ignorable {cs : List Char} (h : cs.all isIgnorable = true) :
    '\u03a3' ∉ cs := by
  intro hmem
  have := List.all_eq_true.1 h _ hmem
  rw [not_isIgnorable_sigma] at this
  cases this

/-- A capital sigma is a letter, whatever comes after it. -/
private theorem startsCased_sigma (cs : List Char) : startsCased ('\u03a3' :: cs) = true := by
  have h := startsCased_append ['\u03a3'] cs
  rw [List.all_cons, not_isIgnorable_sigma, Bool.false_and, if_neg Bool.false_ne_true] at h
  exact h.trans (by decide +kernel)

/-! ### Texts that do not waver -/

/-- What surrounds a sigma that does not reach an end of the text does not matter to it. -/
private theorem sigma_steady {front back : List Char} (h : ¬ SigmaWavers front back)
    (before after : List Char) :
    (startsCased (front.reverse ++ before) && !startsCased (back ++ after)) =
      (startsCased front.reverse && !startsCased back) := by
  rw [startsCased_append, startsCased_append, List.all_reverse]
  cases hfront : front.all isIgnorable with
  | true =>
    -- nothing but a letter after the sigma keeps it from being the last of a word
    have hstart := startsCased_of_ignorable (List.all_reverse.trans hfront)
    have hback : startsCased back = true := by
      simpa [SigmaWavers, hfront, hstart] using h
    have hnot : back.all isIgnorable = false := by
      rw [Bool.eq_false_iff]
      intro hall
      rw [startsCased_of_ignorable hall] at hback
      cases hback
    simp [hstart, hback, hnot]
  | false =>
    -- a letter before the sigma, and then it depends on what is after it
    cases hback : back.all isIgnorable with
    | false => simp
    | true =>
      have hstart : startsCased front.reverse = false := by
        simpa [SigmaWavers, hfront, hback] using h
      simp [hstart]

/-- A text that does not waver is lower-cased in one way, whatever surrounds it. -/
private theorem lowerWithin_of_not_wavering {cs : List Char} (h : ¬ Wavering cs)
    (before after : List Char) : lowerWithin before after cs = lowerAfter [] cs := by
  rw [lowerAfter_eq_lowerWithin]
  -- the induction is on what is left of the text, after some of it
  suffices hrest : ∀ rest front, cs = front ++ rest →
      lowerWithin (front.reverse ++ before) after rest = lowerWithin front.reverse [] rest from
    hrest cs [] rfl
  intro rest
  induction rest with
  | nil => exact fun front _ => rfl
  | cons c rest ih =>
    intro front hcs
    have htail := ih (front ++ [c]) (by rw [hcs, List.append_assoc, List.singleton_append])
    rw [List.reverse_append, List.reverse_singleton, List.singleton_append, List.cons_append]
      at htail
    rw [lowerWithin, lowerWithin, htail, List.append_nil]
    congr 1
    -- a capital sigma does not waver here, any other character looks at nothing around it
    by_cases hc : c = '\u03a3'
    · subst hc
      have hsteady := sigma_steady (fun hbad => h ⟨front, rest, hcs, hbad⟩) before after
      rw [smallOf, smallOf, if_pos rfl, if_pos rfl, hsteady]
    · rw [smallOf, smallOf, if_neg hc, if_neg hc]

/-- A part of a text that does not waver stays a part in lower case. -/
theorem occursIn_lowercase {part text : String} (h : ¬ Wavering part.toList)
    (hpart : part.toList <:+: text.toList) :
    occursIn (lowercase part).toList (lowercase text).toList = true := by
  obtain ⟨front, back, htext⟩ := hpart
  rw [occursIn_iff, lowercase, lowercase, String.toList_ofList, String.toList_ofList, ← htext,
    List.append_assoc, lowerAfter_append, lowerAfter_append, lowerWithin_of_not_wavering h]
  exact ⟨_, _, (List.append_assoc ..).symm⟩

/-! ### Texts that waver -/

/-- A part of a text has each character at most as often as the text. -/
private theorem count_le_of_occursIn {part text : List Char} (h : occursIn part text = true)
    (c : Char) :
    part.count c ≤ text.count c := by
  obtain ⟨before, after, rfl⟩ := occursIn_iff.1 h
  rw [List.count_append, List.count_append]
  omega

/-- A sigma in front of which there are only case-ignorable characters looks at what is before the
    text; what comes after the sigma does not. -/
private theorem lowerAfter_front {front : List Char} (h : front.all isIgnorable = true)
    (before back : List Char) : lowerAfter before (front ++ '\u03a3' :: back) =
      front.flatMap lowerChar ++
        (smallOf (front.reverse ++ before) '\u03a3' back ++ lowerAfter ['\u03a3'] back) := by
  have hback : lowerAfter ('\u03a3' :: (front.reverse ++ before)) back =
      lowerAfter ['\u03a3'] back := by
    rw [lowerAfter_eq_lowerWithin, lowerAfter_eq_lowerWithin]
    exact lowerWithin_congr ((startsCased_sigma _).trans (startsCased_sigma _).symm) rfl back
  rw [lowerAfter_append, lowerWithin_of_not_mem (sigma_not_mem_of_ignorable h), lowerAfter_cons,
    hback]

/-- A sigma after which there are only case-ignorable characters looks at what is after the text;
    what comes before the sigma does not. -/
private theorem lowerAfter_back {back : List Char} (h : back.all isIgnorable = true)
    (front after : List Char) : lowerAfter [] (front ++ '\u03a3' :: (back ++ after)) =
      lowerWithin [] ['\u03a3'] front ++
        (smallOf front.reverse '\u03a3' (back ++ after) ++ (back.flatMap lowerChar ++
          lowerAfter (back.reverse ++ '\u03a3' :: front.reverse) after)) := by
  rw [lowerAfter_append, lowerAfter_cons, lowerAfter_append,
    lowerWithin_of_not_mem (sigma_not_mem_of_ignorable h), List.append_nil]
  -- to what is in front of the sigma there is a letter next, whatever comes after that
  congr 1
  exact lowerWithin_congr rfl ((startsCased_sigma _).trans (startsCased_sigma _).symm) front

/-- A capital sigma is final after a letter and before none. -/
private theorem smallOf_sigma (before after : List Char) : smallOf before '\u03a3' after =
    if startsCased before && !startsCased after then ['\u03c2'] else ['\u03c3'] :=
  if_pos rfl

/-- A text that wavers is a part of one in whose lower case it is none: there one of its capital
    sigmas is written in the other way. -/
theorem exists_missed_of_wavering {part : String} (h : Wavering part.toList) :
    ∃ text : String, part.toList <:+: text.toList ∧
      occursIn (lowercase part).toList (lowercase text).toList = false := by
  have hletter : startsCased ['a'] = true := by decide +kernel
  obtain ⟨front, back, hpart, ⟨hfront, hback⟩ | ⟨hfront, hback⟩⟩ := h
  · -- a letter in front makes the sigma the last of a word
    refine ⟨String.ofList ('a' :: part.toList), ?_, ?_⟩
    · rw [String.toList_ofList]
      exact (List.suffix_cons ..).isInfix
    · have halone : lowerAfter [] part.toList = front.flatMap lowerChar ++
          (['\u03c3'] ++ lowerAfter ['\u03a3'] back) := by
        rw [hpart, lowerAfter_front hfront, smallOf_sigma, List.append_nil,
          startsCased_of_ignorable (List.all_reverse.trans hfront)]
        rfl
      have hafter : lowerAfter ['a'] part.toList = front.flatMap lowerChar ++
          (['\u03c2'] ++ lowerAfter ['\u03a3'] back) := by
        rw [hpart, lowerAfter_front hfront, smallOf_sigma, startsCased_append, List.all_reverse,
          if_pos hfront, hletter, hback]
        rfl
      have htext : lowerAfter [] ('a' :: part.toList) = 'a' :: lowerAfter ['a'] part.toList := rfl
      -- the text has one small sigma fewer than the part
      rw [Bool.eq_false_iff]
      intro hoccurs
      have hcount := count_le_of_occursIn hoccurs '\u03c3'
      rw [lowercase, lowercase, String.toList_ofList, String.toList_ofList, String.toList_ofList,
        htext, halone, hafter] at hcount
      simp at hcount
  · -- a letter behind keeps the sigma from being the last of a word
    refine ⟨String.ofList (part.toList ++ ['a']), ?_, ?_⟩
    · rw [String.toList_ofList]
      exact (List.prefix_append ..).isInfix
    · have halone : lowerAfter [] part.toList = lowerWithin [] ['\u03a3'] front ++
          (['\u03c2'] ++ back.flatMap lowerChar) := by
        have h := lowerAfter_back hback front []
        rw [List.append_nil, smallOf_sigma, hfront, startsCased_of_ignorable hback] at h
        rw [hpart, h, lowerAfter, List.append_nil]
        rfl
      have hbefore : lowerAfter [] (part.toList ++ ['a']) = lowerWithin [] ['\u03a3'] front ++
          (['\u03c3'] ++ (back.flatMap lowerChar ++ ['a'])) := by
        rw [hpart, List.append_assoc, List.cons_append, lowerAfter_back hback, smallOf_sigma,
          hfront, startsCased_append, if_pos hback, hletter]
        rfl
      -- the text has one final sigma fewer than the part
      rw [Bool.eq_false_iff]
      intro hoccurs
      have hcount := count_le_of_occursIn hoccurs '\u03c2'
      rw [lowercase, lowercase, String.toList_ofList, String.toList_ofList, String.toList_ofList,
        halone, hbefore] at hcount
      simp at hcount

end SharedTables.Text
