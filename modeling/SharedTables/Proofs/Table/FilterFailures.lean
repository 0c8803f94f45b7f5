import Mathlib
import SharedTables.Proofs.Table.Columns
import SharedTables.Proofs.Table.Filtering
import SharedTables.Proofs.Table.Operands

/-!
# When filters fail

The strict filter refuses a text that is no predicate, a column that is not there and a literal that
cannot be compared with its column; the lenient filter passes over all of these.  But a literal that
can be converted for its column may still be of no use, and that stops both filters with a failure
of another kind.  There may be no value for it (`Table.Unusable`): a number has more than 128 bits,
or a point in time has no date in universal time.  This is found out predicate by predicate, before
what follows is looked at.  Or rows cannot be compared with it (`Table.Undefined`): the order of an
enumeration is asked for against a text that is none of its categories, a column in a time zone is
compared with universal time, or with a reading that its clock never shows or shows twice.  This is
found out when all predicates are prepared.

## Key results

- `unusable_iff`, `undefined_iff`: which predicates can be converted and are of no use
- `result_filterLenient`: what the lenient filter comes to
- `filterLenient_documented_iff`, `filterStrict_documented_iff`: when each filter keeps some of the
  rows or refuses, and when it does not
- `filters_keep_or_refuse_iff`: both together
-/

namespace SharedTables

/-- The predicate that an item is, if it is one. -/
def FilterItem.predicate? : FilterItem → Option Predicate
  | text s => (Predicate.parse s).toOption
  | predicate p => some p

namespace Table

variable {t : Table} {p : Predicate} {c : Comparison} {items : List (Option FilterItem)}
  {texts : List String}

/-! ### Predicates without a comparison -/

/-- The literal can be converted for the column, but there is no value for it: an integer has more
    than 128 bits, or the column has no time zone and a point in time with an offset has no date in
    universal time. -/
inductive Unusable (t : Table) (p : Predicate) : Prop
  | tooLarge {n : Int} {type : DataType} (typeOf : t.typeOf? p.column = some type)
      (value_eq : p.value = .integer n) (numeric : type.isNumeric = true)
      (large : n < -2 ^ 127 ∨ 2 ^ 127 ≤ n)
  | undated {s : String} {m : Moment} {unit : TimeUnit}
      (typeOf : t.typeOf? p.column = some (.datetime unit none)) (value_eq : p.value = .text s)
      (read : Moment.read? s = some m) (offset : m.offset ≠ none)
      (outside : Moment.inCalendar m.instant = false)

/-- There is a value for the literal, but rows cannot be compared with it. -/
inductive Undefined (t : Table) (p : Predicate) : Prop
  | noCategory {s : String} {categories : List String}
      (typeOf : t.typeOf? p.column = some (.enum categories)) (value_eq : p.value = .text s)
      (order : p.operator.isEquality = false) (absent : s ∉ categories)
  | otherZone {s : String} {m : Moment} {unit : TimeUnit} {zone : Zone}
      (typeOf : t.typeOf? p.column = some (.datetime unit (some zone)))
      (value_eq : p.value = .text s) (read : Moment.read? s = some m) (offset : m.offset ≠ none)
      (zone_ne : zone ≠ .utc)
  | unclear {s : String} {m : Moment} {unit : TimeUnit} {zone : Zone}
      (typeOf : t.typeOf? p.column = some (.datetime unit (some zone)))
      (value_eq : p.value = .text s) (read : Moment.read? s = some m) (offset : m.offset = none)
      (unclear : ¬ ∃! instant, zone.reading instant = m.reading)

private theorem holdsInt_128_eq_false_iff {n : Int} :
    DataType.holdsInt true 128 n = false ↔ n < -2 ^ 127 ∨ 2 ^ 127 ≤ n := by
  rw [← Bool.not_eq_true, DataType.holdsInt_signed_iff]
  omega

/-- What a predicate is prepared as. -/
theorem comparison_eq_ok_iff : t.comparison p = .ok c ↔ ∃ place type o,
    t.indexOf? p.column = some place ∧ t.typeOf? p.column = some type ∧
      Operand.ofLiteral p type = .ok o ∧ c = ⟨place, type, p.operator, o⟩ := by
  rw [comparison]
  split
  · rename_i place type hplace htype
    rw [Comparison.ofPredicate, hplace, htype]
    cases ho : Operand.ofLiteral p type with
    | error e => simp [Except.map, ho]
    | ok o => simp [Except.map, ho, eq_comm]
  · rename_i hnone
    constructor
    · intro h
      cases h
    · rintro ⟨place, type, o, hplace, htype, -⟩
      exact absurd htype (hnone place type hplace)

/-- A literal that is converted for its column is prepared. -/
private theorem exists_comparison_of_converts {type : DataType} {o : Operand}
    (htype : t.typeOf? p.column = some type) (ho : Operand.Converts p type o) :
    ∃ place, t.comparison p = .ok ⟨place, type, p.operator, o⟩ := by
  obtain ⟨place, hplace⟩ := exists_indexOf?_of_typeOf? htype
  exact ⟨place, comparison_eq_ok_iff.2 ⟨place, type, o, hplace, htype, ho.ofLiteral_eq, rfl⟩⟩

/-- A reading belongs to a point in time of a zone if its clock shows it once. -/
private theorem isSome_instant?_iff {zone : Zone} {reading : Int} :
    (zone.instant? reading).isSome = true ↔ ∃! instant, zone.reading instant = reading := by
  rw [Option.isSome_iff_exists]
  refine exists_congr fun instant => Zone.instant?_eq_some_iff.trans ?_
  constructor
  · intro h
    exact ⟨(h instant).2 rfl, fun other hother => (h other).1 hother⟩
  · rintro ⟨hreading, hunique⟩ other
    exact ⟨hunique other, fun hother => hother ▸ hreading⟩

/-- Which literals have no value. -/
theorem unusable_iff : t.Unusable p ↔ ∃ c, t.comparison p = .ok c ∧ c.failure? ≠ none := by
  constructor
  · intro h
    cases h with
    -- a numeric column takes any integer, so there is a comparison
    | tooLarge htype hvalue hnumeric hlarge =>
      obtain ⟨place, hc⟩ := exists_comparison_of_converts htype (.integer hvalue hnumeric)
      refine ⟨_, hc, ?_⟩
      simp [Comparison.failure?, Operand.failure?, holdsInt_128_eq_false_iff.2 hlarge]
    | undated htype hvalue hread hoffset houtside =>
      obtain ⟨place, hc⟩ := exists_comparison_of_converts htype (.moment hvalue hread)
      refine ⟨_, hc, ?_⟩
      simp [Comparison.failure?, Operand.failure?, houtside, hoffset]
  · rintro ⟨c, hc, hfailure⟩
    obtain ⟨place, type, o, -, htype, ho, rfl⟩ := comparison_eq_ok_iff.1 hc
    -- there is a value for every operand but an integer and a point in time
    cases Operand.ofLiteral_eq_ok_iff.1 ho with
    | @integer _ n hvalue hnumeric =>
      refine .tooLarge htype hvalue hnumeric (holdsInt_128_eq_false_iff.1 ?_)
      by_contra hfits
      exact hfailure (if_pos (by simpa using hfits))
    | @moment s m unit zone hvalue hread =>
      cases zone with
      -- in a column with a time zone every point in time has a value
      | some zone => exact absurd rfl hfailure
      | none =>
        have hnot : ¬ (m.offset.isNone || Moment.inCalendar m.instant) = true :=
          fun h => hfailure (if_pos h)
        simp only [Bool.or_eq_true, not_or, Option.isNone_iff_eq_none, Bool.not_eq_true] at hnot
        exact .undated htype hvalue hread hnot.1 hnot.2
    | _ => exact absurd rfl hfailure

/-- Which literals rows cannot be compared with. -/
theorem undefined_iff : t.Undefined p ↔ ∃ c, t.comparison p = .ok c ∧ c.fault? ≠ none := by
  constructor
  · intro h
    cases h with
    | noCategory htype hvalue horder habsent =>
      obtain ⟨place, hc⟩ := exists_comparison_of_converts htype (.text hvalue rfl)
      refine ⟨_, hc, ?_⟩
      simp [Comparison.fault?, horder, habsent]
    | otherZone htype hvalue hread hoffset hzone =>
      obtain ⟨place, hc⟩ := exists_comparison_of_converts htype (.moment hvalue hread)
      refine ⟨_, hc, ?_⟩
      simp [Comparison.fault?, Option.isSome_iff_ne_none, hoffset, hzone]
    | unclear htype hvalue hread hoffset hunclear =>
      obtain ⟨place, hc⟩ := exists_comparison_of_converts htype (.moment hvalue hread)
      refine ⟨_, hc, ?_⟩
      rw [← isSome_instant?_iff] at hunclear
      simp [Comparison.fault?, hoffset, hunclear]
  · rintro ⟨c, hc, hfault⟩
    obtain ⟨place, type, o, -, htype, ho, rfl⟩ := comparison_eq_ok_iff.1 hc
    -- rows can be compared with every operand but a text and a point in time
    cases Operand.ofLiteral_eq_ok_iff.1 ho with
    | text hvalue =>
      cases type with
      | enum categories =>
        simp only [Comparison.fault?, ne_eq, ite_eq_left_iff, reduceCtorEq, imp_false, not_not,
          Bool.or_eq_true, not_or, Bool.not_eq_true, List.contains_eq_mem,
          decide_eq_false_iff_not] at hfault
        exact .noCategory htype hvalue hfault.1 hfault.2
      | _ => exact absurd rfl hfault
    | @moment s m unit zone hvalue hread =>
      cases zone with
      | none => exact absurd rfl hfault
      | some zone =>
        -- with an offset the zones have to agree, without one the clock has to show the reading
        -- once
        by_cases hoffset : m.offset = none
        · refine .unclear htype hvalue hread hoffset ?_
          rw [← isSome_instant?_iff]
          intro hclear
          simp [Comparison.fault?, hoffset, hclear] at hfault
        · refine .otherZone htype hvalue hread hoffset ?_
          rintro rfl
          simp [Comparison.fault?, Option.isSome_iff_ne_none, hoffset] at hfault
    | _ => exact absurd rfl hfault

/-- There is a value for the literal of a comparison unless that of the predicate is unusable. -/
theorem failure?_eq_none_iff (hc : t.comparison p = .ok c) :
    c.failure? = none ↔ ¬ t.Unusable p := by
  rw [unusable_iff, hc]
  simp

/-- There is no fault in a comparison unless that of the predicate is undefined. -/
private theorem fault?_eq_none_iff_not_undefined (hc : t.comparison p = .ok c) :
    c.fault? = none ↔ ¬ t.Undefined p := by
  rw [undefined_iff, hc]
  simp

/-- What a literal without a value fails with is no reason to refuse the predicate. -/
theorem ne_filter_of_failure? {e : Failure} (h : c.failure? = some e) (f : FilterError) :
    e ≠ .filter f := by
  rcases Operand.failure?_cases h with rfl | rfl <;> exact nofun

/-! ### The lenient filter -/

/-- The comparison that an item of a lenient filter is prepared as, if it is usable. -/
def usable? (t : Table) (item : Option FilterItem) : Option Comparison :=
  (item.bind FilterItem.predicate?).bind fun p => (t.comparison p).toOption

/-- A text is usable if it is a predicate that can be compared with its column. -/
theorem usable?_text (t : Table) (s : String) : t.usable? (some (.text s)) =
    (Predicate.parse s).toOption.bind fun p => (t.comparison p).toOption := rfl

/-- An item is passed over unless it is usable, and then there has to be a value for its literal. -/
private theorem result_lenientItem (t : Table) (item : Option FilterItem) :
    (t.lenientItem item).result =
      match t.usable? item with
      | none => .ok none
      | some c => c.checked.map some := by
  -- read from a text or not, a predicate is prepared alike
  have hpredicate : ∀ p, (t.lenientComparison p).result =
      match (t.comparison p).toOption with
      | none => .ok none
      | some c => c.checked.map some := by
    intro p
    rw [lenientComparison]
    cases hc : t.comparison p with
    | error e => split <;> rfl
    | ok c =>
      rw [if_pos (hasColumn_of_comparison hc)]
      rfl
  cases item with
  | none => rfl
  | some item =>
    cases item with
    | predicate p => exact hpredicate p
    -- a text that is no predicate is passed over
    | text s =>
      rw [lenientItem]
      rw [usable?_text]
      cases hparse : Predicate.parse s with
      | error e => rfl
      | ok p => exact hpredicate p

/-- The items are prepared one by one; the first literal without a value ends it. -/
private theorem result_forEach_lenientItem (t : Table) (items : List (Option FilterItem)) :
    (Run.forEach t.lenientItem items).result =
      ((items.filterMap t.usable?).mapM Comparison.checked).map fun _ => items.map t.usable? := by
  rw [Run.result_forEach_eq_mapM]
  induction items with
  | nil => rfl
  | cons item rest ih =>
    rw [List.map_cons, List.mapM_cons, ih, id_eq, result_lenientItem, List.map_cons]
    cases husable : t.usable? item with
    | none =>
      -- there is nothing to check, so the rest decides
      rw [List.filterMap_cons_none husable]
      cases (rest.filterMap t.usable?).mapM Comparison.checked <;> rfl
    | some c =>
      rw [List.filterMap_cons_some husable, List.mapM_cons]
      dsimp only
      cases hchecked : c.checked with
      | error e => rfl
      | ok c' =>
        -- what is checked stays as it is
        obtain ⟨-, rfl⟩ := checked_eq_ok_iff.1 hchecked
        cases (rest.filterMap t.usable?).mapM Comparison.checked <;> rfl

/-- The lenient filter keeps the rows that pass the usable items, if there is a value for the
    literal of each of these. -/
theorem result_filterLenient (t : Table) (items : List (Option FilterItem)) :
    (t.filterLenient items).result =
      (items.filterMap t.usable?).mapM Comparison.checked >>= t.keepAll := by
  have hitems := result_forEach_lenientItem t items
  rw [filterLenient]
  -- the items are prepared before any row is looked at
  cases hchecked : (items.filterMap t.usable?).mapM Comparison.checked with
  | error e =>
    rw [hchecked] at hitems
    rw [Run.result_bind_of_error hitems]
    rfl
  | ok cs =>
    obtain ⟨-, rfl⟩ := mapM_checked_eq_ok_iff.1 hchecked
    rw [hchecked] at hitems
    rw [Run.result_bind_of_ok hitems, List.filterMap_map]
    rfl

/-- A comparison that a usable item is prepared as. -/
theorem usable?_eq_some_iff {item : Option FilterItem} : t.usable? item = some c ↔
    ∃ p, item.bind FilterItem.predicate? = some p ∧ t.comparison p = .ok c := by
  rw [usable?, Option.bind_eq_some_iff]
  apply exists_congr
  intro p
  cases t.comparison p <;> simp [Except.toOption]

/-- The lenient filter by one predicate whose literal can be converted. -/
theorem result_filterBy_singleton (hc : t.comparison p = .ok c) : (t.filterBy [p]).result =
    match c.failure? with
    | none => t.keepAll [c]
    | some e => .error e := by
  have husable : t.usable? (some (.predicate p)) = some c :=
    usable?_eq_some_iff.2 ⟨p, rfl, hc⟩
  rw [filterBy, result_filterLenient, List.map_singleton, List.filterMap_cons_some husable,
    List.filterMap_nil, List.mapM_cons, Comparison.checked]
  cases c.failure? <;> rfl

/-- The usable items all have a comparison iff no item is a predicate without one. -/
private theorem usable_compared_iff :
    ((∀ c ∈ items.filterMap t.usable?, c.failure? = none) ∧
        ∀ c ∈ items.filterMap t.usable?, c.fault? = none) ↔
      ∀ item ∈ items, ∀ p, item.bind FilterItem.predicate? = some p →
        ¬ t.Unusable p ∧ ¬ t.Undefined p := by
  simp only [List.mem_filterMap, usable?_eq_some_iff]
  constructor
  · rintro ⟨hfailures, hfaults⟩ item hitem p hp
    -- a predicate without a comparison is converted all the same
    constructor
    · intro hunusable
      obtain ⟨c, hc, -⟩ := unusable_iff.1 hunusable
      exact (failure?_eq_none_iff hc).1 (hfailures c ⟨item, hitem, p, hp, hc⟩) hunusable
    · intro hundefined
      obtain ⟨c, hc, -⟩ := undefined_iff.1 hundefined
      exact (fault?_eq_none_iff_not_undefined hc).1 (hfaults c ⟨item, hitem, p, hp, hc⟩) hundefined
  · intro h
    constructor
    · rintro c ⟨item, hitem, p, hp, hc⟩
      exact (failure?_eq_none_iff hc).2 (h item hitem p hp).1
    · rintro c ⟨item, hitem, p, hp, hc⟩
      exact (fault?_eq_none_iff_not_undefined hc).2 (h item hitem p hp).2

/-- The lenient filter has a result if the literals of the usable items can be used and compared
    with, and keeps the rows that pass them. -/
theorem result_filterLenient_eq_ok_iff {u : Table} : (t.filterLenient items).result = .ok u ↔
    ((∀ c ∈ items.filterMap t.usable?, c.failure? = none) ∧
      ∀ c ∈ items.filterMap t.usable?, c.fault? = none) ∧
        u = t.filterRows (passes (items.filterMap t.usable?)) := by
  rw [result_filterLenient, and_assoc, ← keepAll_eq_ok_iff]
  cases hchecked : (items.filterMap t.usable?).mapM Comparison.checked with
  | error e =>
    -- some literal has no value
    refine iff_of_false nofun fun h => ?_
    rw [mapM_checked_eq_ok_iff.2 ⟨h.1, rfl⟩] at hchecked
    cases hchecked
  | ok cs =>
    obtain ⟨hfailures, rfl⟩ := mapM_checked_eq_ok_iff.1 hchecked
    exact (and_iff_right hfailures).symm

/-- The lenient filter keeps some of the rows, unless a usable item has no comparison. -/
theorem filterLenient_documented_iff :
    (∃ u, (t.filterLenient items).result = .ok u ∧ u.columns = t.columns ∧ u.rows.Sublist t.rows) ↔
      ∀ item ∈ items, ∀ p, item.bind FilterItem.predicate? = some p →
        ¬ t.Unusable p ∧ ¬ t.Undefined p := by
  rw [← usable_compared_iff]
  simp only [result_filterLenient_eq_ok_iff]
  constructor
  · rintro ⟨u, ⟨hcompared, -⟩, -⟩
    exact hcompared
  · intro hcompared
    exact ⟨_, ⟨hcompared, rfl⟩, rfl, List.filter_sublist⟩

/-! ### The strict filter -/

/-- The text is a predicate that the strict filter prepares for the table. -/
def Prepares (t : Table) (s : String) : Prop :=
  ∃ p c, Predicate.parse s = .ok p ∧ t.comparison p = .ok c ∧ ¬ t.Unusable p

/-- What stops the strict filter with a failure that is no reason to refuse a predicate: there is no
    value for the literal of the first predicate that is not prepared, or all are prepared and rows
    cannot be compared with the literal of one. -/
inductive StoppedBy (t : Table) (texts : List String) : Prop
  | unusable {before after : List String} {s : String} {p : Predicate}
      (texts_eq : texts = before ++ s :: after) (prepares : ∀ r ∈ before, t.Prepares r)
      (parse : Predicate.parse s = .ok p) (unusable : t.Unusable p)
  | undefined {s : String} {p : Predicate} (prepares : ∀ r ∈ texts, t.Prepares r)
      (mem : s ∈ texts) (parse : Predicate.parse s = .ok p) (undefined : t.Undefined p)

/-- What the text of a predicate is prepared as. -/
theorem strictComparison_text (t : Table) (s : String) :
    t.strictComparison (.text s) =
      match Predicate.parse s with
      | .error e => .error (.filter (.invalidPredicate e))
      | .ok p =>
        match t.comparison p with
        | .error e => .error (.filter e)
        | .ok c => c.checked := by
  rw [strictComparison, Predicate.ofValue]
  cases hparse : Predicate.parse s with
  | error e => rfl
  | ok p => rfl

/-- The comparison that a text is prepared as. -/
theorem strictComparison_text_eq_ok_iff {s : String} : t.strictComparison (.text s) = .ok c ↔
    ∃ p, Predicate.parse s = .ok p ∧ t.comparison p = .ok c ∧ ¬ t.Unusable p := by
  rw [strictComparison_eq_ok_iff]
  refine exists_congr fun p => and_congr ?_ (and_congr_right failure?_eq_none_iff)
  rw [Predicate.ofValue]
  cases Predicate.parse s <;> simp [Except.mapError]

/-- The texts that are prepared. -/
theorem prepares_iff {s : String} : t.Prepares s ↔ ∃ c, t.strictComparison (.text s) = .ok c := by
  simp only [strictComparison_text_eq_ok_iff]
  exact exists_comm

/-- The texts that are neither prepared nor refused. -/
private theorem strictComparison_fails_iff {s : String} :
    (∃ e, t.strictComparison (.text s) = .error e ∧ ∀ f, e ≠ .filter f) ↔
      ∃ p, Predicate.parse s = .ok p ∧ t.Unusable p := by
  rw [strictComparison_text]
  cases hparse : Predicate.parse s with
  -- a text that is no predicate is refused
  | error e => simp
  | ok p =>
    cases hc : t.comparison p with
    | error e => simp [unusable_iff, hc]
    | ok c =>
      have hnone := failure?_eq_none_iff hc
      -- what fails here is no refusal
      simp only [hc, Comparison.checked]
      cases hfailure : c.failure? with
      | none => simp [hnone.1 hfailure]
      | some e =>
        have hunusable : t.Unusable p := not_not.1 (mt hnone.2 (by simp [hfailure]))
        refine iff_of_true ⟨e, rfl, ne_filter_of_failure? hfailure⟩ ⟨p, rfl, hunusable⟩

/-- The first text that is not prepared is not refused either. -/
private theorem mapM_fails_iff :
    (∃ e, (texts.map Value.text).mapM t.strictComparison = .error e ∧ ∀ f, e ≠ .filter f) ↔
      ∃ before s after, texts = before ++ s :: after ∧ (∀ r ∈ before, t.Prepares r) ∧
        ∃ p, Predicate.parse s = .ok p ∧ t.Unusable p := by
  simp only [List.mapM_map, Run.mapM_eq_error_iff, prepares_iff, ← strictComparison_fails_iff]
  constructor
  · rintro ⟨e, ⟨before, s, after, htexts, hbefore, hs⟩, hother⟩
    exact ⟨before, s, after, htexts, hbefore, e, hs, hother⟩
  · rintro ⟨before, s, after, htexts, hbefore, e, hs, hother⟩
    exact ⟨e, ⟨before, s, after, htexts, hbefore, hs⟩, hother⟩

/-- Texts come to a list of comparisons iff each is prepared. -/
theorem exists_mapM_iff_prepares :
    (∃ cs, (texts.map Value.text).mapM t.strictComparison = .ok cs) ↔
      ∀ s ∈ texts, t.Prepares s := by
  rw [Run.exists_mapM_eq_ok_iff, List.forall_mem_map]
  exact forall₂_congr fun s _ => prepares_iff.symm

/-- There is a fault in one of the comparisons iff rows cannot be compared with the literal of one
    of the predicates. -/
private theorem exists_fault_iff {cs : List Comparison}
    (h : (texts.map Value.text).mapM t.strictComparison = .ok cs) :
    (∃ c ∈ cs, c.fault? ≠ none) ↔
      ∃ s ∈ texts, ∃ p, Predicate.parse s = .ok p ∧ t.Undefined p := by
  have hprepares := exists_mapM_iff_prepares.1 ⟨cs, h⟩
  rw [List.mapM_map, Run.mapM_eq_ok_iff] at h
  have hmem : ∀ c, c ∈ cs ↔ ∃ s ∈ texts, t.strictComparison (.text s) = .ok c := by
    intro c
    have hc : c ∈ cs ↔ Except.ok c ∈ cs.map (Except.ok (ε := Failure)) := by simp
    rw [hc, ← h, List.mem_map]
    rfl
  simp only [hmem, strictComparison_text_eq_ok_iff, undefined_iff]
  constructor
  · rintro ⟨c, ⟨s, hs, p, hparse, hc, -⟩, hfault⟩
    exact ⟨s, hs, p, hparse, c, hc, hfault⟩
  · rintro ⟨s, hs, p, hparse, c, hc, hfault⟩
    -- the predicate is prepared, so there is a value for its literal
    obtain ⟨p', c', hparse', -, hvalue⟩ := hprepares s hs
    obtain rfl : p' = p := Except.ok.inj (hparse'.symm.trans hparse)
    exact ⟨c, ⟨s, hs, p', hparse, hc, hvalue⟩, hfault⟩

/-- The strict filter is stopped iff a text is neither prepared nor refused or there is a fault in
    one of its comparisons. -/
private theorem stoppedBy_iff : t.StoppedBy texts ↔
    (∃ e, (texts.map Value.text).mapM t.strictComparison = .error e ∧ ∀ f, e ≠ .filter f) ∨
      ∃ cs, (texts.map Value.text).mapM t.strictComparison = .ok cs ∧
        ∃ c ∈ cs, c.fault? ≠ none := by
  constructor
  · intro h
    cases h with
    | unusable heq hprepares hparse hunusable =>
      exact .inl (mapM_fails_iff.2 ⟨_, _, _, heq, hprepares, _, hparse, hunusable⟩)
    | undefined hprepares hmem hparse hundefined =>
      obtain ⟨cs, hcs⟩ := exists_mapM_iff_prepares.2 hprepares
      exact .inr ⟨cs, hcs, (exists_fault_iff hcs).2 ⟨_, hmem, _, hparse, hundefined⟩⟩
  · -- and the two ways in which the filter fails otherwise are these
    rintro (h | ⟨cs, hcs, hfault⟩)
    · obtain ⟨before, s, after, heq, hprepares, p, hparse, hunusable⟩ := mapM_fails_iff.1 h
      exact .unusable heq hprepares hparse hunusable
    · obtain ⟨s, hs, p, hparse, hundefined⟩ := (exists_fault_iff hcs).1 hfault
      exact .undefined (exists_mapM_iff_prepares.1 ⟨cs, hcs⟩) hs hparse hundefined

/-- The strict filter keeps some of the rows or refuses a text, unless it is stopped. -/
theorem filterStrict_documented_iff :
    ((∃ u, t.filterStrict (texts.map .text) = .ok u ∧ u.columns = t.columns ∧
        u.rows.Sublist t.rows) ∨ ∃ e, t.filterStrict (texts.map .text) = .error (.filter e)) ↔
      ¬ t.StoppedBy texts := by
  rw [stoppedBy_iff, filterStrict]
  cases hprepared : (texts.map Value.text).mapM t.strictComparison with
  | error e =>
    -- a refusal is told from the want of a value
    by_cases hrefusal : ∃ f, e = .filter f
    · obtain ⟨f, rfl⟩ := hrefusal
      simp [bind, Except.bind]
    · have hother : ∀ f, e ≠ .filter f := fun f hf => hrefusal ⟨f, hf⟩
      simp [bind, Except.bind, hother]
  | ok cs =>
    -- all literals have values; what is left is whether rows can be compared with them
    show ((∃ u, t.keepAll cs = .ok u ∧ _) ∨ ∃ e, t.keepAll cs = .error (.filter e)) ↔ _
    rw [keepAll]
    split
    · rename_i hnone
      refine iff_of_true (.inl ⟨_, rfl, rfl, List.filter_sublist⟩) ?_
      rw [fault?_eq_none_iff] at hnone
      simpa using hnone
    · rename_i e hfault
      have hnot : ¬ ∀ c ∈ cs, c.fault? = none := by
        rw [← fault?_eq_none_iff, hfault]
        exact Option.some_ne_none e
      refine iff_of_false (by simp) ?_
      simpa using hnot

/-! ### Both filters -/

/-- The lenient filter keeps some of the rows iff no predicate among its items is one without a
    comparison; the strict filter keeps some of the rows or refuses a text iff no such predicate
    stops it. -/
theorem filters_keep_or_refuse_iff (t : Table) :
    (∀ items : List (Option FilterItem),
      (∃ u, (t.filterLenient items).result = .ok u ∧ u.columns = t.columns ∧
          u.rows.Sublist t.rows) ↔
        ∀ item ∈ items, ∀ p, item.bind FilterItem.predicate? = some p →
          ¬ t.Unusable p ∧ ¬ t.Undefined p) ∧
    ∀ texts : List String,
      ((∃ u, t.filterStrict (texts.map .text) = .ok u ∧ u.columns = t.columns ∧
          u.rows.Sublist t.rows) ∨ ∃ e, t.filterStrict (texts.map .text) = .error (.filter e)) ↔
        ¬ t.StoppedBy texts :=
  ⟨fun _ => filterLenient_documented_iff, fun _ => filterStrict_documented_iff⟩

/-- Both filters fail with neither rows nor a refusal: on a point in time before the first year, on
    an integer beyond 128 bits in front of a column that is not there, and on the order of an
    enumeration against a text that is none of its categories. -/
theorem filters_fail_without_comparison :
    ((⟨[⟨"d", .datetime .micro none⟩], [[.datetime 0]]⟩ : Table).filterLenient
          [some (.text "d > '0001-01-01T00:00:00+01:00'")]).result = .error .dateOutOfRange ∧
      (⟨[⟨"c", .int64⟩], [[.int 0]]⟩ : Table).filterStrict
          [.text "c < 170141183460469231731687303715884105728", .text "nope = 1"] =
        .error (.table .invalidOperation) ∧
      ((⟨[⟨"e", .enum ["x", "y"]⟩], [[.text "x"]]⟩ : Table).filterLenient
          [some (.text "e > 'z'")]).result = .error (.table .invalidOperation) ∧
      (⟨[⟨"e", .enum ["x", "y"]⟩], [[.text "x"]]⟩ : Table).filterStrict [.text "e > 'z'"] =
        .error (.table .invalidOperation) := by
  refine ⟨?_, ?_, ?_, ?_⟩
  · rfl
  · rfl
  · rfl
  · rfl

end Table

end SharedTables
