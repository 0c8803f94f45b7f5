import Mathlib
import SharedTables.Proofs.Predicate.RoundTrip
import SharedTables.Proofs.Table.Splitting

/-!
# Points in time as instants

A column of points in time holds whole units since the start of 1970, and a text denotes an instant
to the microsecond.  Where the column counts microseconds or milliseconds and its clock is that of
universal time, the cells are compared with the whole units up to that instant: for a column of
microseconds these are the instant itself, for one of milliseconds they may lie before it, and then
the cell of just these units counts as equal to the text.  Both are set against each other in
nanoseconds.

## Key results

- `accepts_floor_iff`: when comparing whole units is comparing instants
- `filterStrict_render_eq_ok_iff`: what the strict filter keeps by a text in canonical form
- `instants_compared_iff`: when a filter compares instants, and that it depends on the instant alone
-/

namespace SharedTables

/-! ### Whole units -/

/-- Other units than those up to an instant compare with them as they do with the instant. -/
private theorem compare_floor_of_ne {size ticks instant : Int} (hsize : 0 < size)
    (hne : ticks ≠ instant / size) :
    compare ticks (instant / size) = compare (ticks * size) instant := by
  rcases Int.lt_or_gt_of_ne hne with hlt | hgt
  · -- one more unit is still not after the instant
    have hnext : (ticks + 1) * size ≤ instant := (Int.le_ediv_iff_mul_le hsize).1 hlt
    rw [compare_lt_iff_lt.2 hlt, compare_lt_iff_lt.2 (by linarith)]
  · rw [compare_gt_iff_gt.2 hgt, compare_gt_iff_gt.2 ((Int.ediv_lt_iff_lt_mul hsize).1 hgt)]

/-- An operator accepts the comparison of whole units exactly if it accepts that of the instants,
    except where the units are those up to an instant that lies between two. -/
theorem Operator.accepts_floor_iff {size : Int} (hsize : 0 < size) (op : Operator)
    (ticks instant : Int) :
    (op.accepts (compare ticks (instant / size)) = op.accepts (compare (ticks * size) instant)) ↔
      size ∣ instant ∨ op = .gt ∨ op = .le ∨ ticks ≠ instant / size := by
  by_cases hticks : ticks = instant / size
  · -- equal in whole units, the cell may still lie before the instant
    have hfloor : ticks * size ≤ instant := hticks ▸ Int.ediv_mul_le instant hsize.ne'
    rw [compare_eq_iff_eq.2 hticks]
    by_cases hdvd : size ∣ instant
    · rw [compare_eq_iff_eq.2 (by rw [hticks, Int.ediv_mul_cancel hdvd])]
      simp [hdvd]
    · have hlt : ticks * size < instant := by
        refine lt_of_le_of_ne hfloor fun h => hdvd ⟨ticks, by rw [← h, mul_comm]⟩
      rw [compare_lt_iff_lt.2 hlt]
      cases op with
      -- only these two operators tell the units up to an instant from the instant
      | le => simp [hdvd]; rfl
      | _ => simp [accepts, hdvd, hticks]
  · rw [compare_floor_of_ne hsize hticks]
    simp [hticks]

namespace Table

variable {t u : Table} {p : Predicate} {c : Comparison} {s : String}

/-! ### Texts in canonical form -/

/-- The strict filter takes the canonical form of a predicate with a text that does not end in a
    backslash, and keeps the rows that pass the comparison. -/
theorem filterStrict_render_eq_ok_iff (hvalue : p.value = .text s) (hc : t.comparison p = .ok c)
    (hfault : c.fault? = none) : t.filterStrict [.text p.render] = .ok u ↔
      s.toList.getLast? ≠ some '\\' ∧ c.failure? = none ∧ u = t.filterRows c.holds := by
  constructor
  · intro h
    have htakes : (t.filterStrict [.text p.render]).isOk = true := by rw [h]; rfl
    obtain ⟨c', hprepared, -⟩ := takes_iff.1 htakes
    -- whatever the text is read as, it is the predicate itself
    obtain ⟨q, hparse, -, husable⟩ := strictComparison_text_eq_ok_iff.1 hprepared
    have hlast : s.toList.getLast? ≠ some '\\' := fun hlast =>
      Predicate.not_parse_render_of_backslash hvalue hlast q hparse
    have hread := Predicate.parse_render_text hvalue hlast
    obtain rfl : p = q := Except.ok.inj (hread.symm.trans hparse)
    have hfailure := (failure?_eq_none_iff hc).2 husable
    refine ⟨hlast, hfailure, ?_⟩
    exact Except.ok.inj (h.symm.trans ((keeps_of_comparison hc hfailure hfault).strict _ hread))
  · rintro ⟨hlast, hfailure, rfl⟩
    have hread := Predicate.parse_render_text hvalue hlast
    exact (keeps_of_comparison hc hfailure hfault).strict _ hread

/-! ### Columns of points in time -/

variable {place : Nat} {unit : TimeUnit} {zone : Option Zone} {m : Moment}

/-- The strict filter by the predicate keeps the rows whose cell is a point in time that stands to
    the instant as the operator says. -/
def ComparesInstants (t : Table) (p : Predicate) (place : Nat) (unit : TimeUnit) (instant : Int) :
    Prop :=
  ∃ keep, t.filterStrict [.text p.render] = .ok (t.filterRows keep) ∧
    ∀ row ∈ t.rows, keep row = true ↔ ∃ ticks, Row.cell row place = .datetime ticks ∧
      p.operator.accepts (compare (ticks * unit.nanoseconds)
        (instant * TimeUnit.micro.nanoseconds)) = true

/-- Only points in time pass a comparison with a point in time. -/
private theorem holds_moment_iff (hunit : unit ≠ .nano) (hzone : zone = none ∨ zone = some .utc)
    {op : Operator} {row : Row} :
    Comparison.holds ⟨place, .datetime unit zone, op, .moment m⟩ row = true ↔
      ∃ ticks, Row.cell row place = .datetime ticks ∧
        op.accepts (compare ticks (TimeUnit.micro.convert unit m.instant)) = true := by
  have ho : Operand.moment m ≠ .null := nofun
  -- the unit of the column is the longer one
  have hshared : unit.coarser .micro = unit := by
    cases unit with
    | nano => exact absurd rfl hunit
    | _ => rfl
  rw [Comparison.holds_eq_any ho]
  cases Row.cell row place <;>
    simp [Operand.compareCell, Moment.instantIn?_of_utc hzone, hshared]

/-- A point in time needs a date in universal time if it has an offset and the column has no time
    zone. -/
private theorem failure?_moment_iff {op : Operator} :
    Comparison.failure? ⟨place, .datetime unit zone, op, .moment m⟩ = none ↔
      (zone = none → m.offset ≠ none → Moment.inCalendar m.instant = true) := by
  cases zone with
  | some z => exact iff_of_true rfl nofun
  | none =>
    simp only [Comparison.failure?, Operand.failure?, ite_eq_left_iff, reduceCtorEq, imp_false,
      not_not, Bool.or_eq_true, Option.isNone_iff_eq_none]
    tauto

/-- Universal time shows every reading once. -/
private theorem fault?_moment_of_utc (hzone : zone = none ∨ zone = some .utc) {op : Operator} :
    Comparison.fault? ⟨place, .datetime unit zone, op, .moment m⟩ = none := by
  rcases hzone with rfl | rfl
  · rfl
  · simp [Comparison.fault?]

/-- When a filter compares instants: the text is read back, a date in universal time is there if one
    is needed, and the instant is one of whole units, or the operator or the table does not tell the
    difference. -/
private theorem comparesInstants_iff (htype : t.typeOf? p.column = some (.datetime unit zone))
    (hunit : unit ≠ .nano) (hzone : zone = none ∨ zone = some .utc)
    (hplace : t.indexOf? p.column = some place) (hvalue : p.value = .text s)
    (hread : Moment.read? s = some m) :
    t.ComparesInstants p place unit m.instant ↔
      s.toList.getLast? ≠ some '\\' ∧
      (zone = none → m.offset ≠ none → Moment.inCalendar m.instant = true) ∧
      (unit.nanoseconds ∣ m.instant * TimeUnit.micro.nanoseconds ∨ p.operator = .gt ∨
        p.operator = .le ∨
        ∀ row ∈ t.rows,
          Row.cell row place ≠ .datetime (TimeUnit.micro.convert unit m.instant)) := by
  have hc := comparison_eq_ok_iff.2 ⟨place, _, _, hplace, htype,
    (Operand.Converts.moment hvalue hread).ofLiteral_eq, rfl⟩
  have hsize := unit.nanoseconds_pos
  constructor
  · rintro ⟨keep, hfilter, hkeep⟩
    obtain ⟨hlast, hdate, hrows⟩ :=
      (filterStrict_render_eq_ok_iff hvalue hc (fault?_moment_of_utc hzone)).1 hfilter
    refine ⟨hlast, failure?_moment_iff.1 hdate, ?_⟩
    -- a row with the units up to the instant is kept or dropped for both reasons alike
    by_contra hnot
    simp only [not_or, not_forall, not_not] at hnot
    obtain ⟨hdvd, hgt, hle, row, hrow, hcell⟩ := hnot
    have hboth := (hkeep row hrow).symm.trans
      ((eq_of_filterRows_eq hrows hrow).trans (holds_moment_iff hunit hzone))
    simp only [hcell, Cell.datetime.injEq, exists_eq_left'] at hboth
    rcases (Operator.accepts_floor_iff hsize p.operator _ _).1
      (Bool.eq_iff_iff.2 hboth.symm) with h | h | h | h
    · exact hdvd h
    · exact hgt h
    · exact hle h
    · exact h rfl
  · rintro ⟨hlast, hdate, hwhole⟩
    refine ⟨_, (filterStrict_render_eq_ok_iff hvalue hc (fault?_moment_of_utc hzone)).2
      ⟨hlast, failure?_moment_iff.2 hdate, rfl⟩,
      fun row hrow => (holds_moment_iff hunit hzone).trans ?_⟩
    -- cell by cell: the units up to the instant decide as the instant would
    refine exists_congr fun ticks => and_congr_right fun hcell => ?_
    rw [TimeUnit.convert, (Operator.accepts_floor_iff hsize p.operator ticks _).2]
    rcases hwhole with h | h | h | h
    · exact .inl h
    · exact .inr (.inl h)
    · exact .inr (.inr (.inl h))
    · refine .inr (.inr (.inr ?_))
      rintro rfl
      exact h row hrow hcell

/-- A filter on a column of points in time, of micro- or milliseconds and without a time zone or in
    universal time, compares instants, whatever the offset of the text, if the text is read back, a
    date in universal time is there if one is needed, and the instant is one of whole units, or the
    operator or the table does not tell the difference.  Two texts of one instant keep the same
    rows. -/
theorem instants_compared_iff (htype : t.typeOf? p.column = some (.datetime unit zone))
    (hunit : unit ≠ .nano) (hzone : zone = none ∨ zone = some .utc)
    (hplace : t.indexOf? p.column = some place) (hvalue : p.value = .text s)
    (hread : Moment.read? s = some m) :
    (t.ComparesInstants p place unit m.instant ↔
      s.toList.getLast? ≠ some '\\' ∧
      (zone = none → m.offset ≠ none → Moment.inCalendar m.instant = true) ∧
      (unit.nanoseconds ∣ m.instant * TimeUnit.micro.nanoseconds ∨ p.operator = .gt ∨
        p.operator = .le ∨ ∀ row ∈ t.rows,
          Row.cell row place ≠ .datetime (TimeUnit.micro.convert unit m.instant))) ∧
    ∀ s' m', Moment.read? s' = some m' → m'.instant = m.instant → ∀ u u',
      t.filterStrict [.text p.render] = .ok u →
      t.filterStrict [.text { p with value := .text s' }.render] = .ok u' → u' = u := by
  refine ⟨comparesInstants_iff htype hunit hzone hplace hvalue hread, ?_⟩
  intro s' m' hread' hinstant u u' hu hu'
  have hfirst := comparison_eq_ok_iff.2 ⟨place, _, _, hplace, htype,
    (Operand.Converts.moment hvalue hread).ofLiteral_eq, rfl⟩
  have hsecond := @comparison_eq_ok_iff t { p with value := .text s' } _ |>.2 ⟨place, _, _, hplace,
    htype, (Operand.Converts.moment rfl hread').ofLiteral_eq, rfl⟩
  have hfault := fun m : Moment => @fault?_moment_of_utc place unit zone m hzone p.operator
  obtain ⟨-, -, rfl⟩ := (filterStrict_render_eq_ok_iff hvalue hfirst (hfault m)).1 hu
  obtain ⟨-, -, rfl⟩ := (filterStrict_render_eq_ok_iff rfl hsecond (hfault m')).1 hu'
  -- a row is compared with the instant alone, however it was written
  refine congrArg t.filterRows (funext fun row => ?_)
  rw [Bool.eq_iff_iff, holds_moment_iff hunit hzone, holds_moment_iff hunit hzone, hinstant]

/-- A table of milliseconds without a time zone. -/
def stamps : Table :=
  ⟨[⟨"at", .datetime .milli none⟩], [[.datetime (-1)], [.datetime 0], [.null]]⟩

/-- One o'clock on the first day of 1970 one hour east of Greenwich is the start of that day. -/
theorem instants_compared_on_stamps :
    stamps.ComparesInstants ⟨.ge, "at", .text "1970-01-01T01:00:00+01:00", rfl⟩ 0 .milli 0 ∧
      stamps.filterStrict [.text (Predicate.render ⟨.ge, "at", .text "1970-01-01", rfl⟩)] =
        stamps.filterStrict
          [.text (Predicate.render ⟨.ge, "at", .text "1970-01-01T01:00:00+01:00", rfl⟩)] := by
  obtain ⟨hcompares, hsame⟩ := @instants_compared_iff stamps
    ⟨.ge, "at", .text "1970-01-01T01:00:00+01:00", rfl⟩ "1970-01-01T01:00:00+01:00" 0 .milli none
    ⟨3600000000, some 3600000000⟩ rfl nofun (.inl rfl) rfl rfl rfl
  have hoffset := hcompares.2 ⟨by decide, fun _ _ => by decide, .inl (by decide)⟩
  have hday := (@comparesInstants_iff stamps ⟨.ge, "at", .text "1970-01-01", rfl⟩ "1970-01-01" 0
    .milli none ⟨0, none⟩ rfl nofun (.inl rfl) rfl rfl rfl).2
    ⟨by decide, fun _ _ => by decide, .inl (by decide)⟩
  refine ⟨hoffset, ?_⟩
  obtain ⟨keep, hkeep, -⟩ := hoffset
  obtain ⟨keep', hkeep', -⟩ := hday
  rw [hkeep, hkeep', hsame "1970-01-01" ⟨0, none⟩ rfl rfl _ _ hkeep hkeep']

/-- Half a millisecond counts as none, an hour before year 1 has no date in universal time, and a
    text that ends in a backslash is not read back. -/
theorem instants_missed :
    (Moment.read? "1970-01-01T00:00:00.000500" = some ⟨500, none⟩ ∧
      ¬ stamps.ComparesInstants ⟨.eq, "at", .text "1970-01-01T00:00:00.000500", rfl⟩ 0 .milli 500) ∧
    (∃ m, Moment.read? "0001-01-01T00:00:00+01:00" = some m ∧
      ¬ stamps.ComparesInstants ⟨.gt, "at", .text "0001-01-01T00:00:00+01:00", rfl⟩ 0 .milli
        m.instant) ∧
    (Moment.read? "1970-01-01T00:00Z\x00\\" = some ⟨0, some 0⟩ ∧
      ¬ stamps.ComparesInstants ⟨.gt, "at", .text "1970-01-01T00:00Z\x00\\", rfl⟩ 0 .milli 0) := by
  have hiff := fun p s m => @comparesInstants_iff stamps p s 0 .milli none m
  refine ⟨⟨rfl, fun h => ?_⟩, ⟨_, rfl, fun h => ?_⟩, ⟨rfl, fun h => ?_⟩⟩
  · have hwhole := (hiff _ _ ⟨500, none⟩ rfl nofun (.inl rfl) rfl rfl rfl).1 h
    -- half a millisecond is no whole number of milliseconds, and the cell lies at its start
    rcases hwhole.2.2 with hdvd | hgt | hle | hrows
    · exact absurd hdvd (by decide)
    · cases hgt
    · cases hle
    · exact hrows [.datetime 0] (by simp [stamps]) rfl
  · have hdate := (hiff _ _ _ rfl nofun (.inl rfl) rfl rfl rfl).1 h
    exact absurd (hdate.2.1 rfl nofun) (by decide)
  · have hlast := (hiff _ _ ⟨0, some 0⟩ rfl nofun (.inl rfl) rfl rfl rfl).1 h
    exact hlast.1 rfl

end Table

end SharedTables
