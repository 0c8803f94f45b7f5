import Mathlib
import SharedTables.Calendar.Date
import SharedTables.Proofs.Number.Digits

/-!
# The order of dates

The days of the calendar come in the same order by their year, month and day, by their text
`YYYY-MM-DD` and by the days since 1970.

## Key results

- `daysSinceEpoch_lt`: a day that comes first has the smaller count
- `text_lt`: a day that comes first has the text that comes first
- `compare_text`: texts and counts compare alike
- `text_of_read?`: only the text of a day is read as the day
-/

namespace SharedTables

namespace Date

/-- The day comes before the other in the calendar. -/
def Before (d e : Date) : Prop :=
  d.year < e.year ∨ d.year = e.year ∧ (d.month < e.month ∨ d.month = e.month ∧ d.day < e.day)

private theorem before_trichotomy (d e : Date) : d.Before e ∨ d = e ∨ e.Before d := by
  obtain ⟨y, m, a⟩ := d
  obtain ⟨y', m', a'⟩ := e
  simp only [Before, Date.mk.injEq]
  omega

/-! ### Days of a year -/

/-- The number of days of a year. -/
def daysInYear (year : Nat) : Nat :=
  if isLeap year then 366 else 365

private theorem daysBeforeYear_succ {year : Nat} (h : 1 ≤ year) :
    daysBeforeYear (year + 1) = daysBeforeYear year + daysInYear year := by
  obtain ⟨y, rfl⟩ := Nat.exists_eq_add_of_le' h
  -- each quotient grows in the years that its divisor divides
  have h4 : (y + 1) / 4 = y / 4 + if (y + 1) % 4 = 0 then 1 else 0 := by split <;> omega
  have h100 : (y + 1) / 100 = y / 100 + if (y + 1) % 100 = 0 then 1 else 0 := by split <;> omega
  have h400 : (y + 1) / 400 = y / 400 + if (y + 1) % 400 = 0 then 1 else 0 := by split <;> omega
  have hsmall : y / 100 ≤ 365 * y := by omega
  have h4of100 : (y + 1) % 100 = 0 → (y + 1) % 4 = 0 := by omega
  have h100of400 : (y + 1) % 400 = 0 → (y + 1) % 100 = 0 := by omega
  simp only [daysBeforeYear, daysInYear, isLeap, Bool.and_eq_true, Bool.or_eq_true, beq_iff_eq,
    bne_iff_ne, Nat.add_sub_cancel, h4, h100, h400]
  generalize (y + 1) % 4 = r4 at *
  generalize (y + 1) % 100 = r100 at *
  generalize (y + 1) % 400 = r400 at *
  generalize y / 4 = q4, y / 100 = q100, y / 400 = q400 at *
  clear h4 h100 h400
  split_ifs <;> omega

/-- The years that come first end before a year begins. -/
private theorem daysBeforeYear_lt {year year' : Nat} (h : 1 ≤ year) (hlt : year < year') :
    daysBeforeYear year + daysInYear year ≤ daysBeforeYear year' := by
  obtain ⟨k, rfl⟩ := Nat.exists_eq_add_of_lt hlt
  -- year by year
  induction k with
  | zero => exact (daysBeforeYear_succ h).ge
  | succ k ih =>
    have hsucc := @daysBeforeYear_succ (year + k + 1) (by omega)
    have hle := ih (by omega)
    rw [← Nat.add_assoc, hsucc]
    omega

/-- The months that come first end before a month begins. -/
private theorem daysBeforeMonth_lt {year m m' : Nat} (hm : 1 ≤ m) (hlt : m < m') (hm' : m' ≤ 12) :
    daysBeforeMonth year m + daysInMonth year m ≤ daysBeforeMonth year m' := by
  obtain ⟨k, rfl⟩ := Nat.exists_eq_add_of_le' hm
  simp only [daysBeforeMonth, daysInMonth, Nat.add_sub_cancel]
  generalize isLeap year = leap
  -- there are only so many pairs of months
  have hall : ∀ leap : Bool, ∀ m' < 13, ∀ k < m' - 1,
      ((monthLengths leap).take k).foldl (· + ·) 0 + (monthLengths leap).getD k 0 ≤
        ((monthLengths leap).take (m' - 1)).foldl (· + ·) 0 := by
    decide
  exact hall leap m' (by omega) k (by omega)

/-- The last month ends with the year. -/
private theorem daysBeforeMonth_le {year m : Nat} (hm : 1 ≤ m) (hm' : m ≤ 12) :
    daysBeforeMonth year m + daysInMonth year m ≤ daysInYear year := by
  obtain ⟨k, rfl⟩ := Nat.exists_eq_add_of_le' hm
  simp only [daysBeforeMonth, daysInMonth, daysInYear, Nat.add_sub_cancel]
  generalize isLeap year = leap
  have hall : ∀ leap : Bool, ∀ k < 12,
      ((monthLengths leap).take k).foldl (· + ·) 0 + (monthLengths leap).getD k 0 ≤
        if leap then 366 else 365 := by
    decide
  exact hall leap k (by omega)

/-! ### Counts -/

/-- The parts of a day that exists. -/
theorem bounds {d : Date} (h : d.isValid = true) : 1 ≤ d.year ∧ d.year ≤ 9999 ∧ 1 ≤ d.month ∧
    d.month ≤ 12 ∧ 1 ≤ d.day ∧ d.day ≤ daysInMonth d.year d.month ∧ d.day ≤ 31 := by
  obtain ⟨y, m, a⟩ := d
  simp only [isValid, Bool.and_eq_true, decide_eq_true_eq] at h
  obtain ⟨⟨⟨hy, hy'⟩, ha⟩, ha'⟩ := h
  -- a month that does not exist has no days
  have hmonth : 1 ≤ m ∧ m ≤ 12 := by
    rcases m with _ | k
    · exact absurd (ha.trans ha') (Nat.not_succ_le_zero 0)
    · refine ⟨by omega, Nat.le_of_not_lt fun hk => ?_⟩
      have hlength : (monthLengths (isLeap y)).length ≤ k := by
        simp only [monthLengths, List.length_cons, List.length_nil]
        omega
      rw [daysInMonth, List.getD_eq_default _ _ hlength] at ha'
      omega
  have hdays : daysInMonth y m ≤ 31 := by
    obtain ⟨k, rfl⟩ := Nat.exists_eq_add_of_le' hmonth.1
    have hall : ∀ leap : Bool, ∀ k < 12, (monthLengths leap).getD k 0 ≤ 31 := by decide
    exact hall (isLeap y) k (by omega)
  exact ⟨hy, hy', hmonth.1, hmonth.2, ha, ha', ha'.trans hdays⟩

/-- A day that comes first has the smaller count. -/
theorem daysSinceEpoch_lt {d e : Date} (hd : d.isValid = true) (he : e.isValid = true)
    (h : d.Before e) : d.daysSinceEpoch < e.daysSinceEpoch := by
  obtain ⟨hy, -, hm, hm', ha, ha', -⟩ := bounds hd
  obtain ⟨-, -, -, he', hb, -, -⟩ := bounds he
  -- the first part that differs decides, as all that comes after it is less than one unit of it
  have hordinal : d.ordinal < e.ordinal := by
    simp only [ordinal]
    rcases h with h | ⟨heq, h | ⟨heq', h⟩⟩
    · have hyears := daysBeforeYear_lt hy h
      have hmonths := @daysBeforeMonth_le d.year d.month hm hm'
      omega
    · have hmonths := @daysBeforeMonth_lt d.year d.month e.month hm h he'
      rw [← heq]
      omega
    · rw [← heq, ← heq']
      omega
  simp only [daysSinceEpoch]
  omega

/-! ### Texts -/

/-- The smaller of two numbers of as many places comes first, whatever follows. -/
private theorem padZeros_lt {width m n : Nat} (hwidth : 0 < width) (h : m < n) (hn : n < 10 ^ width)
    (x y : List Char) :
    (padZeros width (natText m)).toList ++ x < (padZeros width (natText n)).toList ++ y := by
  obtain ⟨hlength, hdigits, hvalue⟩ := Text.padZeros_natText hwidth (h.trans hn)
  obtain ⟨hlength', hdigits', hvalue'⟩ := Text.padZeros_natText hwidth hn
  refine Text.lt_of_digitsValue_lt hdigits hdigits' (hlength.trans hlength'.symm) ?_ x y
  rwa [hvalue, hvalue']

/-- The characters of the text of a day. -/
theorem toList_text (d : Date) : d.text.toList =
    (padZeros 4 (natText d.year)).toList ++ '-' :: ((padZeros 2 (natText d.month)).toList ++
      '-' :: (padZeros 2 (natText d.day)).toList) := by
  simp [text]

/-- A day that comes first has the text that comes first. -/
theorem text_lt {d e : Date} (hd : d.isValid = true) (he : e.isValid = true) (h : d.Before e) :
    d.text < e.text := by
  obtain ⟨-, hy, -, hm, -, -, ha⟩ := bounds hd
  obtain ⟨-, hy', -, hm', -, -, ha'⟩ := bounds he
  rw [String.lt_iff_toList_lt, toList_text, toList_text]
  -- all before the first part that differs is the same in both
  rcases h with h | ⟨heq, h | ⟨heq', h⟩⟩
  · exact padZeros_lt (by decide) h (by omega) _ _
  · rw [heq]
    refine List.append_left_lt (List.cons_lt_cons_iff.2 (.inr ⟨rfl, ?_⟩))
    exact padZeros_lt (by decide) h (by omega) _ _
  · rw [heq, heq']
    refine List.append_left_lt (List.cons_lt_cons_iff.2 (.inr ⟨rfl, ?_⟩))
    refine List.append_left_lt (List.cons_lt_cons_iff.2 (.inr ⟨rfl, ?_⟩))
    have hlt := padZeros_lt (show 0 < 2 by decide) h (by omega) [] []
    rwa [List.append_nil, List.append_nil] at hlt

/-- Texts and counts compare alike. -/
theorem compare_text {d e : Date} (hd : d.isValid = true) (he : e.isValid = true) :
    compare d.text e.text = compare d.daysSinceEpoch e.daysSinceEpoch := by
  rcases before_trichotomy d e with h | rfl | h
  · rw [compare_lt_iff_lt.2 (text_lt hd he h), compare_lt_iff_lt.2 (daysSinceEpoch_lt hd he h)]
  · rw [Std.ReflOrd.compare_self, Std.ReflOrd.compare_self]
  · rw [compare_gt_iff_gt.2 (text_lt he hd h), compare_gt_iff_gt.2 (daysSinceEpoch_lt he hd h)]

/-- What is read as digits is the number that they write, in as many places. -/
private theorem eq_of_readDigits? {count n : Nat} {cs rest : List Char} (hcount : 0 < count)
    (h : readDigits? count cs = some (n, rest)) :
    cs = (padZeros count (natText n)).toList ++ rest := by
  simp only [readDigits?] at h
  split at h
  · rename_i hdigits
    obtain ⟨hlength, hall⟩ := hdigits
    obtain ⟨rfl, rfl⟩ := Prod.mk.inj (Option.some.inj h)
    rw [List.all_eq_true] at hall
    -- as many digits with the same value are the same digits
    have hlt := Text.digitsValue_lt hall
    rw [hlength] at hlt
    obtain ⟨hlength', hall', hvalue⟩ := Text.padZeros_natText hcount hlt
    rw [← Text.eq_of_digitsValue_eq hall hall' (hlength.trans hlength'.symm) hvalue.symm,
      List.take_append_drop]
  · simp at h

/-- Only the text of a day is read as the day. -/
theorem text_of_read? {s : String} {d : Date} (h : read? s = some d) :
    d.isValid = true ∧ s = d.text := by
  simp only [read?, Option.bind_eq_bind, Option.bind_eq_some_iff] at h
  obtain ⟨⟨year, rest⟩, hyear, h⟩ := h
  dsimp only at h
  split at h
  · obtain ⟨⟨month, rest⟩, hmonth, h⟩ := Option.bind_eq_some_iff.1 h
    dsimp only at h
    split at h
    · obtain ⟨⟨day, rest⟩, hday, h⟩ := Option.bind_eq_some_iff.1 h
      simp only [checked?] at h
      split at h
      · rename_i hempty
        split at h
        · rename_i hvalid
          obtain rfl := Option.some.inj h
          refine ⟨hvalid, String.toList_inj.1 ?_⟩
          have hday := eq_of_readDigits? (by decide) hday
          rw [List.isEmpty_iff.1 hempty, List.append_nil] at hday
          rw [toList_text, eq_of_readDigits? (by decide) hyear,
            eq_of_readDigits? (by decide) hmonth, hday]
        · simp at h
      · simp at h
    · simp at h
  · simp at h

end Date

end SharedTables
