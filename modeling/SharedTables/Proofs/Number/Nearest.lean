import Mathlib.Algebra.Order.Field.Power
import Mathlib.Algebra.Order.Field.Rat
import Mathlib.Tactic
import SharedTables.Number.Binary

/-!
# The nearest number of a storage format

What it means for a number of a storage format to be nearest to a rational, ties going to the even
mantissa and what is too large becoming infinite, and that at most one number is.

## Key results

- `Format.Holds.magnitude_succ_le_of_lt`: a greater number of the format is at least one unit
  greater
- `Format.Holds.magnitude_add_gapBelow_le`: a smaller number is at least one unit smaller, or half a
  unit below a power of two
- `Format.InCell.isNearest`: a number is nearest to what lies in its cell
- `Format.IsNearest.unique`: at most one number is nearest
-/

namespace SharedTables

namespace Binary

/-- The rational `m · 2^e`. -/
def magnitude (m : Nat) (e : Int) : ℚ := m * 2 ^ e

/-- With one exponent the mantissas are ordered like the numbers. -/
theorem magnitude_lt_iff {m n : Nat} {e : Int} : magnitude m e < magnitude n e ↔ m < n := by
  have hpos : (0 : ℚ) < 2 ^ e := by positivity
  rw [magnitude, magnitude, mul_lt_mul_iff_left₀ hpos]
  exact Nat.cast_lt

/-- The same, for numbers that may be equal. -/
theorem magnitude_le_iff {m n : Nat} {e : Int} : magnitude m e ≤ magnitude n e ↔ m ≤ n := by
  rw [← not_lt, magnitude_lt_iff, not_lt]

/-- Units of a greater exponent are powers of two in units of a smaller one. -/
private theorem magnitude_add_nat (m : Nat) (e : Int) (k : Nat) :
    magnitude m (e + k) = magnitude (m * 2 ^ k) e := by
  rw [magnitude, magnitude, zpow_add₀ (by norm_num), zpow_natCast]
  push_cast; ring

/-- Units of one exponent are added up. -/
private theorem magnitude_add (m n : Nat) (e : Int) :
    magnitude (m + n) e = magnitude m e + magnitude n e := by
  rw [magnitude, magnitude, magnitude]
  push_cast; ring

/-- The next number with the same exponent is one unit further. -/
theorem magnitude_succ (m : Nat) (e : Int) : magnitude (m + 1) e = magnitude m e + 2 ^ e := by
  rw [magnitude, magnitude]
  push_cast; ring

namespace Format

/-- The finite numbers of a format, each in one form: the mantissa has as many binary digits as the
    format keeps, or the exponent is the least one. -/
structure Holds (f : Format) (m : Nat) (e : Int) : Prop where
  mantissa_lt : m < 2 ^ f.precision
  min_le : f.minExponent ≤ e
  le_max : e ≤ f.maxExponent
  normal : 2 ^ (f.precision - 1) ≤ m ∨ e = f.minExponent

/-- What is assumed of a storage format: at least two binary digits, and a range of exponents that
    reaches from fractions to whole numbers. -/
structure Usual (f : Format) : Prop where
  two_le_precision : 2 ≤ f.precision
  min_le_one : f.minExponent ≤ 1
  min_le_max : f.minExponent ≤ f.maxExponent
  integral : 0 ≤ f.maxExponent + f.precision

/-- The usual 64 bits are enough. -/
theorem usual_double : double.Usual := by constructor <;> decide

variable {f : Format}

/-- A power of two with one digit more is twice as large. -/
theorem Usual.two_pow_precision (hf : f.Usual) : 2 ^ f.precision = 2 * 2 ^ (f.precision - 1) := by
  have := hf.two_le_precision
  rw [← Nat.pow_succ', Nat.succ_eq_add_one, Nat.sub_add_cancel (by omega)]

/-! ### Neighbours -/

/-- A number whose exponent is greater than another's is the greater of the two. -/
private theorem Holds.magnitude_lt_of_exponent_lt (hf : f.Usual) {m n : Nat} {e g : Int}
    (hm : f.Holds m e) (hn : f.Holds n g) (h : e < g) : magnitude m e < magnitude n g := by
  obtain ⟨k, hk⟩ := Int.le.dest (Int.add_one_le_of_lt h)
  obtain rfl : g = e + ((k + 1 : Nat) : Int) := by push_cast; omega
  rw [magnitude_add_nat, magnitude_lt_iff]
  -- only at the least exponent can digits be missing, and `e` is below `g`
  have hnormal : 2 ^ (f.precision - 1) ≤ n := by
    rcases hn.normal with hn' | hn'
    · exact hn'
    · have := hm.min_le; omega
  calc m < 2 * 2 ^ (f.precision - 1) := hf.two_pow_precision ▸ hm.mantissa_lt
    _ ≤ n * 2 := by omega
    _ ≤ n * 2 ^ (k + 1) := Nat.mul_le_mul_left n (Nat.le_self_pow (by omega) 2)

/-- Two forms of one number of the format are the same. -/
private theorem Holds.eq_of_magnitude_eq (hf : f.Usual) {m n : Nat} {e g : Int} (hm : f.Holds m e)
    (hn : f.Holds n g) (h : magnitude m e = magnitude n g) : m = n ∧ e = g := by
  -- the number with the greater exponent would be greater
  rcases lt_trichotomy e g with he | rfl | he
  · exact absurd h (hm.magnitude_lt_of_exponent_lt hf hn he).ne
  · exact ⟨le_antisymm (magnitude_le_iff.1 h.le) (magnitude_le_iff.1 h.ge), rfl⟩
  · exact absurd h (hn.magnitude_lt_of_exponent_lt hf hm he).ne'

/-- The numbers of the format above `m · 2^e` are at least `(m + 1) · 2^e`. -/
theorem Holds.magnitude_succ_le_of_lt (hf : f.Usual) {m n : Nat} {e g : Int} (hm : f.Holds m e)
    (hn : f.Holds n g) (h : magnitude m e < magnitude n g) :
    magnitude (m + 1) e ≤ magnitude n g := by
  rcases le_or_gt e g with he | he
  · -- both numbers are multiples of `2^e`
    obtain ⟨k, rfl⟩ := Int.le.dest he
    rw [magnitude_add_nat] at h ⊢
    rw [magnitude_lt_iff] at h
    rw [magnitude_le_iff]
    exact h
  · exact absurd h (hn.magnitude_lt_of_exponent_lt hf hm he).not_gt

/-- How far below `m · 2^e` the next number of the format can be: below a power of two the spacing
    is half as wide. -/
def gapBelow (f : Format) (m : Nat) (e : Int) : ℚ :=
  if m = 2 ^ (f.precision - 1) ∧ f.minExponent < e then 2 ^ e / 2 else 2 ^ e

/-- There is a distance between any two numbers of the format. -/
theorem gapBelow_pos (f : Format) (m : Nat) (e : Int) : 0 < f.gapBelow m e := by
  unfold gapBelow
  split <;> positivity

/-- The gap below a number in units of a smaller exponent. -/
private theorem gapBelow_add_nat (f : Format) (m : Nat) (g : Int) (k : Nat) :
    f.gapBelow m (g + ((k + 1 : Nat) : Int)) =
      magnitude (if m = 2 ^ (f.precision - 1) ∧ f.minExponent < g + ((k + 1 : Nat) : Int)
        then 2 ^ k else 2 ^ (k + 1)) g := by
  have hsplit : (2 : ℚ) ^ (g + ((k + 1 : Nat) : Int)) = 2 * 2 ^ k * 2 ^ g := by
    rw [zpow_add₀ (by norm_num), zpow_natCast, pow_succ]; ring
  rw [gapBelow, hsplit]
  split
  · rw [magnitude]; push_cast; ring
  · rw [magnitude, pow_succ]; push_cast; ring

/-- The numbers of the format below `m · 2^e` keep the distance of the gap. -/
theorem Holds.magnitude_add_gapBelow_le (hf : f.Usual) {m n : Nat} {e g : Int} (hm : f.Holds m e)
    (hn : f.Holds n g) (h : magnitude n g < magnitude m e) :
    magnitude n g + f.gapBelow m e ≤ magnitude m e := by
  have hpos : (0 : ℚ) < 2 ^ e := by positivity
  rcases le_or_gt e g with he | he
  · -- both numbers are multiples of `2^e`, so the distance is a whole unit
    obtain ⟨k, rfl⟩ := Int.le.dest he
    rw [magnitude_add_nat] at h ⊢
    rw [magnitude_lt_iff] at h
    have hunit : magnitude (n * 2 ^ k) e + 2 ^ e ≤ magnitude m e := by
      rw [← magnitude_succ, magnitude_le_iff]
      exact h
    unfold gapBelow
    split <;> linarith
  · -- both numbers are multiples of `2^g`, and the greater one has all its binary digits
    obtain ⟨k, hk⟩ := Int.le.dest (Int.add_one_le_of_lt he)
    obtain rfl : e = g + ((k + 1 : Nat) : Int) := by push_cast; omega
    have hnormal : 2 ^ (f.precision - 1) ≤ m := by
      rcases hm.normal with hm' | hm'
      · exact hm'
      · have := hn.min_le; omega
    have hlt : n < 2 * 2 ^ (f.precision - 1) := hf.two_pow_precision ▸ hn.mantissa_lt
    have hk1 : 2 ^ (k + 1) = 2 * 2 ^ k := Nat.pow_succ'
    have hone : 1 ≤ 2 ^ k := Nat.one_le_two_pow
    rw [magnitude_add_nat, gapBelow_add_nat, ← magnitude_add, magnitude_le_iff]
    split
    · -- a power of two: the numbers below it are half as far apart
      rename_i hpow
      rw [hpow.1, hk1]
      nlinarith
    · rename_i hpow
      have hmin : f.minExponent < g + ((k + 1 : Nat) : Int) := by have := hn.min_le; omega
      have hsucc : 2 ^ (f.precision - 1) + 1 ≤ m := by
        have : m ≠ 2 ^ (f.precision - 1) := fun hm' => hpow ⟨hm', hmin⟩
        omega
      rw [hk1]
      nlinarith

/-! ### Rounding to the nearest -/

/-- What lies half a unit above the greatest number of the format, or further, is too large. -/
def limit (f : Format) : ℚ := (2 ^ f.precision - 1 / 2) * 2 ^ f.maxExponent

/-- The number of the format that is nearest to a rational `q ≥ 0`, with the given sign.  Of two
    equally near ones it is the one with the even mantissa; what is too large is infinite. -/
inductive IsNearest (f : Format) (negative : Bool) (q : ℚ) : Binary → Prop
  | finite {m : Nat} {e : Int} (holds : f.Holds m e) (lt_limit : q < f.limit)
      (nearest : ∀ n g, f.Holds n g → |q - magnitude m e| ≤ |q - magnitude n g|)
      (even : ∀ n g, f.Holds n g → magnitude n g ≠ magnitude m e →
        |q - magnitude n g| = |q - magnitude m e| → m % 2 = 0) :
      IsNearest f negative q (.finite negative m e)
  | infinite (limit_le : f.limit ≤ q) : IsNearest f negative q (.infinite negative)

/-- The rationals nearer to `m · 2^e` than to its neighbours, and for an even mantissa those
    halfway. -/
structure InCell (f : Format) (m : Nat) (e : Int) (q : ℚ) : Prop where
  low : magnitude m e - f.gapBelow m e / 2 ≤ q
  high : q ≤ magnitude m e + 2 ^ e / 2
  even : q = magnitude m e - f.gapBelow m e / 2 ∨ q = magnitude m e + 2 ^ e / 2 → m % 2 = 0

variable {m : Nat} {e : Int} {q : ℚ}

theorem InCell.lt_limit (hf : f.Usual) (hm : f.Holds m e) (hq : f.InCell m e q) :
    q < f.limit := by
  have hpos : (0 : ℚ) < 2 ^ e := by positivity
  have hhigh := hq.high
  have hsucc : (m : ℚ) + 1 ≤ 2 ^ f.precision := by exact_mod_cast hm.mantissa_lt
  have hfour : (4 : ℚ) ≤ 2 ^ f.precision := by
    calc (4 : ℚ) = 2 ^ 2 := by norm_num
      _ ≤ 2 ^ f.precision := pow_le_pow_right₀ (by norm_num) hf.two_le_precision
  rw [magnitude] at hhigh
  unfold limit
  rcases hm.le_max.lt_or_eq with hlt | heq
  · -- a smaller exponent leaves half of the range
    have hhalf : (2 : ℚ) * 2 ^ e ≤ 2 ^ f.maxExponent := by
      calc (2 : ℚ) * 2 ^ e = 2 ^ (e + 1) := by rw [zpow_add_one₀ (by norm_num)]; ring
        _ ≤ 2 ^ f.maxExponent := zpow_le_zpow_right₀ (by norm_num) (by omega)
    nlinarith
  · rw [← heq]
    refine lt_of_le_of_ne (by nlinarith) fun hlim => ?_
    -- only the greatest mantissa reaches the limit, and it is odd
    have hmax : (m : ℚ) + 1 = 2 ^ f.precision := by nlinarith
    have hodd : m + 1 = 2 * 2 ^ (f.precision - 1) := by
      rw [← hf.two_pow_precision]; exact_mod_cast hmax
    have heven := hq.even (.inr (by rw [hlim, magnitude, ← hmax]; ring))
    omega

/-- A number of the format is nearest to all that lies in its cell. -/
theorem InCell.isNearest (hf : f.Usual) (hm : f.Holds m e) (hq : f.InCell m e q)
    (negative : Bool) : f.IsNearest negative q (.finite negative m e) := by
  have hlow := hq.low
  have hhigh := hq.high
  have hpos : (0 : ℚ) < 2 ^ e := by positivity
  have hgap := f.gapBelow_pos m e
  refine .finite hm (hq.lt_limit hf hm) (fun n g hn => ?_) fun n g hn hne heq => ?_
  · -- any other number is on one side of the cell or on the other
    rcases lt_trichotomy (magnitude m e) (magnitude n g) with h | h | h
    · have hup := hm.magnitude_succ_le_of_lt hf hn h
      rw [magnitude_succ] at hup
      rw [abs_of_nonpos (by linarith : q - magnitude n g ≤ 0), abs_le]
      constructor <;> linarith
    · rw [h]
    · have hdown := hm.magnitude_add_gapBelow_le hf hn h
      rw [abs_of_nonneg (by linarith : 0 ≤ q - magnitude n g), abs_le]
      constructor <;> linarith
  · -- a number as near as this one makes `q` an end of the cell
    rcases lt_or_gt_of_ne hne with h | h
    · have hdown := hm.magnitude_add_gapBelow_le hf hn h
      rw [abs_of_nonneg (by linarith : 0 ≤ q - magnitude n g)] at heq
      refine hq.even (.inl ?_)
      rcases abs_cases (q - magnitude m e) with hcase | hcase <;> linarith
    · -- above the cell, and so at its upper end
      have hup := hm.magnitude_succ_le_of_lt hf hn h
      rw [magnitude_succ] at hup
      rw [abs_of_nonpos (by linarith : q - magnitude n g ≤ 0)] at heq
      refine hq.even (.inr ?_)
      rcases abs_cases (q - magnitude m e) with hcase | hcase <;> linarith

/-- Two different numbers that are equally near do not both have an even mantissa. -/
private theorem not_even_of_equally_near (hf : f.Usual) {n : Nat} {g : Int} (hm : f.Holds m e)
    (hn : f.Holds n g) (hlt : magnitude m e < magnitude n g)
    (hnear : ∀ k h, f.Holds k h → |q - magnitude m e| ≤ |q - magnitude k h|)
    (heq : |q - magnitude n g| = |q - magnitude m e|) : ¬(m % 2 = 0 ∧ n % 2 = 0) := by
  rintro ⟨hm2, hn2⟩
  have hsucc : f.Holds (m + 1) e := by
    have := hm.mantissa_lt
    have := hf.two_pow_precision
    exact ⟨by omega, hm.min_le, hm.le_max, hm.normal.imp_left (by omega)⟩
  have hup := hm.magnitude_succ_le_of_lt hf hn hlt
  have hstep : magnitude m e < magnitude (m + 1) e := magnitude_lt_iff.2 (Nat.lt_succ_self m)
  -- `q` lies halfway between the two, so the number after the smaller one is not nearer only if
  -- it is the greater one
  have hle := hnear (m + 1) e hsucc
  have hmid : magnitude n g - q = q - magnitude m e := by
    rcases abs_cases (q - magnitude n g) with h1 | h1 <;>
      rcases abs_cases (q - magnitude m e) with h2 | h2 <;> linarith
  rw [abs_of_nonneg (by linarith : 0 ≤ q - magnitude m e)] at hle
  have hsame : magnitude (m + 1) e = magnitude n g := by
    rcases abs_cases (q - magnitude (m + 1) e) with h1 | h1 <;> linarith
  have := (hsucc.eq_of_magnitude_eq hf hn hsame).1
  omega

/-- At most one number of the format is nearest. -/
theorem IsNearest.unique (hf : f.Usual) {negative : Bool} {x y : Binary}
    (hx : f.IsNearest negative q x) (hy : f.IsNearest negative q y) : x = y := by
  cases hx with
  | infinite hx =>
    cases hy with
    | infinite _ => rfl
    | finite _ hlim _ _ => exact absurd hx hlim.not_ge
  | @finite m e hm hlim hnear heven =>
    cases hy with
    | infinite hy => exact absurd hy hlim.not_ge
    | @finite n g hn _ hnear' heven' =>
      -- both are nearest, so they are equally near, and ties are not even on both sides
      have heq : |q - magnitude n g| = |q - magnitude m e| :=
        le_antisymm (hnear' m e hm) (hnear n g hn)
      rcases lt_trichotomy (magnitude m e) (magnitude n g) with h | h | h
      · exact absurd ⟨heven n g hn h.ne' heq, heven' m e hm h.ne heq.symm⟩
          (not_even_of_equally_near hf hm hn h hnear heq)
      · obtain ⟨rfl, rfl⟩ := hm.eq_of_magnitude_eq hf hn h
        rfl
      · exact absurd ⟨heven' m e hm h.ne' heq.symm, heven n g hn h.ne heq⟩
          (not_even_of_equally_near hf hn hm h hnear' heq.symm)

end Format

end Binary

end SharedTables
