import SharedTables.Number.Shortest
import SharedTables.Proofs.Number.Rounding

/-!
# The fewest digits read back

The decimal number that `Format.shortest` finds for a number of 64 bits is nearest to that number
again, whatever its digits and its exponent are written as.

## Key results

- `Interval.contains_iff`: the test of a point of a grid is exact
- `inCell_of_contains`: what passes the test lies in the cell of the number
- `exists_onGrid`: the finest grid has a point in the interval
- `isNearest_shortest`: the number is nearest to its shortest decimal form
-/

namespace SharedTables

namespace Binary

/-! ### Comparing powers of ten and two -/

private theorem zpow_mul_pow_toNat {b : ℚ} (hb : b ≠ 0) (n : Int) :
    b ^ n * b ^ (-n).toNat = b ^ n.toNat := by
  rw [← zpow_natCast, ← zpow_natCast, ← zpow_add₀ hb]
  congr 1; omega

/-- `28 / 93` is a little above and `3 / 10` a little below the logarithm of two. -/
private theorem ten_zpow_le_two_zpow {k n : Int} (hpos : 0 ≤ k → 10 * k ≤ 3 * n)
    (hneg : k < 0 → 93 * k ≤ 28 * n) : (10 : ℚ) ^ k ≤ 2 ^ n := by
  rcases lt_or_ge k 0 with hk | hk
  · rcases lt_or_ge n 0 with hn | hn
    · obtain ⟨i, hi⟩ := Int.eq_ofNat_of_zero_le (show 0 ≤ -k by omega)
      obtain ⟨j, hj⟩ := Int.eq_ofNat_of_zero_le (show 0 ≤ -n by omega)
      have hij : 28 * j ≤ 93 * i := by have := hneg hk; omega
      -- compare the 93rd powers: `2^93` is less than `10^28`
      have hnat : 2 ^ j ≤ 10 ^ i := by
        refine le_of_pow_le_pow_left₀ (show 93 ≠ 0 by decide) (Nat.zero_le _) ?_
        calc (2 ^ j) ^ 93 = (2 ^ 93) ^ j := by rw [← pow_mul, ← pow_mul, mul_comm]
          _ ≤ (10 ^ 28) ^ j := Nat.pow_le_pow_left (by norm_num) j
          _ = 10 ^ (28 * j) := (pow_mul 10 28 j).symm
          _ ≤ 10 ^ (93 * i) := Nat.pow_le_pow_right (by norm_num) hij
          _ = (10 ^ i) ^ 93 := by rw [← pow_mul, mul_comm]
      rw [show k = -(i : Int) by omega, show n = -(j : Int) by omega, zpow_neg, zpow_neg,
        zpow_natCast, zpow_natCast]
      gcongr
      exact_mod_cast hnat
    · -- the powers lie on two sides of one
      calc (10 : ℚ) ^ k ≤ 1 := zpow_le_one_of_nonpos₀ (by norm_num) hk.le
        _ ≤ 2 ^ n := one_le_zpow₀ (by norm_num) hn
  · obtain ⟨i, rfl⟩ := Int.eq_ofNat_of_zero_le hk
    obtain ⟨j, rfl⟩ := Int.eq_ofNat_of_zero_le (show 0 ≤ n by have := hpos hk; omega)
    have hij : 10 * i ≤ 3 * j := by have := hpos hk; omega
    -- compare the third powers: `10^3` is less than `2^10`
    have hnat : 10 ^ i ≤ 2 ^ j := by
      refine le_of_pow_le_pow_left₀ (show 3 ≠ 0 by decide) (Nat.zero_le _) ?_
      calc (10 ^ i) ^ 3 = (10 ^ 3) ^ i := by rw [← pow_mul, ← pow_mul, mul_comm]
        _ ≤ (2 ^ 10) ^ i := Nat.pow_le_pow_left (by norm_num) i
        _ = 2 ^ (10 * i) := (pow_mul 2 10 i).symm
        _ ≤ 2 ^ (3 * j) := Nat.pow_le_pow_right (by norm_num) hij
        _ = (2 ^ j) ^ 3 := by rw [← pow_mul, mul_comm]
    rw [zpow_natCast, zpow_natCast]
    exact_mod_cast hnat

/-! ### The test of a point -/

/-- A point `c · 10^k` and a multiple of `2^u`, cleared of their denominators. -/
private theorem cleared_le_iff (a c : Nat) (u k : Int) :
    (a * (2 ^ u.toNat * 10 ^ (-k).toNat) ≤ c * 10 ^ k.toNat * 2 ^ (-u).toNat ↔
      magnitude a u ≤ c * 10 ^ k) ∧
    (c * 10 ^ k.toNat * 2 ^ (-u).toNat ≤ a * (2 ^ u.toNat * 10 ^ (-k).toNat) ↔
      (c : ℚ) * 10 ^ k ≤ magnitude a u) := by
  have hscale : (0 : ℚ) < 2 ^ (-u).toNat * 10 ^ (-k).toNat := by positivity
  -- both sides are cleared of the powers in their denominators
  have hmul : ((a * (2 ^ u.toNat * 10 ^ (-k).toNat) : Nat) : ℚ) =
      magnitude a u * (2 ^ (-u).toNat * 10 ^ (-k).toNat) := by
    push_cast
    rw [magnitude, ← zpow_mul_pow_toNat (by norm_num : (2 : ℚ) ≠ 0) u]
    ring
  have hpoint : ((c * 10 ^ k.toNat * 2 ^ (-u).toNat : Nat) : ℚ) =
      c * 10 ^ k * (2 ^ (-u).toNat * 10 ^ (-k).toNat) := by
    push_cast
    rw [← zpow_mul_pow_toNat (by norm_num : (10 : ℚ) ≠ 0) k]
    ring
  rw [← @Nat.cast_le ℚ, ← @Nat.cast_le ℚ, hmul, hpoint,
    mul_le_mul_iff_left₀ hscale, mul_le_mul_iff_left₀ hscale]
  exact ⟨Iff.rfl, Iff.rfl⟩

/-- The test of a point of a grid is exact. -/
theorem Interval.contains_iff (i : Interval) (e : Int) (c : Nat) (k : Int) :
    i.contains e c k = true ↔
      if i.closed then magnitude i.low (e - 2) ≤ c * 10 ^ k ∧ c * 10 ^ k ≤ magnitude i.high (e - 2)
      else magnitude i.low (e - 2) < c * 10 ^ k ∧ c * 10 ^ k < magnitude i.high (e - 2) := by
  obtain ⟨hl, hl'⟩ := cleared_le_iff i.low c (e - 2) k
  obtain ⟨hh, hh'⟩ := cleared_le_iff i.high c (e - 2) k
  rw [contains]
  simp only [Nat.pow_eq]
  -- the ends belong to the interval or they do not
  split
  · rw [Bool.and_eq_true, decide_eq_true_iff, decide_eq_true_iff, hl, hh']
  · rw [Bool.and_eq_true, decide_eq_true_iff, decide_eq_true_iff, ← not_le, ← not_le, hl', hh,
      not_le, not_le]

namespace Format

variable {f : Format} {m : Nat} {e : Int}

/-- A point that passes the test lies in the cell of the number. -/
theorem inCell_of_contains (hm : m ≠ 0) {c : Nat} {k : Int}
    (h : (f.intervalOf m e).contains e c k = true) : f.InCell m e (c * 10 ^ k) := by
  -- the interval is given in quarters of a unit
  have hunit : (2 : ℚ) ^ e = 4 * 2 ^ (e - 2) := by
    rw [zpow_sub₀ (by norm_num)]; norm_num; ring
  have hpos : (0 : ℚ) < 2 ^ (e - 2) := by positivity
  have hlow : magnitude (f.intervalOf m e).low (e - 2) = magnitude m e - f.gapBelow m e / 2 := by
    rw [intervalOf, gapBelow, magnitude, magnitude, Nat.pow_eq]
    split <;> (rw [Nat.cast_sub (by omega), hunit]; push_cast; ring)
  have hhigh : magnitude (f.intervalOf m e).high (e - 2) = magnitude m e + 2 ^ e / 2 := by
    rw [intervalOf, magnitude, magnitude, hunit]; push_cast; ring
  rw [Interval.contains_iff, hlow, hhigh] at h
  split at h
  · rename_i hclosed
    exact ⟨h.1, h.2, fun _ => by simpa [intervalOf] using hclosed⟩
  · -- without its ends the interval does not touch those of the cell
    refine ⟨h.1.le, h.2.le, fun hend => ?_⟩
    rcases hend with hend | hend
    · exact absurd hend h.1.ne'
    · exact absurd hend h.2.ne

/-- A quotient is rounded to one of its two neighbours. -/
private theorem roundDiv_eq_or (n d : Nat) : roundDiv n d = n / d ∨ roundDiv n d = n / d + 1 := by
  simp only [roundDiv]
  split
  · exact .inl rfl
  · split
    · exact .inr rfl
    · split
      · exact .inl rfl
      · exact .inr rfl

/-- The point that is found on a grid passes the test. -/
private theorem contains_of_onGrid {i : Interval} {k : Int} {d : Decimal}
    (h : i.onGrid e k = some d) :
    i.contains e d.digits d.exponent = true := by
  rw [Interval.onGrid] at h
  simp only [Nat.pow_eq] at h
  split at h
  · -- both neighbours are in the interval, and rounding takes one of them
    rename_i hbelow habove
    cases h
    rcases roundDiv_eq_or (i.value * 2 ^ (e - 2).toNat * 10 ^ (-k).toNat)
      (2 ^ (-(e - 2)).toNat * 10 ^ k.toNat) with hround | hround
    · rw [hround]; exact hbelow
    · rw [hround]; exact habove
  · cases h; assumption
  · cases h; assumption
  · exact nomatch h

/-! ### The finest grid -/

/-- On a grid as fine as a quarter of a unit the neighbour below the number is in the interval. -/
private theorem contains_below (hm : m ≠ 0) {k : Int} (hk : (10 : ℚ) ^ k ≤ 2 ^ (e - 2)) :
    (f.intervalOf m e).contains e
      (4 * m * 2 ^ (e - 2).toNat * 10 ^ (-k).toNat / (2 ^ (-(e - 2)).toNat * 10 ^ k.toNat)) k =
        true := by
  generalize hbelow :
    4 * m * 2 ^ (e - 2).toNat * 10 ^ (-k).toNat / (2 ^ (-(e - 2)).toNat * 10 ^ k.toNat) = below
  have hden : 0 < 2 ^ (-(e - 2)).toNat * 10 ^ k.toNat := by positivity
  have hpos : (0 : ℚ) < 2 ^ (e - 2) := by positivity
  -- the number lies between two neighbours on the grid
  have hle : (below : ℚ) * 10 ^ k ≤ magnitude (4 * m) (e - 2) := by
    rw [← (cleared_le_iff (4 * m) below (e - 2) k).2]
    have := Nat.div_mul_le_self (4 * m * 2 ^ (e - 2).toNat * 10 ^ (-k).toNat)
      (2 ^ (-(e - 2)).toNat * 10 ^ k.toNat)
    rw [hbelow] at this
    linarith
  have hlt : magnitude (4 * m) (e - 2) < ((below + 1 : Nat) : ℚ) * 10 ^ k := by
    rw [← not_le, ← (cleared_le_iff (4 * m) (below + 1) (e - 2) k).2, not_le]
    have := Nat.lt_mul_div_succ (4 * m * 2 ^ (e - 2).toNat * 10 ^ (-k).toNat) hden
    rw [hbelow] at this
    linarith
  -- one step of the grid is at most a quarter of a unit, the interval reaches further down
  have hlow : magnitude (f.intervalOf m e).low (e - 2) < below * 10 ^ k := by
    have hquarter : magnitude (f.intervalOf m e).low (e - 2) ≤ magnitude (4 * m - 1) (e - 2) := by
      rw [magnitude_le_iff]
      dsimp only [intervalOf]
      split <;> omega
    have hsucc := magnitude_succ (4 * m - 1) (e - 2)
    rw [show 4 * m - 1 + 1 = 4 * m by omega] at hsucc
    push_cast at hlt
    linarith
  have hhigh : (below : ℚ) * 10 ^ k < magnitude (f.intervalOf m e).high (e - 2) :=
    lt_of_le_of_lt hle (magnitude_lt_iff.2 (by dsimp only [intervalOf]; omega))
  rw [Interval.contains_iff]
  split
  · exact ⟨hlow.le, hhigh.le⟩
  · exact ⟨hlow, hhigh⟩

/-- A fine enough grid has a point in the interval of a number. -/
theorem exists_onGrid (hm : m ≠ 0) {k : Int} (hk : (10 : ℚ) ^ k ≤ 2 ^ (e - 2)) :
    ∃ d, (f.intervalOf m e).onGrid e k = some d := by
  have hbelow := contains_below (f := f) hm hk
  rw [Interval.onGrid]
  simp only [intervalOf, Nat.pow_eq] at hbelow ⊢
  rw [hbelow]
  -- the lower neighbour is a hit, whatever the upper one is
  split
  · exact ⟨_, rfl⟩
  · exact ⟨_, rfl⟩
  · rename_i hfalse _
    exact nomatch hfalse
  · rename_i hfalse _
    exact nomatch hfalse

/-- The last of the grids that are tried is fine enough for every number of 64 bits. -/
private theorem finest_grid (hm : double.Holds m e) :
    (10 : ℚ) ^ (decimalCeiling m e - 23) ≤ 2 ^ (e - 2) := by
  -- a number has 53 binary digits, so a grid 23 places below its leading digit is fine enough
  have hlog : m.log2 ≤ 52 := by
    by_cases h0 : m = 0
    · subst h0; decide
    · exact Nat.le_of_lt_succ ((Nat.log2_lt h0).2 hm.mantissa_lt)
  have hmin : -1074 ≤ e := hm.min_le
  have hmax : e ≤ 971 := hm.le_max
  rw [decimalCeiling]
  refine ten_zpow_le_two_zpow (fun hk => ?_) fun hk => ?_
  · omega
  · omega

/-! ### Shortest decimal forms -/

/-- The shortest decimal form of a number other than zero lies in the cell of the number. -/
private theorem inCell_shortest (hm : double.Holds m e) (h0 : m ≠ 0) :
    double.InCell m e
      ((double.shortest m e).digits * 10 ^ (double.shortest m e).exponent) := by
  rw [shortest, if_neg h0]
  dsimp only
  cases hfound : (List.range 24).findSome?
      fun (j : Nat) => (double.intervalOf m e).onGrid e (decimalCeiling m e - j) with
  | none =>
    -- the last grid has a point
    obtain ⟨d, hd⟩ := exists_onGrid (f := double) h0 (finest_grid hm)
    have hnone := List.findSome?_eq_none_iff.1 hfound 23 (by decide)
    rw [show ((23 : Nat) : Int) = 23 from rfl, hd] at hnone
    exact nomatch hnone
  | some d =>
    obtain ⟨j, -, hj⟩ := List.exists_of_findSome?_eq_some hfound
    exact inCell_of_contains h0 (contains_of_onGrid hj)

/-- A number of 64 bits is nearest to its shortest decimal form. -/
theorem isNearest_shortest (hm : double.Holds m e) (negative : Bool) :
    double.IsNearest negative
      ((double.shortest m e).digits * 10 ^ (double.shortest m e).exponent)
      (.finite negative m e) := by
  by_cases h0 : m = 0
  · -- zero has one exponent
    obtain rfl : e = double.minExponent := by
      refine hm.normal.resolve_left fun h => ?_
      rw [h0] at h
      exact absurd h (by decide)
    have hzero : double.shortest m double.minExponent = ⟨0, 0⟩ := if_pos h0
    rw [hzero, h0]
    exact zero_isNearest usual_double (by simp) (by simp only [Nat.cast_zero, zero_mul]; positivity)
      negative
  · exact (inCell_shortest hm h0).isNearest usual_double hm negative

end Format

end Binary

end SharedTables
