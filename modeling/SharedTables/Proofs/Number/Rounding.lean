import SharedTables.Proofs.Number.Nearest

/-!
# Rounding finds the nearest number

`Format.ofRatio` and `Format.ofDecimal` give the number of the format that is nearest to what they
are asked for.

## Key results

- `exponentFor_spec`: the chosen exponent leaves as many binary digits as the format keeps
- `ofRatio_isNearest`: a quotient is rounded to the nearest number
- `ofDecimal_isNearest`: so is a decimal number, also where its exponent is not computed with
-/

namespace SharedTables

namespace Binary

private theorem magnitude_two_pow (k : Nat) (e : Int) : magnitude (2 ^ k) e = 2 ^
    ((k : Int) + e) := by
  rw [magnitude, zpow_add₀ (by norm_num), zpow_natCast]
  push_cast; ring

namespace Format

/-! ### Scaling -/

private theorem inExponent_snd_pos (num : Nat) {den : Nat} (hden : 0 < den) (e : Int) :
    0 < (inExponent num den e).2 := by
  simp only [inExponent, Nat.shiftLeft_eq]
  exact Nat.mul_pos hden (Nat.two_pow_pos _)

/-- A quotient in units of `2^e`. -/
theorem inExponent_ratio (num : Nat) {den : Nat} (hden : 0 < den) (e : Int) :
    ((inExponent num den e).1 : ℚ) / (inExponent num den e).2 * 2 ^ e = num / den := by
  have hd : (den : ℚ) ≠ 0 := by positivity
  simp only [inExponent, Nat.shiftLeft_eq]
  -- one of the two shifts is by nothing
  rcases Int.le_total 0 e with he | he
  · obtain ⟨k, rfl⟩ := Int.eq_ofNat_of_zero_le he
    rw [zpow_natCast]
    have : (-(k : Int)).toNat = 0 := by omega
    simp only [this, Int.toNat_natCast]
    push_cast
    field_simp
  · obtain ⟨k, hk⟩ := Int.eq_ofNat_of_zero_le (Int.neg_nonneg.2 he)
    obtain rfl : e = -(k : Int) := by omega
    have : (-(k : Int)).toNat = 0 := by omega
    rw [zpow_neg, zpow_natCast]
    simp only [this, neg_neg, Int.toNat_natCast]
    push_cast
    field_simp

/-- A quotient lies between two powers of two that the binary lengths of its parts give. -/
private theorem ratio_between_two_pow {num den : Nat} (hnum : num ≠ 0) (hden : den ≠ 0) :
    (2 : ℚ) ^ ((num.log2 : Int) - den.log2 - 1) ≤ num / den ∧
      (num : ℚ) / den < 2 ^ ((num.log2 : Int) - den.log2 + 1) := by
  have hnl : (2 : ℚ) ^ num.log2 ≤ num := by exact_mod_cast Nat.log2_self_le hnum
  have hnh : (num : ℚ) < 2 ^ (num.log2 + 1) := by exact_mod_cast Nat.lt_log2_self
  have hdl : (2 : ℚ) ^ den.log2 ≤ den := by exact_mod_cast Nat.log2_self_le hden
  have hdh : (den : ℚ) < 2 ^ (den.log2 + 1) := by exact_mod_cast Nat.lt_log2_self
  have hd : (0 : ℚ) < den := by positivity
  constructor
  · -- the numerator is at least its leading bit, the denominator below the next power
    rw [le_div_iff₀ hd]
    calc (2 : ℚ) ^ ((num.log2 : Int) - den.log2 - 1) * den
        ≤ 2 ^ ((num.log2 : Int) - den.log2 - 1) * 2 ^ (den.log2 + 1) := by gcongr
      _ = 2 ^ num.log2 := by
        rw [← zpow_natCast, ← zpow_add₀ (by norm_num), ← zpow_natCast]
        congr 1; push_cast; ring
      _ ≤ num := hnl
  · -- and the other way round
    rw [div_lt_iff₀ hd]
    calc (num : ℚ) < 2 ^ (num.log2 + 1) := hnh
      _ = 2 ^ ((num.log2 : Int) - den.log2 + 1) * 2 ^ den.log2 := by
        rw [← zpow_natCast 2 den.log2, ← zpow_add₀ (by norm_num), ← zpow_natCast]
        congr 1; push_cast; ring
      _ ≤ 2 ^ ((num.log2 : Int) - den.log2 + 1) * den := by gcongr

variable {f : Format}

/-- The exponent that the binary lengths of a quotient suggest is right or one too great, and the
    scaled quotient tells which. -/
private theorem exact_exponent {num den : Nat} (hp : 1 ≤ f.precision) (hnum : num ≠ 0)
    (hden : den ≠ 0) {guess : Int}
    (hguess : (num.log2 : Int) - den.log2 - ((f.precision : Int) - 1) = guess) :
    ∃ exact : Int, exact = (if (inExponent num den guess).1 / (inExponent num den guess).2 <
        Nat.pow 2 (f.precision - 1) then guess - 1 else guess) ∧
      magnitude (2 ^ (f.precision - 1)) exact ≤ (num : ℚ) / den ∧
      (num : ℚ) / den < magnitude (2 ^ f.precision) exact := by
  refine ⟨_, rfl, ?_⟩
  obtain ⟨hlow, hhigh⟩ := ratio_between_two_pow hnum hden
  have hden' : 0 < den := Nat.pos_of_ne_zero hden
  -- the guess is right or one too large, which the scaled quotient tells
  have hratio := inExponent_ratio num hden' guess
  have hpos : (0 : ℚ) < (inExponent num den guess).2 := by
    exact_mod_cast inExponent_snd_pos num hden' guess
  split
  · -- the scaled quotient bounds from above, the lengths from below
    rename_i hsmall
    rw [magnitude_two_pow, magnitude_two_pow]
    constructor
    · refine le_trans (zpow_le_zpow_right₀ (by norm_num) ?_) hlow
      omega
    · rw [Nat.div_lt_iff_lt_mul (inExponent_snd_pos num hden' guess)] at hsmall
      have hlt : ((inExponent num den guess).1 : ℚ) / (inExponent num den guess).2 <
          2 ^ (f.precision - 1) := by
        rw [div_lt_iff₀ hpos]; exact_mod_cast hsmall
      rw [← hratio]
      calc _ < (2 : ℚ) ^ (f.precision - 1) * 2 ^ guess := by gcongr
        _ = 2 ^ ((f.precision : Int) + (guess - 1)) := by
          rw [← zpow_natCast, ← zpow_add₀ (by norm_num)]
          congr 1; omega
  · -- here it is the other way round
    rename_i hlarge
    rw [Nat.not_lt, Nat.le_div_iff_mul_le (inExponent_snd_pos num hden' guess)] at hlarge
    constructor
    · rw [← hratio, magnitude]
      have hle : (2 : ℚ) ^ (f.precision - 1) ≤
          ((inExponent num den guess).1 : ℚ) / (inExponent num den guess).2 := by
        rw [le_div_iff₀ hpos]; exact_mod_cast hlarge
      push_cast
      gcongr
    · rw [magnitude_two_pow]
      refine lt_of_lt_of_le hhigh (zpow_le_zpow_right₀ (by norm_num) ?_)
      omega

/-- At the chosen exponent a quotient has at most as many binary digits as the format keeps, and
    exactly as many unless the exponent is the least one. -/
theorem exponentFor_spec (hf : f.Usual) {num den : Nat} (hnum : num ≠ 0) (hden : den ≠ 0) :
    f.minExponent ≤ f.exponentFor num den ∧
      (num : ℚ) / den < magnitude (2 ^ f.precision) (f.exponentFor num den) ∧
      (magnitude (2 ^ (f.precision - 1)) (f.exponentFor num den) ≤ (num : ℚ) / den ∨
        f.exponentFor num den = f.minExponent) := by
  obtain ⟨exact, hexact, hlow, hhigh⟩ :=
    exact_exponent (Nat.le_of_succ_le hf.two_le_precision) hnum hden rfl
  have hexponent : f.exponentFor num den = max f.minExponent exact := by
    rw [hexact]; rfl
  rw [hexponent]
  -- the exponent is the exact one unless the format has none that small
  rcases le_total f.minExponent exact with hmin | hmin
  · rw [max_eq_right hmin]
    exact ⟨hmin, hhigh, .inl hlow⟩
  · -- at a greater exponent the quotient has fewer digits
    rw [max_eq_left hmin]
    refine ⟨le_refl _, lt_of_lt_of_le hhigh ?_, .inr rfl⟩
    rw [magnitude_two_pow, magnitude_two_pow]
    exact zpow_le_zpow_right₀ (by norm_num) (by omega)

/-! ### Quotients -/

/-- A small rational is nearest to zero. -/
theorem zero_isNearest (hf : f.Usual) {q : ℚ} (h0 : 0 ≤ q) (h : q ≤ 2 ^ f.minExponent / 2)
    (negative : Bool) : f.IsNearest negative q (f.zero negative) := by
  have hgap := f.gapBelow_pos 0 f.minExponent
  have hzero : magnitude 0 f.minExponent = 0 := by simp [magnitude]
  have hholds : f.Holds 0 f.minExponent :=
    ⟨Nat.two_pow_pos _, le_refl _, hf.min_le_max, .inr rfl⟩
  refine InCell.isNearest hf hholds ⟨?_, ?_, fun _ => rfl⟩ negative
  · rw [hzero]; linarith
  · rw [hzero]; linarith

section Rounded

variable {num den : Nat} {q : ℚ} {e : Int}

/-- The rounded quotient, in units of `2^e`, is at most half a unit away. -/
private theorem roundDiv_bounds (hden : 0 < den) (hq : (num : ℚ) / den * 2 ^ e = q) :
    magnitude (roundDiv num den) e - 2 ^ e / 2 ≤ q ∧
      q ≤ magnitude (roundDiv num den) e + 2 ^ e / 2 := by
  have hd : (0 : ℚ) < den := by exact_mod_cast hden
  have hpos : (0 : ℚ) < 2 ^ e := by positivity
  -- the two bounds on the rounded quotient, over the rationals
  have hle : (2 : ℚ) * (den * roundDiv num den) ≤ 2 * num + den := by
    exact_mod_cast roundDiv_le_two_mul_add num den
  have hge : (2 : ℚ) * num ≤ 2 * (den * roundDiv num den) + den := by
    exact_mod_cast roundDiv_two_mul_sub_le hden
  have hlow : (roundDiv num den : ℚ) - 1 / 2 ≤ num / den := by
    rw [le_div_iff₀ hd]; linarith
  have hhigh : (num : ℚ) / den ≤ roundDiv num den + 1 / 2 := by
    rw [div_le_iff₀ hd]; linarith
  rw [← hq, magnitude]
  constructor <;> nlinarith

/-- A quotient halfway between two units is rounded to the even one. -/
private theorem roundDiv_even (hden : 0 < den) (hq : (num : ℚ) / den * 2 ^ e = q)
    (h : q = magnitude (roundDiv num den) e - 2 ^ e / 2 ∨
      q = magnitude (roundDiv num den) e + 2 ^ e / 2) : roundDiv num den % 2 = 0 := by
  have hd : (den : ℚ) ≠ 0 := by positivity
  have hpos : (2 : ℚ) ^ e ≠ 0 := by positivity
  -- halfway on either side of the rounded quotient
  refine roundDiv_even_of_half hden (h.imp (fun h => ?_) fun h => ?_)
  · have heq : (num : ℚ) / den = roundDiv num den - 1 / 2 :=
      mul_right_cancel₀ hpos (by rw [hq, h, magnitude]; ring)
    rw [div_eq_iff hd] at heq
    have : (2 : ℚ) * (den * roundDiv num den) = 2 * num + den := by rw [heq]; ring
    exact_mod_cast this
  · have heq : (num : ℚ) / den = roundDiv num den + 1 / 2 :=
      mul_right_cancel₀ hpos (by rw [hq, h, magnitude]; ring)
    rw [div_eq_iff hd] at heq
    have : (2 : ℚ) * num = 2 * (den * roundDiv num den) + den := by rw [heq]; ring
    exact_mod_cast this

/-- A rounded quotient that keeps its number of binary digits has the quotient in its cell. -/
private theorem inCell_roundDiv (hden : 0 < den) (hq : (num : ℚ) / den * 2 ^ e = q)
    (hlow : magnitude (2 ^ (f.precision - 1)) e ≤ q ∨ e = f.minExponent) :
    f.InCell (roundDiv num den) e q := by
  have hpos : (0 : ℚ) < 2 ^ e := by positivity
  obtain ⟨hl, hh⟩ := roundDiv_bounds hden hq
  by_cases hpow : roundDiv num den = 2 ^ (f.precision - 1) ∧ f.minExponent < e
  · -- the quotient does not lie below the power of two that it is rounded to
    have hge : magnitude (roundDiv num den) e ≤ q := by
      rw [hpow.1]
      exact hlow.resolve_right (by omega)
    have hgap : f.gapBelow (roundDiv num den) e = 2 ^ e / 2 := if_pos hpow
    refine ⟨by rw [hgap]; linarith, hh, fun h => ?_⟩
    rcases h with h | h
    · rw [hgap] at h; linarith
    · exact roundDiv_even hden hq (.inr h)
  · have hgap : f.gapBelow (roundDiv num den) e = 2 ^ e := if_neg hpow
    exact ⟨hgap ▸ hl, hh, fun h => roundDiv_even hden hq (hgap ▸ h)⟩

/-- A quotient that is rounded up to one more binary digit than the format keeps lies in the cell of
    the power of two. -/
private theorem inCell_carry (hf : f.Usual) (hden : 0 < den) (hq : (num : ℚ) / den * 2 ^ e = q)
    (hmin : f.minExponent ≤ e) (hlt : q < magnitude (2 ^ f.precision) e)
    (hcarry : roundDiv num den = 2 ^ f.precision) :
    f.InCell (2 ^ (f.precision - 1)) (e + 1) q := by
  have hpos : (0 : ℚ) < 2 ^ e := by positivity
  have hsame : magnitude (2 ^ (f.precision - 1)) (e + 1) = magnitude (2 ^ f.precision) e := by
    have := hf.two_le_precision
    rw [magnitude_two_pow, magnitude_two_pow]
    congr 1; omega
  have hgap : f.gapBelow (2 ^ (f.precision - 1)) (e + 1) = 2 ^ e := by
    rw [gapBelow, if_pos ⟨rfl, by omega⟩, zpow_add_one₀ (by norm_num)]; ring
  have heven : 2 ^ (f.precision - 1) % 2 = 0 := by
    have := hf.two_le_precision
    rw [show f.precision - 1 = f.precision - 2 + 1 by omega, Nat.pow_succ]
    exact Nat.mul_mod_left _ _
  -- below the power of two the gap is as wide as a unit before the carry
  have hl := (roundDiv_bounds hden hq).1
  rw [hcarry] at hl
  refine ⟨?_, ?_, fun _ => heven⟩
  · rw [hsame, hgap]; exact hl
  · rw [hsame, zpow_add_one₀ (by norm_num)]; linarith

/-- Below the limit of the format the exponent of a normal number is in range. -/
private theorem limit_le_of_exponent (hf : f.Usual) (hmax : f.maxExponent < e)
    (hlow : magnitude (2 ^ (f.precision - 1)) e ≤ q) : f.limit ≤ q := by
  have hp := hf.two_le_precision
  have hpos : (0 : ℚ) < 2 ^ f.maxExponent := by positivity
  calc f.limit ≤ magnitude (2 ^ f.precision) f.maxExponent := by
        rw [limit, magnitude]; push_cast; nlinarith
    _ ≤ magnitude (2 ^ (f.precision - 1)) e := by
        rw [magnitude_two_pow, magnitude_two_pow]
        exact zpow_le_zpow_right₀ (by norm_num) (by omega)
    _ ≤ q := hlow

/-- A rounded quotient that keeps its number of binary digits is a number of the format. -/
private theorem holds_roundDiv (hden : 0 < den) (hq : (num : ℚ) / den * 2 ^ e = q)
    (hmin : f.minExponent ≤ e) (hmax : e ≤ f.maxExponent) (hlt : q < magnitude (2 ^ f.precision) e)
    (hlow : magnitude (2 ^ (f.precision - 1)) e ≤ q ∨ e = f.minExponent)
    (hcarry : roundDiv num den ≠ 2 ^ f.precision) : f.Holds (roundDiv num den) e := by
  have hunit : (0 : ℚ) < 2 ^ e := by positivity
  obtain ⟨hl, hh⟩ := roundDiv_bounds hden hq
  -- rounded by at most one half, the quotient stays below the next natural number
  have hle : roundDiv num den ≤ 2 ^ f.precision := by
    have hmagnitude : magnitude (roundDiv num den) e < magnitude (2 ^ f.precision + 1) e := by
      rw [magnitude_succ]; linarith
    exact Nat.lt_succ_iff.1 (magnitude_lt_iff.1 hmagnitude)
  -- and in the same way it does not fall below the least mantissa
  have hnormal : 2 ^ (f.precision - 1) ≤ roundDiv num den ∨ e = f.minExponent := by
    refine hlow.imp_left fun hlow => ?_
    have hmagnitude :
        magnitude (2 ^ (f.precision - 1)) e < magnitude (roundDiv num den + 1) e := by
      rw [magnitude_succ]; linarith
    exact Nat.lt_succ_iff.1 (magnitude_lt_iff.1 hmagnitude)
  exact ⟨by omega, hmin, hmax, hnormal⟩

/-- A power of two with as many binary digits as the format keeps is a number of the format. -/
private theorem holds_carry (hf : f.Usual) (hmin : f.minExponent ≤ e)
    (hmax : e + 1 ≤ f.maxExponent) : f.Holds (2 ^ (f.precision - 1)) (e + 1) := by
  have hpos := Nat.two_pow_pos (f.precision - 1)
  refine ⟨?_, by omega, hmax, .inl (le_refl _)⟩
  rw [hf.two_pow_precision]
  omega

end Rounded

/-- A quotient is rounded to the nearest number of the format. -/
theorem ofRatio_isNearest (hf : f.Usual) (negative : Bool) (num : Nat) {den : Nat}
    (hden : 0 < den) : f.IsNearest negative ((num : ℚ) / den) (f.ofRatio negative num den) := by
  by_cases hnum : num = 0
  · rw [ofRatio, if_pos hnum, hnum]
    refine zero_isNearest hf (by simp) ?_ negative
    simp only [Nat.cast_zero, zero_div]
    positivity
  obtain ⟨hmin, hhigh, hlow⟩ := exponentFor_spec hf hnum (Nat.ne_of_gt hden)
  rw [ofRatio, if_neg hnum]
  simp only [Nat.pow_eq]
  -- from here on only what is known about the exponent matters
  generalize f.exponentFor num den = e at hmin hhigh hlow ⊢
  have hq := inExponent_ratio num hden e
  have hpos := inExponent_snd_pos num hden e
  generalize inExponent num den e = scaled at hq hpos ⊢
  have hleast : f.maxExponent < e → e ≠ f.minExponent := by
    have hrange := hf.min_le_max
    omega
  -- rounding up to the next power of two moves the exponent, which may be too large then
  by_cases hcarry : roundDiv scaled.1 scaled.2 = 2 ^ f.precision
  · rw [if_pos hcarry]
    dsimp only
    split
    · rename_i hmax
      refine .infinite ?_
      rcases lt_or_eq_of_le (show f.maxExponent ≤ e by omega) with hlt | rfl
      · exact limit_le_of_exponent hf hlt (hlow.resolve_right (hleast hlt))
      · -- the quotient was rounded up at the greatest exponent
        have hl := (roundDiv_bounds hpos hq).1
        rw [hcarry, magnitude] at hl
        rw [limit]
        push_cast at hl
        linarith
    · have hholds := holds_carry hf hmin (by omega)
      exact (inCell_carry hf hpos hq hmin hhigh hcarry).isNearest hf hholds negative
  · rw [if_neg hcarry]
    dsimp only
    split
    · rename_i hmax
      exact .infinite (limit_le_of_exponent hf hmax (hlow.resolve_right (hleast hmax)))
    · have hholds := holds_roundDiv hpos hq hmin (by omega) hhigh hlow hcarry
      exact (inCell_roundDiv hpos hq hlow).isNearest hf hholds negative

/-! ### Decimal numbers -/

/-- A natural number lies between the powers of ten that its binary length gives. -/
private theorem between_ten_pow {c : Nat} (hc : c ≠ 0) :
    10 ^ (c.log2 / 4) ≤ c ∧ c < 10 ^ (c.log2 / 3 + 1) := by
  constructor
  · calc 10 ^ (c.log2 / 4) ≤ (2 ^ 4) ^ (c.log2 / 4) := Nat.pow_le_pow_left (by decide) _
      _ = 2 ^ (4 * (c.log2 / 4)) := (Nat.pow_mul 2 4 _).symm
      _ ≤ 2 ^ c.log2 := Nat.pow_le_pow_right (by decide) (Nat.mul_div_le _ 4)
      _ ≤ c := Nat.log2_self_le hc
  · calc c < 2 ^ (c.log2 + 1) := Nat.lt_log2_self
      _ ≤ 2 ^ (3 * (c.log2 / 3 + 1)) := Nat.pow_le_pow_right (by decide) (by omega)
      _ = (2 ^ 3) ^ (c.log2 / 3 + 1) := Nat.pow_mul 2 3 _
      _ ≤ 10 ^ (c.log2 / 3 + 1) := Nat.pow_le_pow_left (by decide) _

/-- A decimal number is the quotient of two naturals. -/
private theorem decimal_ratio (c : Nat) (k : Int) :
    ((c * 10 ^ k.toNat : Nat) : ℚ) / (10 ^ (-k).toNat : Nat) = c * 10 ^ k := by
  -- one of the two powers is one
  rcases Int.le_total 0 k with hk | hk
  · obtain ⟨n, rfl⟩ := Int.eq_ofNat_of_zero_le hk
    have : (-(n : Int)).toNat = 0 := by omega
    rw [zpow_natCast, this, Int.toNat_natCast]
    push_cast; ring
  · obtain ⟨n, hn⟩ := Int.eq_ofNat_of_zero_le (Int.neg_nonneg.2 hk)
    obtain rfl : k = -(n : Int) := by omega
    have : (-(n : Int)).toNat = 0 := by omega
    rw [zpow_neg, zpow_natCast, this, neg_neg, Int.toNat_natCast]
    push_cast; field_simp

/-- A decimal number whose exponent is far above the range of the format is too large. -/
private theorem limit_le_decimal (hf : f.Usual) {c : Nat} (hc : c ≠ 0) {k : Int}
    (h : f.maxExponent + f.precision < (c.log2 : Int) / 4 + k) : f.limit ≤ c * 10 ^ k := by
  have hpow : (10 : ℚ) ^ (c.log2 / 4) ≤ c := by exact_mod_cast (between_ten_pow hc).1
  have hint := hf.integral
  -- a number with that many bits has at least a quarter as many decimal digits
  calc f.limit ≤ magnitude (2 ^ f.precision) f.maxExponent := by
        have : (0 : ℚ) < 2 ^ f.maxExponent := by positivity
        rw [limit, magnitude]; push_cast; nlinarith
    _ = 2 ^ ((f.precision : Int) + f.maxExponent) := magnitude_two_pow _ _
    _ ≤ 2 ^ (((c.log2 / 4 : Nat) : Int) + k) := zpow_le_zpow_right₀ (by norm_num) (by omega)
    _ ≤ 10 ^ (((c.log2 / 4 : Nat) : Int) + k) :=
        zpow_le_zpow_left₀ (by omega) (by norm_num) (by norm_num)
    _ = 10 ^ (c.log2 / 4) * 10 ^ k := by rw [zpow_add₀ (by norm_num), zpow_natCast]
    _ ≤ c * 10 ^ k := by gcongr

/-- A decimal number whose leading digit is far below the range of the format is nearest to zero. -/
private theorem decimal_le_half_unit (hf : f.Usual) {c : Nat} (hc : c ≠ 0) {k : Int}
    (h : (c.log2 : Int) / 3 + 1 + k < f.minExponent) :
    (c : ℚ) * 10 ^ k ≤ 2 ^ f.minExponent / 2 := by
  have hpow : (c : ℚ) ≤ 10 ^ (c.log2 / 3 + 1) := by exact_mod_cast (between_ten_pow hc).2.le
  have hone := hf.min_le_one
  obtain ⟨n, hn⟩ := Int.eq_ofNat_of_zero_le (show 0 ≤ 1 - f.minExponent by omega)
  -- it has at most a third as many
  calc (c : ℚ) * 10 ^ k ≤ 10 ^ (c.log2 / 3 + 1) * 10 ^ k := by gcongr
    _ = 10 ^ (((c.log2 / 3 + 1 : Nat) : Int) + k) := by
        rw [zpow_add₀ (by norm_num), zpow_natCast]
    _ ≤ 10 ^ (-(n : Int)) := zpow_le_zpow_right₀ (by norm_num) (by push_cast; omega)
    _ ≤ 2 ^ (-(n : Int)) := by
        rw [zpow_neg, zpow_neg, zpow_natCast, zpow_natCast]
        gcongr
        norm_num
    _ = 2 ^ f.minExponent / 2 := by
        rw [show -(n : Int) = f.minExponent - 1 by omega, zpow_sub_one₀ (by norm_num)]
        ring

/-- A decimal number is rounded to the nearest number of the format. -/
theorem ofDecimal_isNearest (hf : f.Usual) (negative : Bool) (c : Nat) (k : Int) :
    f.IsNearest negative (c * 10 ^ k) (f.ofDecimal negative c k) := by
  rw [ofDecimal]
  -- zero, far too large and far too small are told apart before anything is computed
  split
  · rename_i hc
    rw [hc]
    exact zero_isNearest hf (by simp) (by simp only [Nat.cast_zero, zero_mul]; positivity) negative
  · rename_i hc
    split
    · exact .infinite (limit_le_decimal hf hc (by assumption))
    · split
      · exact zero_isNearest hf (by positivity) (decimal_le_half_unit hf hc (by assumption))
          negative
      · rw [← decimal_ratio]
        exact ofRatio_isNearest hf negative _ (by positivity)

end Format

end Binary

end SharedTables
