import SharedTables.Proofs.Number.Rounding

/-!
# Numbers of a storage format

Rounding leaves the numbers that a storage format has as they are, and what is rounded is one of
them.  A number of a smaller format stays finite.

## Key results

- `Format.Holds.inCell`: a number of the format lies in its own cell
- `round_isNearest`, `stores_round`: what is rounded is a number of the format, the nearest one
- `round_of_stores`: rounding leaves the numbers of the format as they are
- `isFinite_round`: numbers of a format with a lower limit stay finite
-/

namespace SharedTables

namespace Binary

namespace Format

variable {f : Format}

/-- What the format stores: its finite numbers, each in one form, the infinities and "not a
    number". -/
def Stores (f : Format) : Binary → Prop
  | .finite _ m e => f.Holds m e
  | .infinite _ => True
  | .nan => True

theorem usual_single : single.Usual := by constructor <;> decide

/-- A number of the format lies in its own cell. -/
theorem Holds.inCell {m : Nat} {e : Int} : f.InCell m e (magnitude m e) := by
  -- the gap below is positive, so the number is strictly inside
  have hgap := f.gapBelow_pos m e
  have hpos : (0 : ℚ) < 2 ^ e := by positivity
  refine ⟨by linarith, by linarith, ?_⟩
  rintro (h | h) <;> linarith

/-- The quotient that a number is. -/
private theorem shift_ratio (m : Nat) (e : Int) :
    ((m <<< e.toNat : Nat) : ℚ) / ((1 <<< (-e).toNat : Nat) : ℚ) = magnitude m e := by
  -- scaling by the exponent itself leaves the mantissa
  have hscaled := inExponent_ratio m Nat.one_pos (-e)
  have hpos : (0 : ℚ) < 2 ^ e := by positivity
  rw [inExponent, neg_neg, zpow_neg, Nat.cast_one, div_one, ← div_eq_mul_inv,
    div_eq_iff hpos.ne'] at hscaled
  exact hscaled

/-- A number is rounded to the nearest one of the format. -/
theorem round_isNearest (hf : f.Usual) (negative : Bool) (m : Nat) (e : Int) :
    f.IsNearest negative (magnitude m e) (f.round (.finite negative m e)) := by
  have hden : 0 < 1 <<< (-e).toNat := by
    rw [Nat.one_shiftLeft]
    exact Nat.two_pow_pos _
  have hrounded := ofRatio_isNearest hf negative (m <<< e.toNat) hden
  rwa [shift_ratio] at hrounded

/-- Rounding leaves the numbers of the format as they are. -/
theorem round_of_stores (hf : f.Usual) {x : Binary} (h : f.Stores x) : f.round x = x := by
  cases x with
  | nan => rfl
  | infinite negative => rfl
  | finite negative m e =>
    -- the number is nearest to itself, and nothing else is
    exact (round_isNearest hf negative m e).unique hf (Holds.inCell.isNearest hf h negative)

/-- What is rounded is stored. -/
theorem stores_round (hf : f.Usual) (x : Binary) : f.Stores (f.round x) := by
  cases x with
  | nan => trivial
  | infinite negative => trivial
  | finite negative m e =>
    have hnear := round_isNearest hf negative m e
    generalize f.round (.finite negative m e) = x at hnear
    cases hnear with
    | finite holds => exact holds
    | infinite => trivial

/-- The numbers of a format with a lower limit are rounded to finite numbers exactly if they are
    finite. -/
theorem isFinite_round {g : Format} (hf : f.Usual) (hg : g.Usual) (hlimit : g.limit ≤ f.limit)
    {x : Binary} (h : g.Stores x) : (f.round x).isFinite = x.isFinite := by
  cases x with
  | nan => rfl
  | infinite negative => rfl
  | finite negative m e =>
    have hlt : magnitude m e < g.limit := Holds.inCell.lt_limit hg h
    have hnear := round_isNearest hf negative m e
    generalize f.round (.finite negative m e) = x at hnear
    cases hnear with
    | finite => rfl
    | infinite limit_le => exact absurd (hlt.trans_le hlimit) limit_le.not_gt

theorem limit_single_le_double : single.limit ≤ double.limit := by
  have hpow : (2 : ℚ) ^ (104 : ℤ) ≤ 2 ^ (971 : ℤ) := zpow_le_zpow_right₀ (by norm_num) (by decide)
  have hmantissa : (2 ^ 24 - 1 / 2 : ℚ) ≤ 2 ^ 53 - 1 / 2 := by norm_num
  calc single.limit = (2 ^ 24 - 1 / 2) * 2 ^ (104 : ℤ) := rfl
    _ ≤ (2 ^ 53 - 1 / 2) * 2 ^ (971 : ℤ) :=
      mul_le_mul hmantissa hpow (by positivity) (by norm_num)
    _ = double.limit := rfl

end Format

end Binary

end SharedTables
