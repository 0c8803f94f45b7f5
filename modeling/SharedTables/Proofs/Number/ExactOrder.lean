import Mathlib
import SharedTables.Number.Binary

/-!
# The order of numbers is the order of what they denote

A number denotes an extended real, infinities included, and comparing two numbers compares what they
denote.  Nothing is rounded on the way: an integer and a floating-point number compare as exactly as
two numbers of one kind.

## Key results

- `inUnits_mul`: a number in units of a power of two is the same number
- `compare?_of_toEReal?`: comparing numbers compares what they denote
-/

namespace SharedTables

namespace Binary

variable {x y : Binary} {a b : EReal}

/-- The extended real that a number denotes; "not a number" denotes none. -/
noncomputable def toEReal? : Binary → Option EReal
  | nan => none
  | infinite negative => some (if negative then ⊥ else ⊤)
  | finite negative m e => some (((signed negative m : ℝ) * 2 ^ e : ℝ) : EReal)

theorem exists_toEReal? (h : x ≠ .nan) : ∃ a, x.toEReal? = some a := by
  cases x with
  | nan => exact absurd rfl h
  | infinite negative => exact ⟨_, rfl⟩
  | finite negative m e => exact ⟨_, rfl⟩

/-- A number in units of a power of two is the same number. -/
theorem inUnits_mul {negative : Bool} {m : Nat} {e base : Int} (h : base ≤ e) :
    (inUnits negative m e base : ℝ) * 2 ^ base = (signed negative m : ℝ) * 2 ^ e := by
  obtain ⟨k, rfl⟩ := Int.le.dest h
  have hk : (base + k - base).toNat = k := by omega
  rw [inUnits, hk, Nat.shiftLeft_eq, zpow_add₀ two_ne_zero, zpow_natCast]
  -- the sign is the same on both sides
  cases negative <;> simp only [signed, Bool.false_eq_true, if_true, if_false] <;> push_cast <;>
    ring

/-- Whole numbers of units compare like the numbers. -/
private theorem compare_units (i j base : Int) : compare i j =
    compare (((i : ℝ) * 2 ^ base : ℝ) : EReal) (((j : ℝ) * 2 ^ base : ℝ) : EReal) := by
  have hunit : (0 : ℝ) < 2 ^ base := by positivity
  -- multiplying by a positive unit keeps the order of integers
  have hmono : StrictMono fun i : Int => (((i : ℝ) * 2 ^ base : ℝ) : EReal) := fun i j hij =>
    EReal.coe_lt_coe_iff.2 (mul_lt_mul_of_pos_right (Int.cast_lt.2 hij) hunit)
  rw [← cmp_eq_compare, ← cmp_eq_compare]
  exact (hmono.cmp_map_eq i j).symm

/-- Comparing numbers compares what they denote. -/
theorem compareTotal_of_toEReal? (hx : x.toEReal? = some a) (hy : y.toEReal? = some b) :
    compareTotal x y = compare a b := by
  -- infinities by their signs; two finite numbers in the units of the smaller exponent
  cases x with
  | nan => cases hx
  | infinite s =>
    obtain rfl := Option.some.inj hx
    cases y with
    | nan => cases hy
    | infinite t =>
      obtain rfl := Option.some.inj hy
      cases s <;> cases t
      · exact (compare_eq_iff_eq.2 rfl).symm
      · exact (compare_gt_iff_gt.2 bot_lt_top).symm
      · exact (compare_lt_iff_lt.2 bot_lt_top).symm
      · exact (compare_eq_iff_eq.2 rfl).symm
    | finite t n f =>
      obtain rfl := Option.some.inj hy
      cases s
      · exact (compare_gt_iff_gt.2 (EReal.coe_lt_top _)).symm
      · exact (compare_lt_iff_lt.2 (EReal.bot_lt_coe _)).symm
  | finite s m e =>
    obtain rfl := Option.some.inj hx
    cases y with
    | nan => cases hy
    | infinite t =>
      obtain rfl := Option.some.inj hy
      cases t
      · exact (compare_lt_iff_lt.2 (EReal.coe_lt_top _)).symm
      · exact (compare_gt_iff_gt.2 (EReal.bot_lt_coe _)).symm
    | finite t n f =>
      obtain rfl := Option.some.inj hy
      rw [compareTotal, compare_units _ _ (min e f), inUnits_mul (min_le_left e f),
        inUnits_mul (min_le_right e f)]

/-- The order of numbers has an answer wherever both sides denote something. -/
theorem compare?_of_toEReal? (hx : x.toEReal? = some a) (hy : y.toEReal? = some b) :
    compare? x y = some (compare a b) := by
  rw [← compareTotal_of_toEReal? hx hy]
  cases x with
  | nan => cases hx
  | _ =>
    cases y with
    | nan => cases hy
    | _ => rfl

end Binary

end SharedTables
