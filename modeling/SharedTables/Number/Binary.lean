/-!
# Binary floating-point numbers

A `Binary` is kept as what it denotes: not a number, a signed infinity, or `±m · 2^e`.  A
`Binary.Format` says which of them a storage format holds; `Format.ofRatio` rounds a quotient of
naturals to the nearest of these, a tie going to the even mantissa.  Everything is computed with
integers, so statements about these numbers are statements about integers.

* `Binary.compare?`      the order of numbers, in which nothing compares with "not a number"
* `Binary.compareTotal`  the total order of table cells: "not a number" is the greatest
* `roundDiv_two_mul_sub_le`, `roundDiv_le_two_mul_add`  a rounded quotient is within one half
* `roundDiv_even_of_half`  a quotient halfway between two naturals is rounded to the even one
-/

namespace SharedTables

/-- Not a number, a signed infinity, or a sign, a mantissa `m` and an exponent `e`: `±m · 2^e`. -/
inductive Binary where
  | nan
  | infinite (negative : Bool)
  | finite (negative : Bool) (mantissa : Nat) (exponent : Int)
deriving DecidableEq, Repr, Inhabited

/-- The natural number nearest to `n / d`; a half goes to the even neighbour. -/
def roundDiv (n d : Nat) : Nat :=
  let q := n / d
  let r := n % d
  if 2 * r < d then q
  else if d < 2 * r then q + 1
  else if q % 2 = 0 then q
  else q + 1

theorem roundDiv_le_two_mul_add (n d : Nat) : 2 * (d * roundDiv n d) ≤ 2 * n + d := by
  have h := Nat.div_add_mod n d
  simp only [roundDiv]
  split
  · omega
  · split
    · rw [Nat.mul_add]; omega
    · split
      · omega
      · rw [Nat.mul_add]; omega

theorem roundDiv_two_mul_sub_le {n d : Nat} (hd : 0 < d) : 2 * n ≤ 2 * (d * roundDiv n d) + d := by
  have h := Nat.div_add_mod n d
  have hr := Nat.mod_lt n hd
  simp only [roundDiv]
  split
  · omega
  · split
    · rw [Nat.mul_add]; omega
    · split
      · omega
      · rw [Nat.mul_add]; omega

theorem roundDiv_even_of_half {n d : Nat} (hd : 0 < d)
    (h : 2 * (d * roundDiv n d) = 2 * n + d ∨ 2 * n = 2 * (d * roundDiv n d) + d) :
    roundDiv n d % 2 = 0 := by
  have hdiv := Nat.div_add_mod n d
  have hr := Nat.mod_lt n hd
  simp only [roundDiv] at h ⊢
  split at h
  · omega
  · split at h
    · rw [Nat.mul_add] at h; omega
    · split at h
      · -- halfway with an even quotient: it stays
        rename_i h1 h2 h3
        rwa [if_neg h1, if_neg h2, if_pos h3]
      · -- halfway with an odd quotient: its successor is even
        rename_i h1 h2 h3
        rw [if_neg h1, if_neg h2, if_neg h3]
        omega

namespace Binary

/-- The finite numbers of a storage format: mantissas below `2 ^ precision`, exponents in range. -/
structure Format where
  precision : Nat
  minExponent : Int
  maxExponent : Int
deriving DecidableEq, Repr

/-- The format of 64 bits. -/
def double : Format := ⟨53, -1074, 971⟩

/-- The format of 32 bits. -/
def single : Format := ⟨24, -149, 104⟩

/-- The signed integer with the given sign and size. -/
def signed (negative : Bool) (n : Nat) : Int :=
  if negative then -(n : Int) else n

/-- The number `±m · 2^e` in units of `2^base`, for a `base` that is at most `e`. -/
def inUnits (negative : Bool) (m : Nat) (e base : Int) : Int :=
  signed negative (m <<< (e - base).toNat)

/-- An integer as a number, without rounding. -/
def ofInt (n : Int) : Binary :=
  .finite (n < 0) n.natAbs 0

/-- Whether the number is neither infinite nor "not a number". -/
def isFinite : Binary → Bool
  | finite .. => true
  | _ => false

/-- Whether the number is a zero of either sign. -/
def isZero : Binary → Bool
  | finite _ m _ => m == 0
  | _ => false

/-- The total order of table cells: both zeros are equal and "not a number" is equal to itself and
greater than all else. -/
def compareTotal : Binary → Binary → Ordering
  | nan, nan => .eq
  | nan, _ => .gt
  | _, nan => .lt
  | infinite s, infinite t => compare t.toNat s.toNat
  | infinite s, finite .. => if s then .lt else .gt
  | finite .., infinite t => if t then .gt else .lt
  | finite s m e, finite t n f =>
    -- both in units of the smaller of the two last places
    compare (inUnits s m e (min e f)) (inUnits t n f (min e f))

/-- The order of numbers, with no answer where one side is "not a number". -/
def compare? : Binary → Binary → Option Ordering
  | nan, _ => none
  | _, nan => none
  | x, y => some (compareTotal x y)

namespace Format

/-- The zero of the given sign. -/
def zero (f : Format) (negative : Bool) : Binary :=
  .finite negative 0 f.minExponent

/-- The quotient `num / den` in units of `2^e`, as a numerator and a denominator. -/
def inExponent (num den : Nat) (e : Int) : Nat × Nat :=
  (num <<< (-e).toNat, den <<< e.toNat)

/-- The exponent at which `num / den` has as many binary digits as the format keeps. -/
def exponentFor (f : Format) (num den : Nat) : Int :=
  let guess : Int := (num.log2 : Int) - (den.log2 : Int) - ((f.precision : Int) - 1)
  let scaled := inExponent num den guess
  -- the guess from the sizes of both numbers may be one too large
  let exact := if scaled.1 / scaled.2 < Nat.pow 2 (f.precision - 1) then guess - 1 else guess
  max f.minExponent exact

/-- The number of the format that is nearest to `±num / den`; ties go to the even mantissa, and
what is too large becomes infinite. -/
def ofRatio (f : Format) (negative : Bool) (num den : Nat) : Binary :=
  if num = 0 then f.zero negative
  else
    let e := f.exponentFor num den
    let scaled := inExponent num den e
    let m := roundDiv scaled.1 scaled.2
    -- rounding up may give one binary digit more than the format keeps
    let (m, e) := if m = Nat.pow 2 f.precision then (Nat.pow 2 (f.precision - 1), e + 1) else (m, e)
    if f.maxExponent < e then .infinite negative else .finite negative m e

/-- The nearest number of the format. -/
def round (f : Format) : Binary → Binary
  | .nan => .nan
  | .infinite s => .infinite s
  | .finite s m e => f.ofRatio s (m <<< e.toNat) (1 <<< (-e).toNat)

/-- The number of the format nearest to an integer. -/
def ofInt (f : Format) (n : Int) : Binary :=
  f.ofRatio (n < 0) n.natAbs 1

/-- The number of the format nearest to `±coefficient · 10^exponent`.  Exponents far outside the
range of the format are not computed with: such a number is infinite or zero. -/
def ofDecimal (f : Format) (negative : Bool) (coefficient : Nat) (exponent : Int) : Binary :=
  -- bounds from the number of binary digits: 2 ^ 3 < 10 < 2 ^ 4
  let top : Int := (coefficient.log2 : Int) / 3 + 1 + exponent
  if coefficient = 0 then f.zero negative
  else if f.maxExponent + f.precision < (coefficient.log2 : Int) / 4 + exponent then
    .infinite negative
  else if top < f.minExponent then f.zero negative
  else f.ofRatio negative (coefficient * Nat.pow 10 exponent.toNat) (Nat.pow 10 (-exponent).toNat)

/-- The sum, rounded to the format.  A sum that is zero is negative only if both sides are. -/
def add (f : Format) : Binary → Binary → Binary
  | .nan, _ => .nan
  | _, .nan => .nan
  | .infinite s, .infinite t => if s = t then .infinite s else .nan
  | .infinite s, .finite .. => .infinite s
  | .finite .., .infinite t => .infinite t
  | .finite s m e, .finite t n g =>
    let base := min e g
    let total := inUnits s m e base + inUnits t n g base
    -- zeros of both signs add up to the positive one
    if total = 0 then f.zero (s && t)
    else f.ofRatio (total < 0) (total.natAbs <<< base.toNat) (1 <<< (-base).toNat)

end Format

end Binary

end SharedTables
