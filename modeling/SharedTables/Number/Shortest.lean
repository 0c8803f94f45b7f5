import SharedTables.Number.Binary

/-!
# The fewest digits that read back

A number of a storage format stands for every real that rounds to it: an interval around it, whose
ends belong to it iff the mantissa is even.  `shortest` looks for a decimal number in that interval
on the grids `10^k`, the coarsest first, so the first hit has the fewest digits; of two hits on one
grid it takes the one nearer to the number, and of two equally near the even one.  Only the two
neighbours of the number on a grid are tested, because the interval has no gaps.
-/

namespace SharedTables

/-- A decimal number `digits · 10^exponent`. -/
structure Decimal where
  digits : Nat
  exponent : Int
deriving DecidableEq, Repr

namespace Binary

/-- The interval of the reals that round to a number, in quarters of its last binary place. -/
structure Interval where
  low : Nat
  value : Nat
  high : Nat
  closed : Bool

/-- The interval of `m · 2^e`.  Below a power of two the spacing is half as wide. -/
def Format.intervalOf (f : Format) (m : Nat) (e : Int) : Interval :=
  { low := if m = Nat.pow 2 (f.precision - 1) ∧ f.minExponent < e then 4 * m - 1 else 4 * m - 2
    value := 4 * m
    high := 4 * m + 2
    closed := m % 2 == 0 }

/-- Whether `c · 10^k` lies in the interval, whose unit is `2^(e-2)`. -/
def Interval.contains (i : Interval) (e : Int) (c : Nat) (k : Int) : Bool :=
  let u := e - 2
  let point := c * Nat.pow 10 k.toNat * Nat.pow 2 (-u).toNat
  let scale := Nat.pow 2 u.toNat * Nat.pow 10 (-k).toNat
  if i.closed then i.low * scale ≤ point && point ≤ i.high * scale
  else i.low * scale < point && point < i.high * scale

/-- The point of the grid `10^k` that lies in the interval and is nearest to its number. -/
def Interval.onGrid (i : Interval) (e : Int) (k : Int) : Option Decimal :=
  let u := e - 2
  let num := i.value * Nat.pow 2 u.toNat * Nat.pow 10 (-k).toNat
  let den := Nat.pow 2 (-u).toNat * Nat.pow 10 k.toNat
  let below := num / den
  let inside := fun c => i.contains e c k
  match inside below, inside (below + 1) with
  -- ties between both neighbours go to the even one
  | true, true => some ⟨roundDiv num den, k⟩
  | true, false => some ⟨below, k⟩
  | false, true => some ⟨below + 1, k⟩
  | false, false => none

/-- A power of ten that is greater than `m · 2^e`, as an exponent. -/
def decimalCeiling (m : Nat) (e : Int) : Int :=
  ((m.log2 : Int) + e + 1) * 30103 / 100000 + 2

/-- The shortest decimal number that reads back as `m · 2^e`.  Twenty-four grids reach from above
the number to below the last place of any number of up to 64 binary digits. -/
def Format.shortest (f : Format) (m : Nat) (e : Int) : Decimal :=
  if m = 0 then ⟨0, 0⟩
  else
    let i := f.intervalOf m e
    let top := decimalCeiling m e
    -- the coarsest grid with a hit gives the fewest digits
    ((List.range 24).findSome? fun (j : Nat) => i.onGrid e (top - j)).getD ⟨m, e⟩

end Binary

end SharedTables
