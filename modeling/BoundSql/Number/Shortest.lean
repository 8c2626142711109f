/-!
# Shortest decimals

A finite binary number `m * 2 ^ q` is what every real of an interval around it rounds to. The
shortest decimal of that interval lies on the coarsest grid `10 ^ k` that meets it; of two
points of the grid the nearer one is taken. All arithmetic is on natural numbers.
-/

namespace BoundSql.Number

/-- The number `digits * 10 ^ exponent`. -/
structure Decimal where
  digits : Nat
  exponent : Int
deriving DecidableEq, Repr

/-- Which of two points of a decimal grid is taken when both are equally near. -/
inductive Tie where
  | up
  | toEven
deriving DecidableEq, Repr

/-- The magnitude `mantissa * 2 ^ exponent`; `narrowBelow` says that the next smaller number is
only half as far away as the next larger one. -/
structure Magnitude where
  mantissa : Nat
  exponent : Int
  narrowBelow : Bool
deriving DecidableEq, Repr

namespace Magnitude

/-- The magnitude in the low 63 bits of a finite binary64 number. -/
def ofBits (bits : UInt64) : Magnitude :=
  let fraction : Nat := bits.toNat % 0x10000000000000
  let biased : Nat := bits.toNat / 0x10000000000000 % 0x800
  if biased = 0 then ⟨fraction, -1074, false⟩
  else ⟨fraction + 0x10000000000000, (biased : Int) - 1075, fraction == 0 && biased != 1⟩

/-- Ends of the rounding interval and the number itself, counted in quarters of `2 ^ exponent`. -/
def quarters (x : Magnitude) : Nat × Nat × Nat :=
  (4 * x.mantissa - (if x.narrowBelow then 1 else 2), 4 * x.mantissa, 4 * x.mantissa + 2)

/-- The point of the grid `10 ^ k` that stands for `x`, if the grid meets the interval of the
reals that round to `x`. The ends belong to the interval exactly if the mantissa is even. -/
def onGrid? (tie : Tie) (x : Magnitude) (k : Int) : Option Nat :=
  let (low, mid, high) := x.quarters
  let unit := Nat.pow 2 (x.exponent - 2).toNat * Nat.pow 10 (-k).toNat
  let step := Nat.pow 10 k.toNat * Nat.pow 2 (2 - x.exponent).toNat
  let inside (c : Nat) : Bool :=
    c != 0 &&
      if x.mantissa % 2 == 0 then low * unit ≤ c * step && c * step ≤ high * unit
      else low * unit < c * step && c * step < high * unit
  let below := mid * unit / step
  let gapBelow := mid * unit - below * step
  let gapAbove := (below + 1) * step - mid * unit
  match inside below, inside (below + 1) with
  | false, false => none
  | true, false => some below
  | false, true => some (below + 1)
  | true, true =>
    if gapBelow < gapAbove then some below
    else if gapAbove < gapBelow then some (below + 1)
    else match tie with
      | .up => some (below + 1)
      | .toEven => if below % 2 == 0 then some below else some (below + 1)

/-- The first grid of `count` grids from `10 ^ k` down that meets the interval. -/
def firstGrid (tie : Tie) (x : Magnitude) : Nat → Int → Decimal
  | 0, k => ⟨4 * x.mantissa * Nat.pow 10 (-k).toNat, k⟩
  | count + 1, k =>
    match x.onGrid? tie k with
    | some c => ⟨c, k⟩
    | none => firstGrid tie x count (k - 1)

/-- The decimal with the fewest digits that reads back as `x`. Seventeen digits always suffice,
and the search starts above the decimal exponent of `x`. -/
def shortest (tie : Tie) (x : Magnitude) : Decimal :=
  if x.mantissa = 0 then ⟨0, 0⟩
  else
    let log2 := (Nat.log2 x.mantissa : Int) + x.exponent
    x.firstGrid tie 24 (log2 * 30103 / 100000 + 3)

end Magnitude

end BoundSql.Number
