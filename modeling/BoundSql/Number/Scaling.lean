import BoundSql.Number.Literal

/-!
# Decimals by scaling

A decimal is read in two rounded steps: a significand of 64 bits is rounded to a floating-point
number, and that number is multiplied or divided by powers of ten. The result may be a neighbour of
the number nearest to the decimal. Digits that the significand has no room for are dropped.
-/

namespace BoundSql.Number

namespace Decimal

/-- The digits of the decimal with one more behind them, if they stay below `2 ^ 64`. -/
def append? (d : Decimal) (c : Char) : Option Nat :=
  let digits := ofDigits [c] + 10 * d.digits
  if digits < 0x10000000000000000 then some digits else none

/-- Takes in a digit of the whole part. From the first digit without room on, every digit only
raises the exponent. -/
def pushWhole (d : Decimal) (c : Char) : Decimal :=
  match d.exponent, d.append? c with
  | 0, some digits => ⟨digits, 0⟩
  | _, _ => ⟨d.digits, d.exponent + 1⟩

/-- Takes in the digits of the fraction, up to the first without room. -/
def pushFraction (d : Decimal) : List Char → Decimal
  | [] => d
  | c :: cs =>
    match d.append? c with
    | some digits => pushFraction ⟨digits, d.exponent - 1⟩ cs
    | none => d

/-- The floating-point number `10 ^ k`, for `k` up to 308. -/
def powerOfTen (k : Nat) : Float :=
  Float.ofScientific 1 false k

/-- Multiplies or divides by a power of ten. An exponent below -308 is taken in steps of 308, until
nothing is left of the number. -/
def scale? (x : Float) (exponent : Int) : Option Float :=
  if exponent < -308 then
    if x == 0.0 then some x else scale? (x / powerOfTen 308) (exponent + 308)
  else if exponent < 0 then some (x / powerOfTen exponent.natAbs)
  else if exponent ≤ 308 then
    let y := x * powerOfTen exponent.natAbs
    if y.isInf then none else some y
  else if x == 0.0 then some x
  else none
termination_by (-exponent).toNat

/-- The floating-point number that the scaling of a decimal gives, if it is finite. -/
def scaled? (negative : Bool) (d : Decimal) : Option Float :=
  (scale? d.digits.toUInt64.toFloat d.exponent).map fun x => if negative then -x else x

end Decimal

/-- The number of a literal by scaling, if every part has digits and the number is in range. -/
def Literal.scaled? (negative : Bool) (l : Literal) : Option Float := do
  let d ← l.decimal? fun whole places =>
    (whole.foldl Decimal.pushWhole ⟨0, 0⟩).pushFraction places
  d.scaled? negative

end BoundSql.Number
