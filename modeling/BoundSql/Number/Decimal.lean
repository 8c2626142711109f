import BoundSql.Number.Shortest

/-!
# Numbers from decimals

Rounding of integers and of decimals to the nearest floating-point number.
-/

namespace BoundSql.Number

/-- The nearest floating-point number to an integer below `2 ^ 64` in magnitude. -/
def floatOfInt (n : Int) : Float :=
  let magnitude := n.natAbs.toUInt64.toFloat
  if n < 0 then -magnitude else magnitude

/-- Count of decimal digits. -/
def digitCount (n : Nat) : Nat :=
  (toString n).length

/-- The nearest floating-point number to a decimal. A decimal below the smallest number is zero;
one that rounds to no finite number has no answer. The bounds on the decimal exponent keep the
powers of ten small: every finite number lies well inside them. -/
def floatOfDecimal? (negative : Bool) (d : Decimal) : Option Float :=
  let scale := (digitCount d.digits : Int) + d.exponent
  if scale > 400 && d.digits != 0 then none
  else
    let magnitude : Float :=
      if d.digits = 0 || scale < -400 then 0.0
      else Float.ofScientific d.digits (d.exponent < 0) d.exponent.natAbs
    if magnitude.isInf then none
    else some (if negative then -magnitude else magnitude)

end BoundSql.Number
