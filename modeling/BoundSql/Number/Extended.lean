import BoundSql.Number.Digits
import BoundSql.Number.Shortest

/-!
# Numbers of 64 significant bits

Decimals can be read and written through products that are rounded to 64 significant bits, eleven
more than a floating-point number keeps. The powers of ten that take part are rounded themselves,
so that the result may be a neighbour of the nearest number. All arithmetic is on integers.
-/

namespace BoundSql.Number

/-- The number `significand * 2 ^ exponent`. -/
structure Extended where
  significand : Nat
  exponent : Int
deriving DecidableEq, Repr

namespace Extended

/-! ## Rounding -/

/-- The quotient of `m` by `2 ^ n`, rounded to the nearest integer and from halfway to the even
one. -/
def roundedQuotient (m n : Nat) : Nat :=
  let quotient := m >>> n
  let rest := m - (quotient <<< n)
  let unit := 1 <<< n
  if unit < 2 * rest || (unit == 2 * rest && quotient % 2 == 1) then quotient + 1 else quotient

/-- Count of binary digits. -/
def bitLength (m : Nat) : Nat :=
  if m = 0 then 0 else Nat.log2 m + 1

/-- The number rounded to 64 significant bits. -/
def round (x : Extended) : Extended :=
  let dropped := bitLength x.significand - 64
  ⟨roundedQuotient x.significand dropped, x.exponent + dropped⟩

/-- The rounded product. -/
def mul (x y : Extended) : Extended :=
  round ⟨x.significand * y.significand, x.exponent + y.exponent⟩

/-- Whether one number is less than another. -/
def isLess (x y : Extended) : Bool :=
  let low := min x.exponent y.exponent
  (x.significand <<< (x.exponent - low).toNat) < (y.significand <<< (y.exponent - low).toNat)

/-- The greatest floating-point number. -/
def greatest : Extended :=
  ⟨0x1fffffffffffff, 971⟩

/-- The nearest floating-point number, and infinity beyond the greatest one. -/
def toFloat (x : Extended) : Float :=
  if x.significand = 0 then 0.0
  else if greatest.isLess x then 1.0 / 0.0
  else
    -- The exponent of the last digit: 53 digits are kept, fewer of a number near zero.
    let last := max ((Nat.log2 x.significand : Int) + x.exponent - 52) (-1074)
    let digits :=
      if last ≤ x.exponent then x.significand <<< (x.exponent - last).toNat
      else roundedQuotient x.significand (last - x.exponent).toNat
    -- The leading digit of `digits` adds one to the exponent, also if rounding made it one longer.
    Float.ofBits (UInt64.ofNat (((last + 1074).toNat <<< 52) + digits))

/-- A number that is neither negative nor infinite. -/
def ofFloat (x : Float) : Extended :=
  let magnitude := Magnitude.ofBits x.toBits
  ⟨magnitude.mantissa, magnitude.exponent⟩

/-- The greatest integer that is not above the number. -/
def floor (x : Extended) : Nat :=
  if 0 ≤ x.exponent then x.significand <<< x.exponent.toNat
  else x.significand >>> (-x.exponent).toNat

/-! ## Powers of ten -/

/-- A power of ten with its logarithm. -/
structure Step where
  power : Extended
  log10 : Int

/-- Ten to the hundredth. -/
def up100 : Step := ⟨⟨0x924d692ca61be758, 269⟩, 100⟩

/-- Ten to the tenth. -/
def up10 : Step := ⟨⟨0x9502f90000000000, -30⟩, 10⟩

/-- Ten. -/
def up1 : Step := ⟨⟨0xa000000000000000, -60⟩, 1⟩

/-- The reciprocal of ten to the hundredth. -/
def down100 : Step := ⟨⟨0xdff9772470297ebd, -396⟩, -100⟩

/-- The reciprocal of ten to the tenth. -/
def down10 : Step := ⟨⟨0xdbe6fecebdedd5bf, -97⟩, -10⟩

/-- A tenth. -/
def down1 : Step := ⟨⟨0xcccccccccccccccd, -67⟩, -1⟩

/-- Repeated multiplication by one power. -/
def times (x : Extended) (factor : Extended) : Nat → Extended
  | 0 => x
  | count + 1 => times (x.mul factor) factor count

/-- Multiplication by a power of ten, in hundreds, tens and ones of its logarithm. -/
def scale (x : Extended) (log10 : Int) : Extended :=
  let count := log10.natAbs
  let (hundreds, tens, ones) := if 0 ≤ log10 then (up100, up10, up1) else (down100, down10, down1)
  ((x.times hundreds.power (count / 100)).times tens.power (count % 100 / 10)).times ones.power
    (count % 10)

end Extended

/-! ## Reading -/

namespace Decimal

/-- The significand below which there is room for one more digit. -/
def room : Nat := 0x1999999999999998

/-- Takes in a digit of the whole part; one without room raises the exponent. -/
def withWhole (d : Decimal) (c : Char) : Decimal :=
  if d.digits < room then ⟨10 * d.digits + ofDigits [c], d.exponent⟩
  else ⟨d.digits, d.exponent + 1⟩

/-- Takes in a digit of the fraction; one without room does not count. -/
def withFraction (d : Decimal) (c : Char) : Decimal :=
  if d.digits < room then ⟨10 * d.digits + ofDigits [c], d.exponent - 1⟩ else d

/-- The decimal that digits before and after a point write, of which the first 19 or 20 count. -/
def ofParts (whole fraction : List Char) : Decimal :=
  fraction.foldl withFraction (whole.foldl withWhole ⟨0, 0⟩)

/-- The decimal `digits * 10 ^ exponent`, with zeros put behind the digits while there is room. -/
def lowered (digits : Nat) : Nat → Decimal
  | 0 => ⟨digits, 0⟩
  | exponent + 1 =>
    if digits < 0x1999999999999999 then lowered (10 * digits) exponent
    else ⟨digits, (exponent : Int) + 1⟩

/-- The decimal `digits / 10 ^ exponent`, with zeros struck off the end of the digits. -/
def raised (digits : Nat) : Nat → Decimal
  | 0 => ⟨digits, 0⟩
  | exponent + 1 =>
    if digits % 10 = 0 then raised (digits / 10) exponent
    else ⟨digits, -((exponent : Int) + 1)⟩

/-- The floating-point number of a decimal with digits below `2 ^ 64`, through rounded products. -/
def approximate (d : Decimal) : Float :=
  if d.digits = 0 then 0.0
  else
    let d := if 0 ≤ d.exponent then lowered d.digits d.exponent.toNat
      else raised d.digits (-d.exponent).toNat
    (Extended.scale ⟨d.digits, 0⟩ d.exponent).toFloat

end Decimal

/-! ## Writing -/

namespace Extended

/-- Multiplies a number by a power as long as a test holds, at most `count` times, and keeps the
product with its exponent of ten the same. -/
def scaleWhile (test : Extended → Bool) (step : Step) : Nat → Extended × Int → Extended × Int
  | 0, state => state
  | count + 1, (x, exponent) =>
    if test x then scaleWhile test step count (x.mul step.power, exponent - step.log10)
    else (x, exponent)

/-- The decimal of 18 or 19 digits that stands for a number above zero: the number is brought
between `10 ^ 17` and `10 ^ 19` and cut off at the point. -/
def toDecimal (x : Extended) : Decimal :=
  let isAbove (bound : Extended) (x : Extended) : Bool := !x.isLess bound
  let isBelow (bound : Extended) (x : Extended) : Bool := x.isLess bound
  let e19 : Extended := ⟨0x8ac7230489e80000, 0⟩
  let (x, exponent) :=
    if isAbove e19 x then
      scaleWhile (isAbove e19) down1 10
        (scaleWhile (isAbove ⟨0xa18f07d736b90be5, 33⟩) down10 10
          (scaleWhile (isAbove ⟨0x9e9f11c4014dda7e, 332⟩) down100 4 (x, 0)))
    else
      scaleWhile (isBelow ⟨0xb1a2bc2ec5000000, -7⟩) up1 10
        (scaleWhile (isBelow ⟨0x9896800000000000, -40⟩) up10 12
          (scaleWhile (isBelow ⟨0xdab99e59958885c5, -386⟩) up100 4 (x, 0)))
  ⟨x.floor, exponent⟩

end Extended

end BoundSql.Number
