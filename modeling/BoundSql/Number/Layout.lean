import BoundSql.Number.Shortest

/-!
# Layout of floating-point text

One record holds the decisions of a written form: which exponents are written out in full, where a
fraction of zero is kept, how an exponent is written and which way a tie goes. `FloatLayout.write`
applies them to the shortest decimal of a number.
-/

namespace BoundSql.Number

/-- The decisions of one written form of floating-point numbers. -/
structure FloatLayout where
  /-- The exponents `e` of `d.ddd * 10 ^ e` that are written without an exponent; all if absent. -/
  plain : Option (Int × Int)
  /-- A whole number is written with the fraction `.0`. -/
  wholeFraction : Bool
  /-- A single digit before an exponent is written with the fraction `.0`. -/
  digitFraction : Bool
  /-- What stands between `e` and an exponent that is not negative. -/
  plusMark : String
  /-- The least count of digits of an exponent. -/
  exponentDigits : Nat
  tie : Tie

/-- `count` zeros. -/
def zeros (count : Nat) : String :=
  String.ofList (List.replicate count '0')

/-- The digits with the decimal point put where the exponent says. -/
def plainText (wholeFraction : Bool) (d : Decimal) : String :=
  let digits := toString d.digits
  let whole := (digits.length : Int) + d.exponent
  if 0 ≤ d.exponent then
    digits ++ zeros d.exponent.toNat ++ (if wholeFraction then ".0" else "")
  else if 0 < whole then
    String.ofList (digits.toList.take whole.toNat) ++ "." ++
      String.ofList (digits.toList.drop whole.toNat)
  else "0." ++ zeros (-whole).toNat ++ digits

namespace FloatLayout

/-- Positional with no exponent at all: `1`, `0.0000001`. -/
def positional : FloatLayout :=
  ⟨none, false, false, "", 1, .up⟩

/-- Positional from `0.0001` up to `10 ^ 16`, always with a fraction: `1.0`, `1e16`, `1e-5`. -/
def exact : FloatLayout :=
  ⟨some (-4, 15), true, false, "", 1, .up⟩

/-- Positional from `0.00001` up to `10 ^ 16`, a plus sign before an exponent: `1.0`, `1e+16`. -/
def json : FloatLayout :=
  ⟨some (-5, 15), true, false, "+", 1, .toEven⟩

/-- Positional from `0.0001` up to `10 ^ 15`, with a fraction and two digits of an exponent
everywhere: `1.0`, `1.0e+15`, `1.5e-05`. -/
def padded : FloatLayout :=
  ⟨some (-4, 14), true, true, "+", 2, .up⟩

/-- One digit, the other digits after a point, and the exponent. -/
def scientificText (layout : FloatLayout) (d : Decimal) : String :=
  let digits := (toString d.digits).toList
  let exponent := (digits.length : Int) - 1 + d.exponent
  let fraction :=
    if 1 < digits.length then "." ++ String.ofList (digits.drop 1)
    else if layout.digitFraction then ".0"
    else ""
  let sign := if exponent < 0 then "-" else layout.plusMark
  let power := toString exponent.natAbs
  String.ofList (digits.take 1) ++ fraction ++ "e" ++ sign ++
    zeros (layout.exponentDigits - power.length) ++ power

/-- A decimal in this layout. -/
def writeDecimal (layout : FloatLayout) (d : Decimal) : String :=
  let exponent := ((toString d.digits).length : Int) - 1 + d.exponent
  let inPlainRange : Bool :=
    match layout.plain with
    | none => true
    | some (low, high) => low ≤ exponent && exponent ≤ high
  if inPlainRange then plainText layout.wholeFraction d else layout.scientificText d

/-- A number in this layout: the fewest digits that read back, after the sign. -/
def write (layout : FloatLayout) (x : Float) : String :=
  if x.isNaN then "NaN"
  else
    let sign := if x.toBits.toNat ≥ 0x8000000000000000 then "-" else ""
    if x.isInf then sign ++ "inf"
    else sign ++ layout.writeDecimal ((Magnitude.ofBits x.toBits).shortest layout.tie)

end FloatLayout

end BoundSql.Number
