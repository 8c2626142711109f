import BoundSql.Number.Decimal
import BoundSql.Number.Digits

/-!
# Decimal literals

A literal without its sign: digits, a fraction after a point, and an exponent after `e`.
-/

namespace BoundSql.Number

/-- The number that a nonempty run of decimal digits writes. -/
def ofDigits? (cs : List Char) : Option Nat :=
  if cs.isEmpty || !cs.all Char.isDigit then none else some (ofDigits cs)

/-- The parts of an unsigned literal. -/
structure Literal where
  whole : List Char
  fraction : Option (List Char)
  exponent : Option (List Char)

namespace Literal

/-- Cuts a literal at its exponent mark and at its point. -/
def ofChars (cs : List Char) : Literal :=
  let isMark (c : Char) : Bool := c == 'e' || c == 'E'
  let mantissa := cs.takeWhile fun c => !isMark c
  let exponent :=
    match cs.dropWhile fun c => !isMark c with
    | [] => none
    | _ :: rest => some rest
  let whole := mantissa.takeWhile (· != '.')
  let fraction :=
    match mantissa.dropWhile (· != '.') with
    | [] => none
    | _ :: rest => some rest
  ⟨whole, fraction, exponent⟩

/-- Whether there is neither a fraction nor an exponent. -/
def isInteger (l : Literal) : Bool :=
  l.fraction.isNone && l.exponent.isNone

/-- Whether the first digit is a zero that more digits follow. -/
def hasLeadingZero (l : Literal) : Bool :=
  l.whole.length > 1 && l.whole.head? == some '0'

/-- A signed exponent. -/
def exponentOf? : List Char → Option Int
  | '+' :: cs => (ofDigits? cs).map Int.ofNat
  | '-' :: cs => (ofDigits? cs).map fun n => -(n : Int)
  | cs => (ofDigits? cs).map Int.ofNat

/-- The decimal of a literal, if every part has digits: what `significand` makes of the digits
before and after the point, shifted by the exponent. -/
def decimal? (significand : List Char → List Char → Decimal) (l : Literal) : Option Decimal := do
  let _ ← ofDigits? l.whole
  let places ← match l.fraction with
    | none => some []
    | some places => (ofDigits? places).map fun _ => places
  let shift ← match l.exponent with
    | none => some 0
    | some cs => exponentOf? cs
  let d := significand l.whole places
  return ⟨d.digits, d.exponent + shift⟩

/-- The nearest floating-point number, if every part has digits and the number is in range. -/
def float? (negative : Bool) (l : Literal) : Option Float := do
  let d ← l.decimal? fun whole places => ⟨ofDigits (whole ++ places), -places.length⟩
  floatOfDecimal? negative d

end Literal

end BoundSql.Number
