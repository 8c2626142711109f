import BoundSql.Engine.Cell
import BoundSql.Engine.Token
import BoundSql.Number.Extended
import BoundSql.Number.Layout
import BoundSql.Number.Literal

/-!
# Numbers in text

A statement writes numbers without a sign, in decimal or hexadecimal digits that underscores may
separate. Text that stands where a number is wanted counts as the number at its front. Numbers
with a point or an exponent, and integers that do not fit into 64 bits, are floating-point numbers,
which are read and written with about 19 digits.
-/

namespace BoundSql.Engine

/-! ## Numbers of statements -/

/-- A number as it is written, without a sign. -/
inductive Numeral where
  /-- Decimal digits. -/
  | whole (n : Nat)
  /-- Hexadecimal digits, which stand for the bits of an integer. -/
  | bits (n : Int64)
  /-- Digits with a point or an exponent. -/
  | real (x : Float)
deriving DecidableEq

namespace Numeral

/-- Takes in a digit of an exponent; beyond ten thousand all are alike. -/
def withExponent (n : Nat) (c : Char) : Nat :=
  if n < 10000 then 10 * n + Number.ofDigits [c] else 10000

/-- The exponent that digits after a sign write. -/
def exponent : List Char → Int
  | '-' :: digits => -(digits.foldl withExponent 0 : Nat)
  | '+' :: digits => (digits.foldl withExponent 0 : Nat)
  | digits => (digits.foldl withExponent 0 : Nat)

/-- The floating-point number of a literal. Parts that are missing count as zero. -/
def realOf (l : Number.Literal) : Float :=
  let d := Number.Decimal.ofParts l.whole (l.fraction.getD [])
  Number.Decimal.approximate ⟨d.digits, d.exponent + exponent (l.exponent.getD [])⟩

/-- The number with a sign. The least integer can be written in decimal digits only: in hexadecimal
digits its opposite, which is no integer, would be its own bits. -/
def cell? (negative : Bool) : Numeral → Option Cell
  | bits n => (Value.int64? (if negative then -n.toInt else n.toInt)).map .integer
  | real x => some (.real (if negative then -x else x))
  | whole n =>
    match Value.int64? (if negative then -(n : Int) else n) with
    | some n => some (.integer n)
    | none =>
      let x := realOf ⟨(toString n).toList, none, none⟩
      some (.real (if negative then -x else x))

/-- Whether every underscore stands between two digits; `previous` says whether a digit stands in
front. -/
def separatesDigits (isDigit : Char → Bool) (previous : Bool) : List Char → Bool
  | [] => true
  | c :: rest =>
    (c != '_' || previous && rest.head?.any isDigit) && separatesDigits isDigit (isDigit c) rest

/-- The number that hexadecimal digits write, of which at most 16 count. -/
def ofHexDigits? (digits : List Char) : Option Numeral := do
  let significant := digits.dropWhile (· == '0')
  if significant.length > 16 then none
  let n ← Value.int64? (Int.bmod ((Number.ofHexDigits? significant).getD 0) 0x10000000000000000)
  return bits n

/-- The number that the text of a token writes. -/
def ofText? (text : String) : Option Numeral :=
  let digits := text.toList.filter (· != '_')
  match digits with
  | '0' :: 'x' :: hex | '0' :: 'X' :: hex =>
    if separatesDigits Token.isHexDigit false text.toList then
      ofHexDigits? hex
    else none
  | _ =>
    if separatesDigits Char.isDigit false text.toList then
      let l := Number.Literal.ofChars digits
      some (if l.isInteger then whole (Number.ofDigits l.whole) else real (realOf l))
    else none

end Numeral

/-! ## Numbers of text -/

/-- The number at the front of text, after white space. -/
structure LeadingNumber where
  negative : Bool
  literal : Number.Literal
  /-- Whether nothing but white space follows, and every part that was begun has digits. -/
  isComplete : Bool

namespace LeadingNumber

/-- Cuts a sign off. -/
def cutSign : List Char → Bool × List Char
  | '-' :: rest => (true, rest)
  | '+' :: rest => (false, rest)
  | cs => (false, cs)

/-- The fraction after a point and what follows it. -/
def cutFraction : List Char → Option (List Char) × List Char
  | '.' :: rest => (some (rest.takeWhile Char.isDigit), rest.dropWhile Char.isDigit)
  | cs => (none, cs)

/-- The exponent with its sign after an exponent mark, and what follows it. -/
def cutExponent (cs : List Char) : Option (List Char) × List Char :=
  match cs with
  | [] => (none, cs)
  | c :: rest =>
    if c == 'e' || c == 'E' then
      let (negative, digits) := cutSign rest
      (some ((if negative then ['-'] else []) ++ digits.takeWhile Char.isDigit),
        digits.dropWhile Char.isDigit)
    else (none, cs)

/-- Whether an exponent has digits. -/
def hasDigits (exponent : List Char) : Bool :=
  exponent.any Char.isDigit

/-- The number at the front of text that holds one character for each byte. -/
def ofChars (cs : List Char) : LeadingNumber :=
  let (negative, cs) := cutSign (cs.dropWhile Token.isSpace)
  let whole := cs.takeWhile Char.isDigit
  let (fraction, cs) := cutFraction (cs.dropWhile Char.isDigit)
  let (exponent, cs) := cutExponent cs
  let hasValue := !whole.isEmpty || fraction.any (!·.isEmpty)
  ⟨negative, ⟨whole, fraction, exponent⟩,
    hasValue && exponent.all hasDigits && cs.all Token.isSpace⟩

/-- The number at the front of bytes. -/
def ofBytes (bytes : List UInt8) : LeadingNumber :=
  ofChars (bytes.map fun b => Char.ofNat b.toNat)

/-- The number as a floating-point number. -/
def real (n : LeadingNumber) : Float :=
  let x := Numeral.realOf n.literal
  if n.negative then -x else x

/-- The digits before the point with the sign. -/
def whole (n : LeadingNumber) : Int :=
  let m := Number.ofDigits n.literal.whole
  if n.negative then -(m : Int) else m

/-- Whether a point or an exponent makes the number a floating-point number. -/
def isReal (n : LeadingNumber) : Bool :=
  let hasValue := !n.literal.whole.isEmpty || n.literal.fraction.any (!·.isEmpty)
  hasValue && (n.literal.fraction.isSome || n.literal.exponent.any hasDigits)

/-- The number as a cell: an integer if it is written as one and fits. -/
def cell (n : LeadingNumber) : Cell :=
  if n.isReal then .real n.real
  else match Value.int64? n.whole with
    | some m => .integer m
    | none => .real n.real

end LeadingNumber

/-! ## Writing -/

/-- The decimal with at most 15 digits nearest to one of 18 or 19, a half rounded up, without zeros
at its end. -/
def shortened (d : Number.Decimal) : Number.Decimal :=
  let dropped := (toString d.digits).length - 15
  let unit := Nat.pow 10 dropped
  let digits := (2 * d.digits + unit) / (2 * unit)
  let exponent := d.exponent + dropped
  let zeros := ((toString digits).toList.reverse.takeWhile (· == '0')).length
  ⟨digits / Nat.pow 10 zeros, exponent + zeros⟩

/-- The text of a floating-point number, with at most 15 digits. -/
def realText (x : Float) : String :=
  if x == 0.0 then "0.0"
  else
    let sign := if x < 0.0 then "-" else ""
    if x.isInf then sign ++ "Inf"
    else sign ++
      Number.FloatLayout.padded.writeDecimal (shortened (Number.Extended.ofFloat x).toDecimal)

end BoundSql.Engine
