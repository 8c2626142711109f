import BoundSql.Engine.Affinity

/-!
# Operators

What operators make of cells. Null is what is unknown: an operation on it is null, except where its
truth value does not depend on it. Integers that leave their 64 bits go on as floating-point
numbers, and dividing by zero is null.
-/

namespace BoundSql.Engine

/-- The operators with one operand. -/
inductive UnaryOperator where
  | plus
  | minus
  | complement
  | not
  | isNull
  | isPresent
  /-- Whether the operand is, or is not, one of the truth values. -/
  | isTruth (truth : Bool) (negated : Bool)
deriving DecidableEq, Repr

/-- The operators of arithmetic. -/
inductive Arithmetic where
  | add
  | subtract
  | multiply
  | divide
  | remainder
deriving DecidableEq, Repr

/-- The operators on the bits of integers. -/
inductive Bitwise where
  | and
  | or
  | shiftLeft
  | shiftRight
deriving DecidableEq, Repr

/-- The comparisons. The last two are never null: null is the same as null. -/
inductive Comparison where
  | equal
  | unequal
  | less
  | atMost
  | greater
  | atLeast
  | same
  | different
deriving DecidableEq, Repr

/-- The operators with two operands. -/
inductive BinaryOperator where
  | or
  | and
  | comparison (c : Comparison)
  | bitwise (b : Bitwise)
  | arithmetic (a : Arithmetic)
  | concatenate
deriving DecidableEq, Repr

/-! ## Arithmetic -/

namespace Arithmetic

/-- The result on integers, if it is one and fits; null on dividing by zero. -/
def onIntegers? (op : Arithmetic) (a b : Int) : Option Cell :=
  let fit (n : Int) : Option Cell := (Value.int64? n).map .integer
  match op with
  | add => fit (a + b)
  | subtract => fit (a - b)
  | multiply => fit (a * b)
  | divide => if b = 0 then some .null else fit (a.tdiv b)
  | remainder => if b = 0 then some .null else fit (a.tmod b)

/-- The result on floating-point numbers. A remainder is that of the integers they count as. -/
def onReals (op : Arithmetic) (a b : Cell) : Cell :=
  let x := a.realValue
  let y := b.realValue
  match op with
  | add => .ofFloat (x + y)
  | subtract => .ofFloat (x - y)
  | multiply => .ofFloat (x * y)
  | divide => if y == 0.0 then .null else .ofFloat (x / y)
  | remainder =>
    let n := b.integerValue.toInt
    if n = 0 then .null else .ofFloat (Number.floatOfInt (a.integerValue.toInt.tmod n))

/-- The result on cells. -/
def apply (op : Arithmetic) (a b : Cell) : Cell :=
  match a.number, b.number with
  | .null, _ | _, .null => .null
  | .integer m, .integer n =>
    (op.onIntegers? m.toInt n.toInt).getD (op.onReals (.integer m) (.integer n))
  | _, _ => op.onReals a b

end Arithmetic

/-! ## Bits -/

namespace Bitwise

/-- The bits of `n` moved to the left, or to the right if `places` is negative. -/
def shift (n : Int64) (places : Int) : Int64 :=
  if 64 ≤ places then 0
  else if places ≤ -64 then if n.toInt < 0 then -1 else 0
  else if 0 ≤ places then Int64.ofInt (n.toInt * Nat.pow 2 places.toNat)
  else Int64.ofInt (n.toInt / Nat.pow 2 (-places).toNat)

/-- The result on integers. -/
def onIntegers (op : Bitwise) (m n : Int64) : Int64 :=
  match op with
  | and => m &&& n
  | or => m ||| n
  | shiftLeft => shift m n.toInt
  | shiftRight => shift m (-n.toInt)

/-- The result on cells. -/
def apply (op : Bitwise) (a b : Cell) : Cell :=
  if a = .null || b = .null then .null
  else .integer (op.onIntegers a.integerValue b.integerValue)

end Bitwise

/-! ## Comparison -/

namespace Cell

/-- How an integer compares with a floating-point number, exactly. -/
def compareWithReal (n : Int64) (x : Float) : Ordering :=
  if x < -9223372036854775808.0 then .gt
  else if x ≥ 9223372036854775808.0 then .lt
  else
    let m := x.toInt64
    let whole := Number.floatOfInt m.toInt
    (compare n.toInt m.toInt).then (if whole < x then .lt else if x < whole then .gt else .eq)

/-- How two cells compare: null, then numbers, then text, then blobs. -/
def order : Cell → Cell → Ordering
  | null, null => .eq
  | null, _ => .lt
  | _, null => .gt
  | integer m, integer n => compare m.toInt n.toInt
  | integer n, real x => compareWithReal n x
  | real x, integer n => (compareWithReal n x).swap
  | real x, real y => if x < y then .lt else if y < x then .gt else .eq
  | integer _, _ | real _, _ => .lt
  | _, integer _ | _, real _ => .gt
  | text _, blob _ => .lt
  | blob _, text _ => .gt
  | text a, text b | blob a, blob b => compare (a.map UInt8.toNat) (b.map UInt8.toNat)

end Cell

namespace Comparison

/-- Whether the comparison holds of two cells in that order. -/
def holds : Comparison → Ordering → Bool
  | equal, o | same, o => o == .eq
  | unequal, o | different, o => o != .eq
  | less, o => o == .lt
  | atMost, o => o != .gt
  | greater, o => o == .gt
  | atLeast, o => o != .lt

/-- The result on cells. -/
def apply (c : Comparison) (a b : Cell) : Cell :=
  if c != same && c != different && (a = .null || b = .null) then .null
  else .ofTruth (some (c.holds (a.order b)))

end Comparison

/-! ## All operators -/

/-- The truth of two statements together. -/
def bothTrue : Option Bool → Option Bool → Option Bool
  | some false, _ | _, some false => some false
  | some true, some true => some true
  | _, _ => none

/-- What an operator makes of its operand. -/
def UnaryOperator.apply : UnaryOperator → Cell → Cell
  | plus, c => c
  | minus, c => Arithmetic.subtract.apply (.integer 0) c
  | complement, c => if c = .null then .null else .integer (~~~c.integerValue)
  | not, c => .ofTruth (c.truth?.map (!·))
  | isNull, c => .ofTruth (some (c = .null))
  | isPresent, c => .ofTruth (some (c ≠ .null))
  | isTruth truth negated, c => .ofTruth (some ((c.truth? == some truth) != negated))

/-- What an operator makes of its operands, which are compared with an affinity. -/
def BinaryOperator.apply (op : BinaryOperator) (affinity : Option Affinity) (a b : Cell) : Cell :=
  match op with
  | or => .ofTruth ((bothTrue (a.truth?.map (!·)) (b.truth?.map (!·))).map (!·))
  | and => .ofTruth (bothTrue a.truth? b.truth?)
  | comparison op => op.apply (a.prefer affinity) (b.prefer affinity)
  | bitwise op => op.apply a b
  | arithmetic op => op.apply a b
  | concatenate => if a = .null || b = .null then .null else .text (a.textBytes ++ b.textBytes)

end BoundSql.Engine
