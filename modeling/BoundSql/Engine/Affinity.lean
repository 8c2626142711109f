import BoundSql.Engine.Numeral

/-!
# Cells as values of other kinds

An operation that wants a number, a truth value or text takes what a cell counts as. A cast names
the kind that it wants by a type, whose affinity says which of five conversions is meant.
-/

namespace BoundSql.Engine

/-- The kind of value that a type prefers. -/
inductive Affinity where
  | blob
  | text
  | numeric
  | integer
  | real
deriving DecidableEq, Repr

/-- Whether one text occurs in another. -/
def occursIn (part : List Char) : List Char → Bool
  | [] => part.isEmpty
  | c :: rest => part.isPrefixOf (c :: rest) || occursIn part rest

/-- The affinity of a type: the first of these words that occurs in its name decides. -/
def Affinity.ofTypeName (name : String) : Affinity :=
  let isIn (part : String) : Bool := occursIn part.toList (name.toList.map Char.toLower)
  if isIn "int" then integer
  else if isIn "char" || isIn "clob" || isIn "text" then text
  else if isIn "blob" then blob
  else if isIn "real" || isIn "floa" || isIn "doub" then real
  else numeric

namespace Cell

/-! ## Numbers -/

/-- The integer at the front of text, or the nearest one that fits. -/
def clampedInteger (n : Int) : Int64 :=
  Int64.ofInt (max (-0x8000000000000000) (min 0x7fffffffffffffff n))

/-- The integer that a cell counts as: a floating-point number without its fraction, text by the
digits at its front. -/
def integerValue : Cell → Int64
  | null => 0
  | integer n => n
  | real x => x.toInt64
  | text bytes | blob bytes => clampedInteger (LeadingNumber.ofBytes bytes).whole

/-- The floating-point number that a cell counts as. -/
def realValue : Cell → Float
  | null => 0.0
  | integer n => Number.floatOfInt n.toInt
  | real x => x
  | text bytes | blob bytes => (LeadingNumber.ofBytes bytes).real

/-- The number that a cell counts as in arithmetic. -/
def number : Cell → Cell
  | text bytes | blob bytes => (LeadingNumber.ofBytes bytes).cell
  | c => c

/-- The cell of a result: there is no NaN. -/
def ofFloat (x : Float) : Cell :=
  if x.isNaN then null else real x

/-! ## Truth -/

/-- Whether a cell counts as true: as a number, it is not zero. Null is neither. -/
def truth? : Cell → Option Bool
  | null => none
  | integer n => some (n != 0)
  | c => some (c.realValue != 0.0)

/-- The cell of a truth value. -/
def ofTruth : Option Bool → Cell
  | none => null
  | some b => integer (if b then 1 else 0)

/-! ## Text -/

/-- The text that a cell counts as; that of null is empty. -/
def textBytes : Cell → List UInt8
  | null => []
  | integer n => Text.utf8 (toString n.toInt)
  | real x => Text.utf8 (realText x)
  | text bytes | blob bytes => bytes

/-! ## Casts -/

/-- The integer equal to a floating-point number, if it is less than `2 ^ 51` in magnitude. -/
def wholeOf? (x : Float) : Option Int64 :=
  let n := x.toInt64
  let isEqual := x == 0.0 || (Number.floatOfInt n.toInt).toBits == x.toBits
  if isEqual && -0x8000000000000 ≤ n.toInt && n.toInt < 0x8000000000000 then some n else none

/-- The number at the front of text, an integer wherever it equals one. -/
def numericOf (bytes : List UInt8) : Cell :=
  match (LeadingNumber.ofBytes bytes).cell with
  | real x => ((wholeOf? x).map integer).getD (real x)
  | c => c

/-- Casts a cell to the kind of an affinity. Null stays null. -/
def cast (affinity : Affinity) (c : Cell) : Cell :=
  match affinity, c with
  | _, null => null
  | .blob, c => blob c.textBytes
  | .text, c => text c.textBytes
  | .integer, c => integer c.integerValue
  | .real, c => real c.realValue
  | .numeric, text bytes | .numeric, blob bytes => numericOf bytes
  | .numeric, c => c

/-! ## Comparison -/

/-- The number that text is as a whole, or else the text. -/
def preferNumber : Cell → Cell
  | text bytes =>
    let n := LeadingNumber.ofBytes bytes
    if n.isComplete then n.cell else text bytes
  | c => c

/-- The text of a number, or else the cell. -/
def preferText : Cell → Cell
  | c@(integer _) | c@(real _) => text c.textBytes
  | c => c

/-- What an operand is compared as. -/
def prefer : Option Affinity → Cell → Cell
  | none, c | some .blob, c => c
  | some .text, c => c.preferText
  | some _, c => c.preferNumber

end Cell

/-- The affinity with which two operands are compared: two with affinities are compared as numbers
if either prefers one, and one with an affinity takes the other along. -/
def Affinity.common : Option Affinity → Option Affinity → Option Affinity
  | none, a | a, none => a
  | some a, some b =>
    let isNumber (a : Affinity) : Bool := a == numeric || a == integer || a == real
    if isNumber a || isNumber b then some numeric else some blob

end BoundSql.Engine
