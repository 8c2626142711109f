import BoundSql.Engine.Operator

/-!
# Expressions

What a selection computes for a column from constants and the values of parameters.
-/

namespace BoundSql.Engine

/-- An expression whose parameters are known by their positions. -/
inductive Expression where
  | constant (cell : Cell)
  | numeral (n : Numeral)
  /-- `TRUE` or `FALSE`, which are one and zero. -/
  | truth (b : Bool)
  | parameter (position : Nat)
  | unary (op : UnaryOperator) (operand : Expression)
  | binary (op : BinaryOperator) (left right : Expression)
  | cast (affinity : Affinity) (operand : Expression)
deriving DecidableEq

namespace Expression

/-- The affinity of the expression; only a cast has one. -/
def affinity? : Expression → Option Affinity
  | cast affinity _ => some affinity
  | _ => none

/-- The most operations on top of each other, the operand below them included. -/
def maxHeight : Nat := 1000

/-- How many operations stand on top of each other, counting the operand below them. -/
def height : Expression → Nat
  | unary _ e | cast _ e => e.height + 1
  | binary _ a b => max a.height b.height + 1
  | _ => 1

/-- The opposite of an expression. A number is written with its sign. -/
def negate? : Expression → Option Expression
  | numeral n => (n.cell? true).map constant
  | e => some (unary .minus e)

/-- An operator between two operands. Whether something is the same as `TRUE` or `FALSE` asks for
its truth value. -/
def between (op : BinaryOperator) (left right : Expression) : Expression :=
  match op, right with
  | .comparison .same, truth b => unary (.isTruth b false) left
  | .comparison .different, truth b => unary (.isTruth b true) left
  | op, right => binary op left right

/-- The value of the expression, given the values of the parameters. -/
def value (values : List Value) : Expression → Cell
  | constant cell => cell
  | numeral n => (n.cell? false).getD .null
  | truth b => .ofTruth (some b)
  | parameter position => .ofValue (values.getD position .null)
  | unary op e => op.apply (e.value values)
  | binary op a b =>
    op.apply (Affinity.common a.affinity? b.affinity?) (a.value values) (b.value values)
  | cast affinity e => (e.value values).cast affinity

end Expression

end BoundSql.Engine
