import BoundSql.Engine.Expression
import BoundSql.Engine.Keyword
import BoundSql.Engine.Parameter

/-!
# Reading of expressions

An operator has a level, and its right operand is made with operators of higher levels only.
Operators in front of an operand bind tighter than all that follow it, except for `NOT`, which
takes whatever comparison follows. Parameters are numbered in the order of their places.
-/

namespace BoundSql.Engine

/-! ## Operators -/

/-- An operator behind an operand. -/
inductive Suffix where
  | unary (op : UnaryOperator)
  | binary (op : BinaryOperator)

namespace Suffix

/-- The level of `NOT` in front of an operand. -/
def notLevel : Nat := 3

/-- The level of an operator. -/
def level : Suffix → Nat
  | binary .or => 1
  | binary .and => 2
  | binary (.comparison .less) | binary (.comparison .atMost) => 5
  | binary (.comparison .greater) | binary (.comparison .atLeast) => 5
  | binary (.comparison _) | unary _ => 4
  | binary (.bitwise _) => 6
  | binary (.arithmetic .add) | binary (.arithmetic .subtract) => 7
  | binary (.arithmetic _) => 8
  | binary .concatenate => 9

/-- The operators that are marks. -/
def marks : List (String × BinaryOperator) :=
  [("=", .comparison .equal), ("==", .comparison .equal), ("<>", .comparison .unequal),
    ("!=", .comparison .unequal), ("<", .comparison .less), ("<=", .comparison .atMost),
    (">", .comparison .greater), (">=", .comparison .atLeast), ("&", .bitwise .and),
    ("|", .bitwise .or), ("<<", .bitwise .shiftLeft), (">>", .bitwise .shiftRight),
    ("+", .arithmetic .add), ("-", .arithmetic .subtract), ("*", .arithmetic .multiply),
    ("/", .arithmetic .divide), ("%", .arithmetic .remainder), ("||", .concatenate)]

/-- Whether tokens begin with some keywords. -/
def startsWith : List String → List Token → Bool
  | [], _ => true
  | _ :: _, [] => false
  | keyword :: keywords, t :: ts => t.isKeyword keyword && startsWith keywords ts

/-- The operator that begins with a token, and the number of tokens that belong to it besides. -/
def ofToken? (t : Token) (rest : List Token) : Option (Suffix × Nat) :=
  if t.isKeyword "OR" then some (binary .or, 0)
  else if t.isKeyword "AND" then some (binary .and, 0)
  else if t.isKeyword "ISNULL" then some (unary .isNull, 0)
  else if t.isKeyword "NOTNULL" then some (unary .isPresent, 0)
  else if t.isKeyword "NOT" then
    if startsWith ["NULL"] rest then some (unary .isPresent, 1) else none
  else if t.isKeyword "IS" then
    if startsWith ["NOT", "DISTINCT", "FROM"] rest then some (binary (.comparison .same), 3)
    else if startsWith ["NOT"] rest then some (binary (.comparison .different), 1)
    else if startsWith ["DISTINCT", "FROM"] rest then some (binary (.comparison .different), 2)
    else some (binary (.comparison .same), 0)
  else (marks.find? fun mark => t.isMark mark.1).map fun mark => (binary mark.2, 0)

end Suffix

/-! ## Types of casts -/

/-- Count of the tokens of a number, which may have a sign. -/
def signedLength? : List Token → Option Nat
  | [] => none
  | t :: rest =>
    if t.lexeme == .number then some 1
    else if (t.isMark "+" || t.isMark "-") && rest.head?.any (·.lexeme == .number) then some 2
    else none

/-- Count of the tokens of one or two sizes and the closing parenthesis after them. -/
def sizesLength? (ts : List Token) : Option Nat := do
  let first ← signedLength? ts
  match ts.drop first with
  | [] => none
  | t :: rest =>
    if t.isMark ")" then return first + 1
    else
      guard (t.isMark ",")
      let second ← signedLength? rest
      guard ((rest.drop second).head?.any (·.isMark ")"))
      return first + second + 2

/-- Count of the tokens of a type: any words, and after them sizes in parentheses. -/
def typeLength? (ts : List Token) : Option Nat :=
  let words :=
    (ts.takeWhile fun t => (t.name? (Token.reserved ++ Token.joining)).isSome).length
  match ts.drop words with
  | [] => none
  | t :: rest =>
    if words > 0 && t.isMark "(" then (sizesLength? rest).map (words + 1 + ·) else some words

/-- The affinity of the type after `AS`, and the number of tokens up to its end. -/
def castType? : List Token → Option (Affinity × Nat)
  | [] => none
  | as :: rest =>
    if as.isKeyword "AS" then
      (typeLength? rest).map fun count =>
        (Affinity.ofTypeName (Token.extent (rest.take count)), count + 1)
    else none

/-! ## Reading -/

/-- What has been read from the front of fewer than `size` tokens. -/
structure Reading (size : Nat) where
  expression : Expression
  /-- The parameters up to here. -/
  names : Parameters
  rest : List Token
  rest_lt : rest.length < size

namespace Reading

/-- The same reading out of more tokens. -/
def widen {m n : Nat} (r : Reading m) (h : m ≤ n) : Reading n :=
  ⟨r.expression, r.names, r.rest, Nat.lt_of_lt_of_le r.rest_lt h⟩

/-- Reads on behind `count` further tokens and a closing parenthesis. -/
def closed? {size : Nat} (r : Reading size) (count : Nat) : Option (Reading size) :=
  match h : r.rest.drop count with
  | [] => none
  | t :: rest =>
    if t.isMark ")" then
      some ⟨r.expression, r.names, rest, by
        have := congrArg List.length h
        have := r.rest_lt
        simp only [List.length_drop, List.length_cons] at *
        omega⟩
    else none

/-- The expression with something done to it. -/
def map {size : Nat} (r : Reading size) (f : Expression → Expression) : Reading size :=
  { r with expression := f r.expression }

end Reading

/-- A number sign and a digit name a register, which text has no access to. -/
def isRegister (text : String) : Bool :=
  match text.toList with
  | '#' :: c :: _ => c.isDigit
  | _ => false

/-- The expression of one token. -/
def single? (names : Parameters) (t : Token) : Option (Expression × Parameters) :=
  match t.lexeme with
  | .parameter =>
    if isRegister t.text then none
    else (names.declare t.text).map fun (position, names) => (.parameter position, names)
  | .string s | .doubleQuoted s => some (.constant (.text (Text.utf8 s)), names)
  | .blob bytes => some (.constant (.blob bytes), names)
  | .number => (Numeral.ofText? t.text).map fun n => (.numeral n, names)
  | .word =>
    if t.isKeyword "NULL" then some (.constant .null, names)
    else if t.isKeyword "TRUE" then some (.truth true, names)
    else if t.isKeyword "FALSE" then some (.truth false, names)
    else none
  | .mark | .name _ => none

mutual

/-- An operand at the front of tokens. -/
def operand? (names : Parameters) (ts : List Token) : Option (Reading ts.length) :=
  match ts with
  | [] => none
  | t :: rest =>
    if t.isMark "(" then do
      let r ← operation? 0 names rest
      return (← r.closed? 0).widen (by simp)
    else if t.isMark "-" then do
      -- Parentheses leave no trace in `r`, so that a number in them takes the sign as well.
      let r ← operand? names rest
      let e ← r.expression.negate?
      return (r.map fun _ => e).widen (by simp)
    else if t.isMark "+" then do
      return ((← operand? names rest).map (.unary .plus)).widen (by simp)
    else if t.isMark "~" then do
      return ((← operand? names rest).map (.unary .complement)).widen (by simp)
    else if t.isKeyword "NOT" then do
      return ((← operation? (Suffix.notLevel + 1) names rest).map (.unary .not)).widen (by simp)
    else if t.isKeyword "CAST" then
      match rest with
      | [] => none
      | opening :: rest =>
        if opening.isMark "(" then do
          let r ← operation? 0 names rest
          let (affinity, count) ← castType? r.rest
          return ((← r.closed? count).map (.cast affinity)).widen (by simp; omega)
        else none
    else do
      let (e, names) ← single? names t
      return ⟨e, names, rest, by simp⟩
termination_by 2 * ts.length
decreasing_by all_goals simp only [List.length_cons]; omega

/-- An expression at the front of tokens, with operators from a level on. -/
def operation? (level : Nat) (names : Parameters) (ts : List Token) : Option (Reading ts.length) :=
  do
    let r ← operand? names ts
    return (← extended? level r.expression r.names r.rest).widen r.rest_lt
termination_by 2 * ts.length + 1
decreasing_by
  · omega
  · have := r.rest_lt
    omega

/-- An expression that begins with an operand already read. -/
def extended? (level : Nat) (left : Expression) (names : Parameters) (ts : List Token) :
    Option (Reading (ts.length + 1)) :=
  match ts with
  | [] => some ⟨left, names, [], by simp⟩
  | t :: rest =>
    match Suffix.ofToken? t rest with
    | none => some ⟨left, names, t :: rest, by simp⟩
    | some (op, count) =>
      if op.level < level then some ⟨left, names, t :: rest, by simp⟩
      else
        match op with
        | .unary op => do
          return (← extended? level (.unary op left) names (rest.drop count)).widen (by simp; omega)
        | .binary op => do
          -- Operators of one level associate to the left.
          let r ← operation? ((Suffix.binary op).level + 1) names (rest.drop count)
          let s ← extended? level (.between op left r.expression) r.names r.rest
          return s.widen (by have := r.rest_lt; simp at *; omega)
termination_by 2 * ts.length
decreasing_by
  · simp only [List.length_drop, List.length_cons]
    omega
  · simp only [List.length_drop, List.length_cons]
    omega
  · have := r.rest_lt
    simp only [List.length_drop, List.length_cons] at this ⊢
    omega

end

end BoundSql.Engine
