import BoundSql.Declaration.Pattern

/-!
# Expressions

The rules for expressions. Operators have levels of precedence: what stands on the right of an
operator consists of operators of higher levels. Comparisons are not chained, and a range is no
operand of an operator after it.
-/

namespace BoundSql.Declaration.Form

open Rule

/-! ## Operators -/

/-- The level of assignments, which associate to the right. -/
def assignmentLevel : Nat := 0

/-- The level of ranges. -/
def rangeLevel : Nat := 1

/-- The level of comparisons. -/
def comparisonLevel : Nat := 4

/-- The level of casts. -/
def castLevel : Nat := 11

/-- The operators between two operands with their levels; of two that start alike the longer one
comes first. -/
def operatorLevels : List (String × Nat) :=
  [("+=", 0), ("-=", 0), ("*=", 0), ("/=", 0), ("%=", 0), ("^=", 0), ("&=", 0), ("|=", 0),
    ("<<=", 0), (">>=", 0), ("&&", 3), ("||", 2), ("<<", 8), (">>", 8), ("==", 4), ("<=", 4),
    ("!=", 4), (">=", 4), ("+", 9), ("-", 9), ("*", 10), ("/", 10), ("%", 10), ("^", 6), ("&", 7),
    ("|", 5), ("<", 4), (">", 4)]

/-- The start of a range. -/
def rangeStart : Form := marks ".."

/-- The equals sign of an assignment. -/
def assignmentSign : Form := marksBut "=" ["=>"]

/-- The right operand of an operator of some level. A range without a start ends it. -/
def rightOperand (level : Nat) (structs : Bool) : Form :=
  let next := if level = assignmentLevel then level else level + 1
  phrase (.operation next structs)

/-- What operators of at least some level join. -/
def operationRule (level : Nat) (structs : Bool) : Form :=
  let operand := phrase (.operand structs)
  choice rangeStart operand (both operand (phrase (.operators .plain level structs)))

/-- What follows a range without an end. -/
def rangeEnd (structs : Bool) : Form :=
  let ends := [finish, point, word "as"] ++
    [",", ";", "?", "=", "+", "/", "%", "^", ">", "<=", "!=", "-=", "*=", "&=", "|=", "<<="].map
      marks
  oneOf (if structs then ends else anyBraces :: ends)

/-- The points of a range and its end. -/
def rangeTail (structs : Bool) : Form :=
  let last := rightOperand rangeLevel structs
  choice (marks "..=") (both (marks "..=") last)
    (both (marksBut ".." ["..."]) (ifAhead (lacking (rangeEnd structs)) last))

/-- What may not follow a cast. -/
def castEnd : Form :=
  lacking (oneOf [point, marks "?", anyBrackets, anyParentheses])

/-- Operators of at least some level after an operand, with their own operands. -/
def operatorsRule (left : Operand) (level : Nat) (structs : Bool) : Form :=
  let atLeast (l : Nat) (r : Form) : Form := if level ≤ l then r else nothing
  let more (left : Operand) : Form := phrase (.operators left level structs)
  let step : String × Nat → Form × Form := fun (text, l) =>
    (marks text, atLeast l
      (if l = comparisonLevel then
        if left = .comparison then failure
        else all [marks text, rightOperand l structs, more .comparison]
      else all [marks text, rightOperand l structs, more .plain]))
  select (operatorLevels.map step ++ [
    (assignmentSign, atLeast assignmentLevel
      (all [marks "=", rightOperand assignmentLevel structs, more .plain])),
    (rangeStart, atLeast rangeLevel (rangeTail structs)),
    (word "as", atLeast castLevel (all [word "as", typeBut, castEnd, more .plain]))])
    nothing

/-- What an operand goes on with if operators may follow it. -/
def operatorStart : Form :=
  oneOf ([assignmentSign, rangeStart, word "as"] ++ operatorLevels.map fun (text, _) => marks text)

/-! ## Operands -/

/-- Expressions in parentheses: an expression, a tuple, or the arguments of a call. -/
def expressions : Form :=
  parentheses (list expression)

/-- What an expression with something behind it may go on with. -/
def trailerStart : Form :=
  oneOf [anyParentheses, point, anyBrackets, marks "?"]

/-- A field, a method or an operator after an operand. A method with generic arguments has to be
called. -/
def trailer : Form :=
  let method := both name
    (ifAhead (marks "::") (both (phrase .angles) (ahead anyParentheses)))
  let after := select [(word "await", word "await"), (name, method)] (token .position)
  let member := select [(token .positions, token .positions),
    (token .positionAndPoint, both (token .positionAndPoint) after)] after
  select [(anyParentheses, expressions), (point, both (marks ".") member),
    (anyBrackets, brackets expression)] (marks "?")

/-- Fields, methods and operators after an operand. -/
def trailers : Form :=
  many trailerStart trailer

/-- An operand with the operators in front of it. Attributes do not belong to a range. -/
def operandRule (atom : Form) (structs : Bool) : Form :=
  let next := phrase (.operand structs)
  let raw := both (word "raw") (either (word "const") (word "mut"))
  let plain := select [
    (marks "&", all [marks "&", choice raw raw (optional (word "mut")), next]),
    (oneOf [marks "*", marks "!", marks "-"], both (token .any) next)]
    (both atom trailers)
  choice (marks "#") (all [attributes, lacking rangeStart, plain])
    (choice rangeStart (rangeTail structs) plain)

/-- What an expression may start with. -/
def expressionStart : Form :=
  oneOf [both (lacking (word "as")) (token .anyWord), anyGroup, literal, lifetime, marks "#",
    marks "::", rangeStart, bang, marksBut "-" ["-=", "->"], marksBut "*" ["*="],
    marksBut "|" ["|="], marksBut "&" ["&="], marksBut "<" ["<=", "<<="]]

/-! ## Blocks -/

/-- A label with its colon. -/
def label : Form :=
  both lifetime (marks ":")

/-- The start of the parameters that a closure holds for. -/
def binderStart : Form :=
  both (word "for") parametersStart

/-- The start of an expression that ends with a block. -/
def blockLikeStart : Form :=
  oneOf [oneOfWords ["if", "while", "loop", "match", "unsafe"],
    both (lacking binderStart) (word "for"), both (oneOfWords ["try", "const"]) anyBraces,
    anyBraces]

/-- A loop or a block with a label. -/
def labelledBlock : Form :=
  both label (both (ahead (either (oneOfWords ["while", "for", "loop"]) anyBraces))
    (phrase .blockLike))

/-- An expression that stands as a statement or as the body of an arm. One that ends with a block
needs nothing behind it, and no operator belongs to it unless a point or a question mark comes
first; any other one needs `last`. -/
def entry (last : Form) : Form :=
  let goesOn := either point (marks "?")
  let longer := all [trailers, phrase (.operators .plain 0 true), last]
  let blockLike := choice lifetime labelledBlock (phrase .blockLike)
  both attributes (choice (either blockLikeStart lifetime)
    (both blockLike (choice goesOn longer (optional last)))
    (both expression last))

/-- A choice with conditions; another one may follow an `else`. -/
def conditional : Form :=
  let one := all [word "if", condition, block]
  all [one, many (both (word "else") (word "if")) (both (word "else") one),
    ifAhead (word "else") (both (word "else") block)]

/-- An arm of a `match`. -/
def arm : Form :=
  all [attributes, pattern, ifAhead (word "if") (both (word "if") expression), marks "=>",
    entry (separator ",")]

/-- An expression that ends with a block, without a label. -/
def blockLikeRule : Form :=
  select [
    (word "if", conditional),
    (word "while", all [word "while", condition, attributedBlock]),
    (word "for", all [word "for", pattern, word "in", condition, attributedBlock]),
    (word "loop", both (word "loop") attributedBlock),
    (word "match", all [word "match", condition, braces (both innerAttributes (toFinish arm))]),
    (word "try", both (word "try") block),
    (oneOfWords ["unsafe", "const"], both (token .anyWord) attributedBlock)]
    attributedBlock

/-! ## Atoms -/

/-- A closure. -/
def closure (structs : Bool) : Form :=
  let input := all [attributes, singlePattern, ifAhead (marks ":") (both (marks ":") type)]
  let inputs := many (lacking (marks "|")) (both input (either (marks ",") (ahead (marks "|"))))
  all [ifAhead (word "for") binder, optional (word "const"), optional (word "static"),
    optional (word "async"), optional (word "move"), marks "|", inputs, marks "|",
    choice (marks "->") (all [marks "->", type, block]) (phrase (.operation 0 structs))]

/-- The start of a closure. -/
def closureStart : Form :=
  oneOf [marks "|", oneOfWords ["move", "static"], binderStart,
    both (word "const") (lacking anyBraces),
    both (word "async") (either (word "move") (marks "|"))]

/-- A field of a struct with its value. -/
def fieldValue : Form :=
  both attributes (choice (both name (lacking (marks ":"))) name
    (all [either name (token .position), marks ":", expression]))

/-- The fields of a struct, after which the value of the others may follow. -/
def fieldValues : Form :=
  both (many (lacking (either finish rangeStart)) (both fieldValue (separator ",")))
    (ifAhead rangeStart (both (marks "..") (ifAhead (lacking finish) expression)))

/-- The start of a path in an expression. -/
def pathExpressionStart : Form :=
  oneOf [name, marks "::", marks "<", oneOfWords ["self", "Self", "super", "crate"],
    both (word "try") (either (marks "!") (marks "::"))]

/-- A path with what belongs to it in an expression. -/
def pathExpression (structs : Bool) : Form :=
  choice invocationStart invocation (both (anyPath turbofishStart)
    (if structs then ifAhead anyBraces (braces fieldValues) else nothing))

/-- The end of a loop or of a block, with its value. -/
def breakRule (structs : Bool) : Form :=
  let start := if structs then expressionStart else both (lacking anyBraces) expressionStart
  all [word "break", lacking label, optional lifetime, ifAhead start expression]

/-- A condition with a pattern. -/
def letCondition (structs : Bool) : Form :=
  all [word "let", pattern, marks "=", phrase (.operation comparisonLevel structs)]

/-- The elements of an array, or one element and how often it stands there. -/
def elements : Form :=
  let more := many (marks ",") (both (marks ",") (ifAhead (lacking finish) expression))
  ifAhead (lacking finish)
    (both expression (choice (marks ";") (both (marks ";") expression) more))

/-- An operand without operators. -/
def atom (structs : Bool) : Form :=
  let asyncStart := both (word "async") (either anyBraces (both (word "move") anyBraces))
  let builtinStart := both (word "builtin") (marks "#")
  select [
    (literal, literal),
    (asyncStart, all [word "async", optional (word "move"), block]),
    (both (word "try") anyBraces, phrase .blockLike),
    (closureStart, closure structs),
    (builtinStart, all [builtinStart, name, anyParentheses]),
    (pathExpressionStart, pathExpression structs),
    (anyParentheses, expressions),
    (word "break", breakRule structs),
    (word "continue", both (word "continue") (optional lifetime)),
    (oneOfWords ["return", "yield"], both (token .anyWord) (ifAhead expressionStart expression)),
    (word "become", both (word "become") expression),
    (anyBrackets, brackets elements),
    (word "let", letCondition structs),
    (blockLikeStart, phrase .blockLike),
    (word "_", word "_")]
    labelledBlock

end BoundSql.Declaration.Form
