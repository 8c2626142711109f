import BoundSql.Declaration.Grammar

/-!
# Phrases of declarations

The phrases by whose names the rules for types, patterns, expressions and definitions refer to each
other, and the rules for paths and attributes, which stand in all of them.
-/

namespace BoundSql.Declaration

/-- What stands in front of an operator, as far as it matters. -/
inductive Operand where
  | plain
  /-- A comparison without brackets around it. -/
  | comparison
deriving DecidableEq, Repr

/-- The phrases of the language of declarations. -/
inductive Phrase where
  /-- A type; `sums` says whether it may be a sum of bounds without brackets around it. -/
  | type (sums : Bool)
  /-- Generic arguments in angle brackets. -/
  | angles
  /-- A generic parameter. -/
  | parameter
  /-- A pattern; `choice` says whether it may consist of alternatives. -/
  | pattern (choice : Bool)
  /-- What operators of at least some level join; `structs` says whether a brace after a path
  belongs to the path. -/
  | operation (level : Nat) (structs : Bool)
  /-- What operators join, with the operators in front of it. -/
  | operand (structs : Bool)
  /-- The operators of at least some level after an operand, with their own operands. -/
  | operators (left : Operand) (level : Nat) (structs : Bool)
  /-- An expression that ends with a block, without a label. -/
  | blockLike
  /-- Braces around statements; `inner` says whether attributes of the block may come first. -/
  | block (inner : Bool)
  /-- An attribute without its number sign and brackets. -/
  | attribution
  /-- Named fields in braces. -/
  | fields
  /-- A definition without its attributes. -/
  | definition
  /-- The paths that a `use` brings in; `rooted` says whether a path inside braces may start with
  two colons. -/
  | imports (rooted : Bool)

/-- A rule in which these phrases may stand. -/
abbrev Form : Type := Rule Phrase

namespace Form

open Rule

/-! ## Phrases in rules -/

/-- A type. -/
def type : Form := phrase (.type true)

/-- A type that is no sum of bounds without brackets around it. -/
def typeBut : Form := phrase (.type false)

/-- A pattern, which may consist of alternatives. -/
def pattern : Form := phrase (.pattern true)

/-- A pattern without alternatives. -/
def singlePattern : Form := phrase (.pattern false)

/-- An expression. -/
def expression : Form := phrase (.operation 0 true)

/-- An expression before a block. -/
def condition : Form := phrase (.operation 0 false)

/-- A block. -/
def block : Form := phrase (.block false)

/-- A block that may start with attributes of its own. -/
def attributedBlock : Form := phrase (.block true)

/-! ## Punctuation -/

/-- A colon that is not the first of two. -/
def colon : Form := marksBut ":" ["::"]

/-- A point that is not the first of two. -/
def point : Form := marksBut "." [".."]

/-- An exclamation mark after the path of an invocation. -/
def bang : Form := marksBut "!" ["!="]

/-- A minus sign and a number. -/
def negativeNumber : Form := both (marks "-") (token .number)

/-- A literal, which may be a negative number. -/
def signedLiteral : Form := either literal negativeNumber

/-! ## Attributes -/

/-- Attributes. -/
def attributes : Form :=
  many (marks "#") (both (marks "#") (brackets (phrase .attribution)))

/-- Attributes of the block or module around them. -/
def innerAttributes : Form :=
  many (both (marks "#") (marks "!"))
    (all [marks "#", marks "!", brackets (phrase .attribution)])

/-- A word of a plain path. -/
def pathWord : Form :=
  either name (oneOfWords ["super", "self", "Self", "crate"])

/-- A path without arguments. -/
def plainPath : Form :=
  all [optional (marks "::"), pathWord, many (marks "::") (both (marks "::") pathWord)]

/-- The path of an attribute. -/
def attributePath : Form :=
  either (word "unsafe") plainPath

/-- A value in an attribute: an expression without attributes of its own. -/
def attributeValue : Form :=
  both (lacking (both (marks "#") anyBrackets)) expression

/-- A path with a group, with a value, or alone. -/
def attribution : Form :=
  both attributePath
    (select [(anyGroup, anyGroup), (marks "=", both (marks "=") attributeValue)] nothing)

/-! ## Paths -/

/-- The start of generic arguments of a type. -/
def anglesStart : Form :=
  either (marksBut "<" ["<=", "<<="]) (both (marks "::") (marks "<"))

/-- The start of generic arguments in an expression. -/
def turbofishStart : Form :=
  both (marks "::") (marks "<")

/-- The words of a path that have no generic arguments. -/
def bareSegment : Form :=
  oneOfWords ["super", "self", "crate", "try"]

/-- A segment of a path, given how generic arguments start. -/
def segment (start : Form) : Form :=
  choice bareSegment bareSegment
    (both (either name (word "Self")) (ifAhead start (phrase .angles)))

/-- The start of one more segment of a path. -/
def segmentStart : Form :=
  both (marks "::") (lacking anyParentheses)

/-- More segments of a path. -/
def segments (start : Form) : Form :=
  many segmentStart (both (marks "::") (segment start))

/-- A path with generic arguments. -/
def path (start : Form) : Form :=
  all [optional (marks "::"), segment start, segments start]

/-- A path that starts with a type in angle brackets, which may be seen as some other path. -/
def qualifiedPath (start : Form) : Form :=
  all [marks "<", type, ifAhead (word "as") (both (word "as") (path anglesStart)), marks ">",
    marks "::", segment start, many (marks "::") (both (marks "::") (segment start))]

/-- A path of either kind. -/
def anyPath (start : Form) : Form :=
  choice (marks "<") (qualifiedPath start) (path start)

/-! ## Invocations -/

/-- The path of an invocation with its exclamation mark. -/
def invocationStart : Form :=
  let pathWord := either pathWord (word "try")
  all [optional (marks "::"), pathWord, many segmentStart (both (marks "::") pathWord), bang]

/-- A path with an exclamation mark and a group, whose content may be anything. -/
def invocation : Form :=
  both invocationStart anyGroup

end Form

end BoundSql.Declaration
