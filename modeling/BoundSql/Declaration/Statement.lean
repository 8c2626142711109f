import BoundSql.Declaration.Definition

/-!
# Statements

The rules for statements and blocks. An expression as a statement needs a semicolon behind it,
unless it ends with a block or the block around it ends.
-/

namespace BoundSql.Declaration.Form

open Rule

/-- Whether tokens end with braces. -/
def endsWithBraces (tokens : List Token) : Bool :=
  match tokens.getLast? with
  | some (.group .brace _) => true
  | _ => false

/-- A declaration of variables. What follows an `else` is done where the pattern does not match; the
value may not end with braces then. -/
def letStatement : Form :=
  let otherwise := ifAhead (word "else") (both (word "else") block)
  let value := given expression fun found =>
    both (written found) (if endsWithBraces found then nothing else otherwise)
  all [word "let", singlePattern, ifAhead (marks ":") typed,
    ifAhead (marks "=") (both (marks "=") value), marks ";"]

/-- The start of a definition inside a block, as opposed to that of an expression. -/
def definitionStart : Form :=
  let beforeFunction := oneOfWords ["unsafe", "extern", "fn"]
  oneOf [
    oneOfWords ["pub", "extern", "use", "fn", "mod", "type", "struct", "enum", "trait", "impl",
      "macro"],
    both (word "crate") (lacking (marks "::")),
    both (word "static") (either (word "mut") name),
    both (word "const") (lacking (oneOf [anyBraces, oneOfWords ["static", "move"], marks "|",
      both (word "async") (lacking beforeFunction)])),
    both (word "unsafe") (lacking anyBraces),
    both (word "async") beforeFunction,
    both (word "union") name,
    both (word "auto") (word "trait"),
    both (word "default") (oneOfWords ["unsafe", "impl"]),
    all [plainPath, marks "!", either name (word "try")]]

/-- An invocation with braces that is a statement of its own. -/
def bracedInvocation : Form :=
  all [plainPath, marks "!", anyBraces, lacking (either point (marks "?"))]

/-- An invocation by the word `try`, with braces and without anything behind them. -/
def bracedTry : Form :=
  all [invocationStart, anyBraces, lacking (either trailerStart operatorStart)]

/-- A statement. -/
def statement : Form :=
  choice (marks ";") (marks ";") (both attributes (select [
    (bracedInvocation, both bracedInvocation (optional (marks ";"))),
    (word "let", letStatement),
    (definitionStart, phrase .definition),
    (bracedTry, both bracedTry (optional (marks ";")))]
    (entry (separator ";"))))

/-- Braces around statements. -/
def blockRule (inner : Bool) : Form :=
  braces (both (if inner then innerAttributes else nothing) (toFinish statement))

end BoundSql.Declaration.Form
