import BoundSql.Declaration.Type

/-!
# Patterns

The rules for patterns, which stand in `let`, in `for`, in the arms of `match`, in functions and in
closures.
-/

namespace BoundSql.Declaration.Form

open Rule

/-! ## Ranges -/

/-- One end of a range of patterns. -/
def rangeBound : Form :=
  select [(signedLiteral, signedLiteral), (word "const", both (word "const") attributedBlock)]
    (both (lacking (word "try")) (anyPath turbofishStart))

/-- What follows a range of patterns without an end. -/
def rangeBoundEnd : Form :=
  oneOf [finish, marks "|", marks "=", colon, marks ",", marks ";", word "if"]

/-- The end of a range of patterns. A range that includes its end has to have one. -/
def rangeRest : Form :=
  select [
    (marks "..=", both (marks "..=") rangeBound),
    (marks "...", all [silent (marks "..."),
      written [.mark '.' true, .mark '.' true, .mark '=' false], rangeBound])]
    (both (marks "..") (ifAhead (lacking rangeBoundEnd) rangeBound))

/-- A range of patterns without a start, which is the rest of a list if it has no end either. -/
def rangeTo : Form :=
  both (lacking (marks "...")) rangeRest

/-- A range of patterns that lacks one end, as an element of its own. -/
def openRange : Form :=
  let toEnd := both (either (marks "..=") (marks "..")) rangeBound
  let fromStart := both rangeBound (marks "..")
  both (choice (marks "..") toEnd fromStart) (either (marks ",") finish)

/-! ## Patterns -/

/-- A name that what matches is bound to. -/
def binding : Form :=
  all [optional (word "ref"), optional (word "mut"), either name (word "self"),
    ifAhead (marks "@") (both (marks "@") singlePattern)]

/-- A field in the pattern of a struct. -/
def fieldPattern : Form :=
  let bindingWord := oneOfWords ["box", "ref", "mut"]
  select [
    (bindingWord, all [optional (word "box"), optional (word "ref"), optional (word "mut"), name]),
    (both name (lacking (marks ":")), name)]
    (all [either name (token .position), marks ":", pattern])

/-- The fields in the pattern of a struct, of which the rest may be left out. -/
def fieldPatterns : Form :=
  toFinish (both attributes
    (choice (marks "..") (both (marks "..") finish) (both fieldPattern (separator ","))))

/-- A path with what may follow it in a pattern. -/
def pathPattern : Form :=
  choice invocationStart invocation
    (both (anyPath turbofishStart)
      (select [(anyBraces, braces fieldPatterns), (anyParentheses, parentheses (list pattern)),
        (marks "..", rangeRest)] nothing))

/-- Whether a word is the start of a path rather than a name to bind. -/
def pathPatternStart : Form :=
  let after := oneOf [marks "::", marks "!", marks "..", anyBraces, anyParentheses]
  oneOf [both name after, both (word "self") (marks "::"), marks "::", marks "<",
    oneOfWords ["Self", "super", "crate"]]

/-- A pattern without alternatives. -/
def simplePattern : Form :=
  select [
    (pathPatternStart, pathPattern),
    (word "_", word "_"),
    (word "box", both (word "box") singlePattern),
    (oneOf [marks "-", literal, word "const"], both rangeBound (ifAhead (marks "..") rangeRest)),
    (oneOf [name, oneOfWords ["ref", "mut", "self"]], binding),
    (marks "&", all [marks "&", optional (word "mut"), singlePattern]),
    (anyParentheses, parentheses (list pattern)),
    (anyBrackets, brackets (list (both (lacking openRange) pattern)))]
    (both (ahead (marks "..")) rangeTo)

/-- A pattern. -/
def patternRule (choice : Bool) : Form :=
  let bar := marksBut "|" ["||", "|="]
  if choice then all [optional (marks "|"), simplePattern, many bar (both bar simplePattern)]
  else simplePattern

end BoundSql.Declaration.Form
