/-!
# Tokens of declarations

The source text of declarations consists of tokens; those between matching brackets form a group,
which is one token of the text around it.
-/

namespace BoundSql.Declaration

/-- A kind of brackets. -/
inductive Delimiter where
  | parenthesis
  | bracket
  | brace
deriving DecidableEq, Repr

/-- A token tree. Identifiers are kept as written, with the mark `r#` of a raw one. -/
inductive Token where
  | ident (name : String)
  | lifetime (name : String)
  /-- A string literal, the text that it stands for, and whether a suffix follows the quotes. -/
  | string (source value : String) (suffixed : Bool)
  /-- Any other literal. -/
  | literal (source : String)
  /-- A punctuation character, and whether another one follows at once. -/
  | mark (c : Char) (joined : Bool)
  | group (delimiter : Delimiter) (tokens : List Token)

/-! ## Text -/

/-- The brackets of a group. -/
def Delimiter.ends : Delimiter → String × String
  | .parenthesis => ("(", ")")
  | .bracket => ("[", "]")
  | .brace => ("\x7b", "\x7d")

mutual

/-- A token as source text without spaces. -/
def Token.text : Token → String
  | .ident name => name
  | .lifetime name => name
  | .string source _ _ => source
  | .literal source => source
  | .mark c _ => c.toString
  | .group d tokens => d.ends.1 ++ textOf tokens ++ d.ends.2

/-- Tokens as source text without spaces. -/
def textOf : List Token → String
  | [] => ""
  | t :: rest => t.text ++ textOf rest

end

mutual

/-- The number of tokens in a token tree. -/
def Token.size : Token → Nat
  | .group _ tokens => sizeOfAll tokens + 1
  | _ => 1

/-- The number of tokens in token trees. -/
def sizeOfAll : List Token → Nat
  | [] => 0
  | t :: rest => t.size + sizeOfAll rest

end

/-! ## Words -/

/-- Words of the language that are no identifiers. -/
def keywords : List String :=
  ["_", "abstract", "as", "async", "await", "become", "box", "break", "const", "continue",
    "crate", "do", "dyn", "else", "enum", "extern", "false", "final", "fn", "for", "if", "impl",
    "in", "let", "loop", "macro", "match", "mod", "move", "mut", "override", "priv", "pub", "ref",
    "return", "Self", "self", "static", "struct", "super", "trait", "true", "try", "type",
    "typeof", "unsafe", "unsized", "use", "virtual", "where", "while", "yield"]

/-- Whether a word is an identifier. -/
def isName (word : String) : Bool :=
  !keywords.contains word

/-- Whether a token is a lifetime. -/
def Token.isLifetime : Token → Bool
  | .lifetime _ => true
  | _ => false

/-- Whether a token is a given punctuation character. -/
def Token.isMark (c : Char) : Token → Bool
  | .mark d _ => c == d
  | _ => false

/-! ## Arguments -/

/-- An argument of a list in angle brackets, and whether a comma follows it. -/
structure Argument where
  tokens : List Token
  comma : Bool

/-- Whether tokens after their attributes are a lifetime, alone or with bounds. -/
def isLifetimeArgument : List Token → Bool
  | .mark '#' _ :: .group .bracket _ :: rest => isLifetimeArgument rest
  | [t] => t.isLifetime
  | t :: next :: _ => t.isLifetime && next.isMark ':'
  | [] => false

/-- Whether an argument is a lifetime. -/
def Argument.isLifetime (a : Argument) : Bool :=
  isLifetimeArgument a.tokens

/-- Arguments with the commas that follow them. -/
def withCommas (arguments : List Argument) : List Token :=
  arguments.flatMap fun a => if a.comma then a.tokens ++ [.mark ',' false] else a.tokens

/-- Arguments as they are written: lifetimes come first, and the last lifetime gets a comma if
others follow it. -/
def argumentTokens (arguments : List Argument) : List Token :=
  let lifetimes := arguments.filter (·.isLifetime)
  let others := arguments.filter (!·.isLifetime)
  let between := lifetimes.getLast?.any (!·.comma) && !others.isEmpty
  withCommas lifetimes ++ (if between then [.mark ',' false] else []) ++ withCommas others

end BoundSql.Declaration
