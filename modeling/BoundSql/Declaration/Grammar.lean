import BoundSql.Declaration.Position
import BoundSql.Declaration.Token

/-!
# Grammars of token trees

A rule says what tokens may stand somewhere, and how they are written. It takes tokens from the
front of a text. What is to be read is chosen by the tokens ahead, and a choice is kept: if what was
chosen does not stand there, then the text is malformed. Phrases are rules with names, by which
rules refer to each other. Main statement: `Rule.take?` follows the structure of a rule, given what
its phrases take, and `phraseTake?` follows the nesting of phrases, so reading always ends.
-/

namespace BoundSql.Declaration

/-! ## Single tokens -/

/-- The kinds of single tokens. -/
inductive TokenClass where
  /-- A given word. -/
  | word (expected : String)
  /-- A word, which may be a keyword. -/
  | anyWord
  /-- A word that is no keyword. -/
  | name
  | lifetime
  /-- A literal, also `true` and `false`. -/
  | literal
  /-- A string literal. -/
  | text
  /-- A literal that starts with a digit. -/
  | number
  /-- The position of a field. -/
  | position
  /-- The position of a field, or that of a field of a field with a point in between. -/
  | positions
  /-- A position of a field with the point of the next field. -/
  | positionAndPoint
  | group (d : Delimiter)
  | any
deriving DecidableEq

/-- The token in the form in which it is written, if it is of a kind. -/
def TokenClass.accept? : TokenClass → Token → Option Token
  | .word expected, .ident w => if w = expected then some (.ident w) else none
  | .anyWord, .ident w => some (.ident w)
  | .name, .ident w => if isName w then some (.ident w) else none
  | .lifetime, .lifetime n => some (.lifetime n)
  | .literal, .string source value suffixed => some (.string source value suffixed)
  | .literal, .literal source => some (.literal source)
  | .literal, .ident w => if w = "true" || w = "false" then some (.ident w) else none
  | .text, .string source value suffixed => some (.string source value suffixed)
  | .number, .literal source =>
    if source.toList.head?.any Char.isDigit then some (.literal source) else none
  | .position, .literal source => (position? source.toList).map .literal
  | .positions, .literal source => (positions? source.toList).map .literal
  | .positionAndPoint, .literal source => (positionAndPoint? source.toList).map .literal
  | .group d, .group d' tokens => if d = d' then some (.group d tokens) else none
  | .any, t => some t
  | _, _ => none

/-! ## Rules -/

/-- A rule, in which phrases of some grammar may stand. -/
inductive Rule (Phrase : Type) where
  | nothing
  /-- What stands nowhere. -/
  | failure
  /-- The end of the text or of the group. -/
  | finish
  | token (kind : TokenClass)
  /-- Punctuation without space between its characters. -/
  | sign (characters : List Char)
  | group (d : Delimiter) (content : Rule Phrase)
  | both (first second : Rule Phrase)
  /-- One rule where what follows starts like `start`, and another one elsewhere. -/
  | choice (start yes no : Rule Phrase)
  /-- A rule again and again, as long as what follows starts like `start`. -/
  | many (start item : Rule Phrase)
  /-- What may not follow. -/
  | lacking (r : Rule Phrase)
  /-- Arguments with commas between them, up to a closing angle bracket; one more comma may follow
  the last. -/
  | arguments (item : Rule Phrase)
  /-- A rule and one that depends on what the first one writes. Only the second one is written. -/
  | given (r : Rule Phrase) (next : List Token → Rule Phrase)
  /-- Tokens that are written without being read. -/
  | written (tokens : List Token)
  /-- What a rule takes, written as it was found. -/
  | verbatim (r : Rule Phrase)
  | phrase (p : Phrase)

/-- What is written for the tokens at the front of some, and the tokens after them. -/
abbrev Reading : Type := List Token → Option (List Token × List Token)

/-- Takes punctuation: every character but the last has to be joined to the next. -/
def takeSign? : List Char → Reading
  | [], ts => some ([], ts)
  | c :: cs, .mark d joined :: rest =>
    if c = d && (joined || cs.isEmpty) then
      (takeSign? cs rest).map fun (found, rest) => (.mark d joined :: found, rest)
    else none
  | _ :: _, _ => none

/-- Takes items as long as one starts, at most `limit` of them. -/
def takeMany? (starts : List Token → Bool) (item : Reading) (limit : Nat) : Reading :=
  fun ts =>
    if !starts ts then some ([], ts)
    else match limit, item ts with
      | limit + 1, some (found, rest) =>
        (takeMany? starts item limit rest).map fun (more, rest) => (found ++ more, rest)
      | _, _ => none

/-- Takes arguments with commas between them, at most `limit` of them. -/
def takeArguments? (item : Reading) (limit : Nat) (ts : List Token) :
    Option (List Argument × List Token) :=
  if ts.head?.any (·.isMark '>') then some ([], ts)
  else match limit, item ts with
    | limit + 1, some (found, .mark ',' _ :: rest) =>
      (takeArguments? item limit rest).map fun (more, rest) => (⟨found, true⟩ :: more, rest)
    | _ + 1, some (found, rest) => some ([⟨found, false⟩], rest)
    | _, _ => none

namespace Rule

variable {Phrase : Type}

/-- What a rule takes from the front of tokens, given what phrases take. -/
def take? (call : Phrase → Reading) : Rule Phrase → Reading
  | .nothing, ts => some ([], ts)
  | .failure, _ => none
  | .finish, ts => if ts.isEmpty then some ([], []) else none
  | .token kind, ts =>
    match ts with
    | t :: rest => (kind.accept? t).map fun t => ([t], rest)
    | [] => none
  | .sign characters, ts => takeSign? characters ts
  | .group d content, ts =>
    match ts with
    | .group d' inner :: rest =>
      if d = d' then
        match take? call content inner with
        | some (found, []) => some ([.group d found], rest)
        | _ => none
      else none
    | _ => none
  | .both first second, ts =>
    match take? call first ts with
    | none => none
    | some (found, rest) =>
      (take? call second rest).map fun (more, rest) => (found ++ more, rest)
  | .choice start yes no, ts =>
    if (take? call start ts).isSome then take? call yes ts else take? call no ts
  | .many start item, ts =>
    takeMany? (fun ts => (take? call start ts).isSome) (take? call item) (ts.length + 1) ts
  | .lacking r, ts => if (take? call r ts).isSome then none else some ([], ts)
  | .arguments item, ts =>
    (takeArguments? (take? call item) (ts.length + 1) ts).map fun (found, rest) =>
      (argumentTokens found, rest)
  | .given r next, ts =>
    match take? call r ts with
    | none => none
    | some (found, rest) => take? call (next found) rest
  | .written tokens, ts => some (tokens, ts)
  | .verbatim r, ts =>
    (take? call r ts).map fun (_, rest) => (ts.take (ts.length - rest.length), rest)
  | .phrase p, ts => call p ts

end Rule

/-- What a phrase takes, if it has at most `depth` phrases inside each other. -/
def phraseTake? {Phrase : Type} (grammar : Phrase → Rule Phrase) (depth : Nat) (p : Phrase) :
    Reading :=
  match depth with
  | 0 => fun _ => none
  | depth + 1 => (grammar p).take? (phraseTake? grammar depth)

/-- A bound on phrases inside each other: no grammar here has more than 64 of them at one token. -/
def depthFor (ts : List Token) : Nat :=
  64 * (sizeOfAll ts + 1)

namespace Rule

variable {Phrase : Type}

/-- What a rule takes from the front of tokens, and the tokens after that. -/
def leading? (grammar : Phrase → Rule Phrase) (r : Rule Phrase) : Reading := fun ts =>
  r.take? (phraseTake? grammar (depthFor ts)) ts

/-- Tokens as a rule writes them, if it takes them all. -/
def whole? (grammar : Phrase → Rule Phrase) (r : Rule Phrase) (ts : List Token) :
    Option (List Token) :=
  match leading? grammar r ts with
  | some (found, []) => some found
  | _ => none

/-! ## Rules made of rules -/

/-- Rules one after another. -/
def all : List (Rule Phrase) → Rule Phrase
  | [] => nothing
  | [r] => r
  | r :: rest => both r (all rest)

/-- Two alternatives that their first tokens tell apart. -/
def either (first second : Rule Phrase) : Rule Phrase :=
  choice first first second

/-- Alternatives that their first tokens tell apart. -/
def oneOf : List (Rule Phrase) → Rule Phrase
  | [] => failure
  | [r] => r
  | r :: rest => either r (oneOf rest)

/-- The rule beside the first start that fits what follows, and another one where none fits. -/
def select : List (Rule Phrase × Rule Phrase) → Rule Phrase → Rule Phrase
  | [], other => other
  | (start, r) :: rest, other => choice start r (select rest other)

/-- What follows, which stays. -/
def ahead (r : Rule Phrase) : Rule Phrase :=
  lacking (lacking r)

/-- What may be left out. -/
def optional (r : Rule Phrase) : Rule Phrase :=
  either r nothing

/-- What has to stand here if it starts like `start`, and is left out otherwise. -/
def ifAhead (start r : Rule Phrase) : Rule Phrase :=
  choice start r nothing

/-- What is read but not written. -/
def silent (r : Rule Phrase) : Rule Phrase :=
  given r fun _ => nothing

/-- A given word. -/
def word (name : String) : Rule Phrase :=
  token (.word name)

/-- One of some words. -/
def oneOfWords (names : List String) : Rule Phrase :=
  oneOf (names.map word)

/-- A word that is no keyword. -/
def name : Rule Phrase :=
  token .name

/-- A name or an underscore. -/
def nameOrBlank : Rule Phrase :=
  either name (word "_")

/-- A lifetime. -/
def lifetime : Rule Phrase :=
  token .lifetime

/-- A literal. -/
def literal : Rule Phrase :=
  token .literal

/-- Punctuation, which may be the start of longer punctuation. -/
def marks (text : String) : Rule Phrase :=
  sign text.toList

/-- Punctuation that does not go on like any of some others. -/
def marksBut (text : String) (longer : List String) : Rule Phrase :=
  all (longer.map (fun s => lacking (marks s)) ++ [marks text])

/-- Parentheses around what a rule takes. -/
def parentheses (content : Rule Phrase) : Rule Phrase :=
  group .parenthesis content

/-- Square brackets around what a rule takes. -/
def brackets (content : Rule Phrase) : Rule Phrase :=
  group .bracket content

/-- Braces around what a rule takes. -/
def braces (content : Rule Phrase) : Rule Phrase :=
  group .brace content

/-- Parentheses around anything. -/
def anyParentheses : Rule Phrase :=
  token (.group .parenthesis)

/-- Square brackets around anything. -/
def anyBrackets : Rule Phrase :=
  token (.group .bracket)

/-- Braces around anything. -/
def anyBraces : Rule Phrase :=
  token (.group .brace)

/-- A group with any content. -/
def anyGroup : Rule Phrase :=
  oneOf [anyParentheses, anyBrackets, anyBraces]

/-- Parentheses whose content starts in some way. -/
def parenthesesFrom (start : Rule Phrase) : Rule Phrase :=
  parentheses (both start (many (token .any) (token .any)))

/-- What has to stand between two items up to the end of the text or of the group. -/
def separator (text : String) : Rule Phrase :=
  either (marks text) (ahead finish)

/-- Items up to the end of the text or of the group. -/
def toFinish (item : Rule Phrase) : Rule Phrase :=
  many (lacking finish) item

/-- Items with commas between them, up to the end of the text or of the group; one more comma may
follow the last. -/
def list (item : Rule Phrase) : Rule Phrase :=
  toFinish (both item (separator ","))

end Rule

end BoundSql.Declaration
