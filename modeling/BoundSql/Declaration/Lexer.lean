import BoundSql.Declaration.Token
import BoundSql.Number.Digits
import BoundSql.Text.Blank
import BoundSql.Text.Identifier
import BoundSql.Text.Quoted

/-!
# Reading tokens

Source text is cut into lexemes, and lexemes between matching brackets are put together as a group.
Comments count for nothing, except that one with documentation stands for an attribute.
-/

namespace BoundSql.Declaration

/-- A token that is no group, or one end of a group. -/
inductive Lexeme where
  | token (t : Token)
  | opening (d : Delimiter)
  | closing (d : Delimiter)

/-- The kinds of string literals. -/
inductive Quoting where
  | text
  | bytes
  /-- Text without null characters. -/
  | nullEnded
deriving DecidableEq

/-! ## Characters of literals

Each of these tells how many characters of a text belong to what it reads. -/

/-- Whether a string literal may hold a character as it is. -/
def Quoting.admits : Quoting → Char → Bool
  | .text, _ => true
  | .bytes, c => c.toNat < 128
  | .nullEnded, c => c != '\x00'

/-- The character that two hexadecimal digits write. -/
def Quoting.hexEscape? (kind : Quoting) (a b : Char) : Option Char := do
  let n ← Number.ofHexDigits? [a, b]
  match kind with
  | .text => if n < 128 then some (Char.ofNat n) else none
  | .bytes => some (Char.ofNat n)
  | .nullEnded => if n = 0 then none else some (Char.ofNat n)

/-- The code point in braces: up to six hexadecimal digits, between and after which may stand
underscores. -/
def codePoint? (value digits : Nat) : List Char → Option (Char × Nat)
  | [] => none
  | c :: rest =>
    if c = '\x7d' then
      if digits > 0 && value.isValidChar then some (Char.ofNat value, 1) else none
    else if c = '_' then
      if digits > 0 then (codePoint? value digits rest).map fun (d, n) => (d, n + 1) else none
    else match Number.hexDigit? c with
      | none => none
      | some d =>
        if digits < 6 then
          (codePoint? (16 * value + d) (digits + 1) rest).map fun (d, n) => (d, n + 1)
        else none

/-- The character after a backslash. -/
def Quoting.escape? (kind : Quoting) : List Char → Option (Char × Nat)
  | 'x' :: a :: b :: _ => (kind.hexEscape? a b).map (·, 3)
  | 'u' :: '\x7b' :: rest =>
    match kind, codePoint? 0 0 rest with
    | .text, some (c, n) => some (c, n + 2)
    | .nullEnded, some (c, n) => if c = '\x00' then none else some (c, n + 2)
    | _, _ => none
  | '0' :: _ => if kind = .nullEnded then none else some ('\x00', 1)
  | 'n' :: _ => some ('\n', 1)
  | 'r' :: _ => some ('\r', 1)
  | 't' :: _ => some ('\t', 1)
  | '\\' :: _ => some ('\\', 1)
  | '"' :: _ => some ('"', 1)
  | '\x27' :: _ => some ('\x27', 1)
  | _ => none

/-- Length of the white space after a backslash at the end of a line: spaces, tabs and line breaks,
up to a character that is none of these. A carriage return needs a line feed after it. -/
def lineBreakLength? (afterReturn : Bool) : List Char → Option Nat
  | [] => none
  | c :: rest =>
    if afterReturn then
      if c = '\n' then (lineBreakLength? false rest).map (· + 1) else none
    else if c = '\r' then (lineBreakLength? true rest).map (· + 1)
    else if c = ' ' || c = '\t' || c = '\n' then (lineBreakLength? false rest).map (· + 1)
    else some 0

/-- What the characters from `c` on stand for. -/
def Quoting.piece? (kind : Quoting) (c : Char) (rest : List Char) : Option (List Char × Nat) :=
  if c = '\\' then
    if rest.head? = some '\n' || rest.head? = some '\r' then
      (lineBreakLength? false rest).map ([], ·)
    else (kind.escape? rest).map fun (c, n) => ([c], n)
  else if c = '\r' then if rest.head? = some '\n' then some (['\n'], 1) else none
  else if kind.admits c then some ([c], 0)
  else none

/-! ## Strings -/

/-- The text of a string literal up to its closing quote, and what follows that. -/
def Quoting.body? (kind : Quoting) (cs : List Char) : Option (List Char × List Char) :=
  match cs with
  | [] => none
  | c :: rest =>
    if c = '"' then some ([], rest)
    else match kind.piece? c rest with
      | none => none
      | some (value, n) => (kind.body? (rest.drop n)).map fun (cs, left) => (value ++ cs, left)
termination_by cs.length
decreasing_by simp only [List.length_cons, List.length_drop]; omega

/-- The text of a raw string up to a quote with as many number signs as before the opening one, and
what follows those. -/
def Quoting.rawBody? (kind : Quoting) (hashes : Nat) : List Char → Option (List Char × List Char)
  | [] => none
  | c :: rest =>
    if c = '"' && rest.take hashes == List.replicate hashes '#' then some ([], rest.drop hashes)
    else if kind.admits c && (c != '\r' || rest.head? == some '\n') then
      (kind.rawBody? hashes rest).map fun (cs, left) => (c :: cs, left)
    else none

/-- The most number signs before a raw string. -/
def maxHashes : Nat := 255

/-- A string literal after its mark `b` or `c`, if it has one, or a raw string after the mark `r`
too. -/
def Quoting.string? (kind : Quoting) : List Char → Option (List Char × List Char)
  | '"' :: rest => kind.body? rest
  | 'r' :: rest =>
    let hashes := (rest.takeWhile (· == '#')).length
    match rest.drop hashes with
    | '"' :: after => if hashes ≤ maxHashes then kind.rawBody? hashes after else none
    | _ => none
  | _ => none

/-! ## Characters in quotes -/

/-- What follows a character in single quotes, after the opening quote. -/
def afterQuotedChar? (kind : Quoting) : List Char → Option (List Char)
  | [] => none
  | c :: rest =>
    let length? :=
      if c = '\\' then (kind.escape? rest).map (·.2) else if kind.admits c then some 0 else none
    match length?.map fun n => rest.drop n with
    | some ('\x27' :: after) => some after
    | _ => none

/-! ## Numbers -/

/-- A decimal digit or an underscore. -/
def isDigitPart (c : Char) : Bool :=
  c.isDigit || c == '_'

/-- Length of an exponent after its mark: a sign and digits, of which there has to be one. -/
def exponentLength? (cs : List Char) : Option Nat :=
  let before := (cs.takeWhile (· == '_')).length
  let sign := match cs.drop before with
    | c :: _ => if c = '+' || c = '-' then 1 else 0
    | [] => 0
  let digits := (cs.drop (before + sign)).takeWhile isDigitPart
  if digits.any Char.isDigit then some (before + sign + digits.length) else none

/-- Length of a number with a point or an exponent. A point with another point or a word after it
does not belong to the number. -/
def floatLength? (cs : List Char) : Option Nat :=
  let isExponent (c : Char) : Bool := c == 'e' || c == 'E'
  let whole := (cs.takeWhile isDigitPart).length
  match cs.drop whole with
  | '.' :: after =>
    if after.head?.any fun c => c == '.' || Text.isIdentifierStart c then none
    else
      let point := whole + 1 + (after.takeWhile isDigitPart).length
      match cs.drop point with
      | c :: rest =>
        if isExponent c then some (((exponentLength? rest).map (point + 1 + ·)).getD point)
        else some point
      | [] => some point
  | c :: rest => if isExponent c then (exponentLength? rest).map (whole + 1 + ·) else none
  | [] => none

/-- Length of digits of a base, with underscores between them. -/
def digitsLength? (base : Nat) (cs : List Char) : Option Nat :=
  let digits := cs.takeWhile fun c =>
    c == '_' || c.isDigit || (Number.hexDigit? c).any (· < base)
  let isWrong (c : Char) : Bool := c.isDigit && !(Number.hexDigit? c).any (· < base)
  if digits.any isWrong || !digits.any (· != '_') then none else some digits.length

/-- Length of a whole number. -/
def integerLength? : List Char → Option Nat
  | '0' :: 'x' :: rest => (digitsLength? 16 rest).map (· + 2)
  | '0' :: 'o' :: rest => (digitsLength? 8 rest).map (· + 2)
  | '0' :: 'b' :: rest => (digitsLength? 2 rest).map (· + 2)
  | cs => digitsLength? 10 cs

/-! ## Lexemes -/

/-- The part of a text before what is left of it. -/
def consumed (cs rest : List Char) : String :=
  String.ofList (cs.take (cs.length - rest.length))

/-- The text after an identifier. -/
def afterIdentifier? : List Char → Option (List Char)
  | [] => none
  | c :: rest =>
    if Text.isIdentifierStart c then some (rest.dropWhile Text.isIdentifierPart) else none

/-- The text after the suffix of a literal, which may be missing. -/
def afterSuffix (cs : List Char) : List Char :=
  (afterIdentifier? cs).getD cs

/-- The words that have no raw form. -/
def neverRaw : List String := ["_", "super", "self", "Self", "crate"]

/-- The text after an identifier that may have the mark `r#` in front. -/
def afterWord? : List Char → Option (List Char)
  | 'r' :: '#' :: rest => do
    let after ← afterIdentifier? rest
    if neverRaw.contains (consumed rest after) then none else some after
  | cs => afterIdentifier? cs

/-- A number with its suffix. -/
def number? (cs : List Char) : Option (Token × List Char) := do
  if !cs.head?.any Char.isDigit then none
  let n ← (floatLength? cs).or (integerLength? cs)
  let after := afterSuffix (cs.drop n)
  if after.head?.any Text.isIdentifierPart then none
  else some (.literal (consumed cs after), after)

/-- A literal with its suffix. -/
def literal? (cs : List Char) : Option (Token × List Char) :=
  let other (after? : Option (List Char)) : Option (Token × List Char) :=
    after?.map fun after => (.literal (consumed cs (afterSuffix after)), afterSuffix after)
  match cs with
  | '"' :: _ | 'r' :: _ =>
    (Quoting.text.string? cs).map fun (value, after) =>
      (.string (consumed cs (afterSuffix after)) (String.ofList value)
        (afterIdentifier? after).isSome, afterSuffix after)
  | 'b' :: '\x27' :: rest => other (afterQuotedChar? .bytes rest)
  | 'b' :: rest => other ((Quoting.bytes.string? rest).map (·.2))
  | 'c' :: rest => other ((Quoting.nullEnded.string? rest).map (·.2))
  | '\x27' :: rest => other (afterQuotedChar? .text rest)
  | _ => number? cs

/-- A lifetime after its opening quote. -/
def lifetime? (cs : List Char) : Option (Token × List Char) := do
  let after ← afterWord? cs
  let isRaw := cs.take 2 == ['r', '#']
  if after.head? == some '\x27' || (after.head? == some '#' && !isRaw) then none
  else some (.lifetime ("'" ++ consumed cs after), after)

/-- Whether a text starts like a literal, so that it is no identifier. -/
def startsLikeLiteral (cs : List Char) : Bool :=
  ["r\"", "r#\"", "r##", "b\"", "b'", "br\"", "br#", "c\"", "cr\"", "cr#"].any fun start =>
    start.toList.isPrefixOf cs

/-- Whether a text starts with punctuation. The first character of a comment is none. -/
def startsWithMark : List Char → Bool
  | '/' :: '/' :: _ | '/' :: '*' :: _ => false
  | c :: _ => "~!@#$%^&*-=+|;:,<.>/?'".toList.contains c
  | [] => false

/-- The end of a group that a character opens. -/
def opener? : Char → Option Delimiter
  | '(' => some .parenthesis
  | '[' => some .bracket
  | '\x7b' => some .brace
  | _ => none

/-- The end of a group that a character closes. -/
def closer? : Char → Option Delimiter
  | ')' => some .parenthesis
  | ']' => some .bracket
  | '\x7d' => some .brace
  | _ => none

/-- The token at the front of a text. -/
def token? (cs : List Char) : Option (Token × List Char) :=
  match literal? cs, cs with
  | some found, _ => some found
  | none, [] => none
  | none, c :: rest =>
    if c = '\x27' then lifetime? rest
    else if startsWithMark cs then some (.mark c (startsWithMark rest), rest)
    else if startsLikeLiteral cs then none
    else (afterWord? cs).map fun after => (.ident (consumed cs after), after)

/-! ## Comments -/

/-- The text of a comment up to its closing mark, and what follows that; `depth` counts the comments
that are open inside it. -/
def commentBody? (depth : Nat) : List Char → Option (List Char × List Char)
  | [] => none
  | '*' :: '/' :: rest =>
    match depth with
    | 0 => some ([], rest)
    | depth + 1 => (commentBody? depth rest).map fun (cs, left) => ('*' :: '/' :: cs, left)
  | '/' :: '*' :: rest =>
    (commentBody? (depth + 1) rest).map fun (cs, left) => ('/' :: '*' :: cs, left)
  | c :: rest => (commentBody? depth rest).map fun (cs, left) => (c :: cs, left)

/-- Whether every carriage return has a line feed after it. -/
def hasWholeBreaks : List Char → Bool
  | [] => true
  | c :: rest => (c != '\r' || rest.head? == some '\n') && hasWholeBreaks rest

/-- The attribute that a comment with documentation stands for; `inner` says that it is one of the
text around it. -/
def documentation? (inner : Bool) (body : List Char) : Option (List Lexeme) :=
  let text := String.ofList body
  let marks : List Token := if inner then [.mark '#' false, .mark '!' false] else [.mark '#' false]
  let content : List Token := [.ident "doc", .mark '=' false, .string (Text.quoted text) text false]
  if hasWholeBreaks body then
    some (marks.map .token ++ [.opening .bracket] ++ content.map .token ++ [.closing .bracket])
  else none

/-- What a comment stands for, given the character that made it a comment, the text after that, and
how much of this belongs to the comment. It holds documentation if it goes on with an exclamation
mark, or with one more but not two more of that character. -/
def comment? (second : Char) (after body : List Char) : Option (List Lexeme) :=
  match body with
  | '!' :: doc => documentation? true doc
  | c :: doc =>
    if c = second && (after.drop 1).head? != some second then documentation? false doc
    else some []
  | [] => some []

/-- The lexemes at the front of a text, none for white space and most comments. -/
def lexemes? (cs : List Char) : Option (List Lexeme × List Char) :=
  match cs with
  | [] => none
  | '/' :: '/' :: rest =>
    let line := rest.takeWhile (· != '\n')
    let left := rest.dropWhile (· != '\n')
    let body := if left.isEmpty then line else
      if line.getLast? = some '\r' then line.dropLast else line
    (comment? '/' rest body).map (·, left)
  | '/' :: '*' :: rest => do
    let (body, left) ← commentBody? 0 rest
    return (← comment? '*' rest body, left)
  | c :: rest =>
    if Text.isWhiteSpace c || c = '\u200e' || c = '\u200f' then some ([], rest)
    else match opener? c, closer? c with
      | some d, _ => some ([.opening d], rest)
      | none, some d => some ([.closing d], rest)
      | none, none => (token? cs).map fun (t, left) => ([.token t], left)

/-- All lexemes of a text. Each step takes at least one character. -/
def allLexemes? (cs : List Char) : Option (List Lexeme) :=
  if cs.isEmpty then some []
  else match lexemes? cs with
    | none => none
    | some (found, rest) =>
      if rest.length < cs.length then (allLexemes? rest).map (found ++ ·) else none
termination_by cs.length

/-! ## Groups -/

/-- The tokens of the innermost open group, the latest first, inside the groups around it. -/
structure Nesting where
  tokens : List Token
  outer : List (Delimiter × List Token)

/-- One more lexeme; a closing end has to match. -/
def Nesting.step (n : Nesting) : Lexeme → Option Nesting
  | .token t => some { n with tokens := t :: n.tokens }
  | .opening d => some ⟨[], (d, n.tokens) :: n.outer⟩
  | .closing d =>
    match n.outer with
    | [] => none
    | (d', tokens) :: outer =>
      if d = d' then some ⟨.group d n.tokens.reverse :: tokens, outer⟩ else none

/-- The token trees of a part of a text. -/
def tokens? (source : String) : Option (List Token) := do
  let lexemes ← allLexemes? source.toList
  let n ← lexemes.foldlM Nesting.step ⟨[], []⟩
  if n.outer.isEmpty then some n.tokens.reverse else none

/-- The token trees of a text, which may start with a byte order mark. -/
def tokensOfText? (source : String) : Option (List Token) :=
  match source.toList with
  | '\ufeff' :: rest => tokens? (String.ofList rest)
  | _ => tokens? source

end BoundSql.Declaration
