import BoundSql.Number.Digits

/-!
# Tokens of SQL

SQL text is cut into tokens from the left, each as long as possible. White space and comments
stand between tokens and are kept with the token before them, so that the text of any tokens in a
row can be read back. A null character ends the text, and a semicolon ends the statement.
-/

namespace BoundSql.Engine

/-- What a token is. -/
inductive Lexeme where
  /-- A keyword or a name. -/
  | word
  /-- A place for a value, such as `?`, `?12`, `:id`, `@id`, `$id` or `#id`. -/
  | parameter
  | number
  /-- Text in single quotes. -/
  | string (content : String)
  /-- Text in double quotes: a name, or else the text itself. -/
  | doubleQuoted (content : String)
  /-- A name in brackets or back quotes. -/
  | name (content : String)
  | blob (bytes : List UInt8)
  | mark
deriving DecidableEq, Repr

/-- A token with the text that it was read from. -/
structure Token where
  lexeme : Lexeme
  text : String
  /-- The white space and comments after the token. -/
  gap : String
deriving DecidableEq, Repr

namespace Token

/-! ## Characters -/

/-- White space. -/
def isSpace (c : Char) : Bool :=
  c == ' ' || (9 ≤ c.toNat && c.toNat ≤ 13)

/-- A character of a name: ASCII letters and digits, underscore, dollar sign, and everything
beyond ASCII. -/
def isNameChar (c : Char) : Bool :=
  c.isAlphanum || c == '_' || c == '$' || 128 ≤ c.toNat

/-! ## Gaps

Each of these counts characters after the first one, which the caller has read. -/

/-- Length of a comment up to its closing mark, or of all the text. -/
def blockComment : List Char → Nat
  | '*' :: '/' :: _ => 2
  | _ :: rest => blockComment rest + 1
  | [] => 0

/-- The number of characters that belong to the white space or the comment begun by `c`. A vertical
tab is white space only after other white space. -/
def gap? (c : Char) (cs : List Char) : Option Nat :=
  if isSpace c && c != '\x0b' then some (cs.takeWhile isSpace).length
  else if c == '\ufeff' then some 0
  else match c, cs with
    | '-', '-' :: rest => some ((rest.takeWhile (· != '\n')).length + 1)
    | '/', '*' :: d :: rest => some (blockComment (d :: rest) + 1)
    | _, _ => none

/-- Length of the white space and comments at the front of a text. -/
def gapLength (cs : List Char) : Nat :=
  match cs with
  | [] => 0
  | c :: rest =>
    match gap? c rest with
    | some n => n + 1 + gapLength (rest.drop n)
    | none => 0
termination_by cs.length
decreasing_by simp only [List.length_cons, List.length_drop]; omega

/-! ## Lexemes -/

/-- Length of a name. -/
def nameLength (cs : List Char) : Nat :=
  (cs.takeWhile isNameChar).length

/-- Length of decimal digits with underscores among them. -/
def digitsLength (cs : List Char) : Nat :=
  (cs.takeWhile fun c => c.isDigit || c == '_').length

/-- Length of an exponent, which begins with a digit after its mark and its sign. -/
def exponentLength : List Char → Nat
  | [] => 0
  | c :: rest =>
    let sign := match rest with
      | '+' :: _ | '-' :: _ => 1
      | _ => 0
    let digits := rest.drop sign
    if (c == 'e' || c == 'E') && digits.head?.any Char.isDigit then 1 + sign + digitsLength digits
    else 0

/-- Whether a character is a hexadecimal digit. -/
def isHexDigit (c : Char) : Bool :=
  (Number.hexDigit? c).isSome

/-- Length of a number: hexadecimal digits after `0x`, or decimal digits with a point and an
exponent, either of which may be missing. Underscores may stand after the first digit. -/
def numberLength (cs : List Char) : Nat :=
  let hex := match cs with
    | '0' :: x :: d :: rest =>
      if (x == 'x' || x == 'X') && isHexDigit d then
        (rest.takeWhile fun c => isHexDigit c || c == '_').length + 1
      else 0
    | _ => 0
  if hex > 0 then hex + 2
  else
    let whole := digitsLength cs
    let point := match cs.drop whole with
      | '.' :: rest => whole + 1 + digitsLength rest
      | _ => whole
    point + exponentLength (cs.drop point)

/-- Whether a number starts here: with a digit, or with a point before one. -/
def startsNumber (c : Char) (cs : List Char) : Bool :=
  c.isDigit || (c == '.' && cs.head?.any Char.isDigit)

/-- Length of what follows the marker of a parameter: characters of a name, double colons between
them, and at the end something in parentheses. At least one character of a name is needed. -/
def parameterLength (named : Bool) : List Char → Option Nat
  | [] => if named then some 0 else none
  | c :: rest =>
    if isNameChar c then (parameterLength true rest).map (· + 1)
    else if c == '(' && named then
      let inner := (rest.takeWhile fun d => !isSpace d && d != ')').length
      match rest.drop inner with
      | ')' :: _ => some (inner + 2)
      | _ => none
    else match c, rest with
      | ':', ':' :: rest => (parameterLength named rest).map (· + 2)
      | _, _ => if named then some 0 else none

/-- The content of quoted text and its length after the opening quote; a doubled quote is one. -/
def quotedContent (quote : Char) : List Char → Option (List Char × Nat)
  | [] => none
  | c :: rest =>
    if c != quote then (quotedContent quote rest).map fun (cs, n) => (c :: cs, n + 1)
    else match rest with
      | d :: rest =>
        if d == quote then (quotedContent quote rest).map fun (cs, n) => (c :: cs, n + 2)
        else some ([], 1)
      | [] => some ([], 1)

/-- Quoted text. -/
def quoted? (quote : Char) (lexeme : String → Lexeme) (cs : List Char) : Option (Lexeme × Nat) :=
  (quotedContent quote cs).map fun (content, n) => (lexeme (String.ofList content), n)

/-- The marks of two characters. -/
def wideMarks : List (List Char) :=
  ["||", "<<", ">>", "<=", ">=", "<>", "==", "!=", "->"].map String.toList

/-- A token whose first character is `c`, and the number of characters that belong to it besides. -/
def lexeme? (c : Char) (cs : List Char) : Option (Lexeme × Nat) :=
  if c == '?' then some (.parameter, (cs.takeWhile Char.isDigit).length)
  else if c == ':' || c == '@' || c == '$' || c == '#' then
    (parameterLength false cs).map fun n => (.parameter, n)
  else if c == '\x27' then quoted? '\x27' .string cs
  else if c == '"' then quoted? '"' .doubleQuoted cs
  else if c == '\x60' then quoted? '\x60' .name cs
  else if c == '[' then
    let n := (cs.takeWhile (· != ']')).length
    if n < cs.length then some (.name (String.ofList (cs.take n)), n + 1) else none
  else if startsNumber c cs then
    let n := numberLength (c :: cs) - 1
    if nameLength (cs.drop n) = 0 then some (.number, n) else none
  else if c == 'x' || c == 'X' then
    match cs with
    | '\x27' :: rest =>
      let n := (rest.takeWhile isHexDigit).length
      match Number.hexBytes? (rest.take n), rest.drop n with
      | some bytes, '\x27' :: _ => some (.blob bytes, n + 2)
      | _, _ => none
    | _ => some (.word, nameLength cs)
  else if isNameChar c then some (.word, nameLength cs)
  else if wideMarks.contains [c, cs.headD ' '] then some (.mark, 1)
  else if "()+,-*/<=>%&|~.".toList.contains c then some (.mark, 0)
  else none

/-- The tokens of text with no gap in front. -/
def tokensFrom (cs : List Char) : Option (List Token) :=
  match cs with
  | [] => some []
  | c :: rest =>
    if c == ';' then some []
    else match lexeme? c rest with
      | none => none
      | some (lexeme, n) =>
        let after := rest.drop n
        let gap := gapLength after
        let token : Token :=
          ⟨lexeme, String.ofList (c :: rest.take n), String.ofList (after.take gap)⟩
        (tokensFrom (after.drop gap)).map (token :: ·)
termination_by cs.length
decreasing_by simp only [List.length_cons, List.length_drop]; omega

/-- The tokens of a statement, if all of its text is made of tokens. -/
def ofText? (sql : String) : Option (List Token) :=
  let cs := sql.toList.takeWhile (· != '\x00')
  tokensFrom (cs.drop (gapLength cs))

/-- Whether the token is a keyword, in capital or small letters. -/
def isKeyword (keyword : String) (t : Token) : Bool :=
  t.lexeme == .word && t.text.map Char.toUpper == keyword

/-- Whether the token is a mark. -/
def isMark (text : String) (t : Token) : Bool :=
  t.lexeme == .mark && t.text == text

/-- The text of some tokens, with the comments after the last one. -/
def span (ts : List Token) : String :=
  let cs := ts.flatMap fun t => t.text.toList ++ t.gap.toList
  String.ofList (cs.reverse.dropWhile isSpace).reverse

/-- The text of some tokens up to the end of the last one. -/
def extent : List Token → String
  | [] => ""
  | [t] => t.text
  | t :: rest => t.text ++ t.gap ++ extent rest

end Token

end BoundSql.Engine
