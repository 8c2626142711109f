import BoundSql.Toml.Scalar
import BoundSql.Toml.Text

/-!
# Reading TOML

A reader takes characters from the front of the text. A document is read line by line: a header,
a repeated header, or a key with its value. Values in brackets and braces may go over several
lines, also around the equals sign in braces, and nest at most 80 deep.
-/

namespace BoundSql.Toml

/-- Takes something from the front of a text, or fails. -/
abbrev Reader := StateT (List Char) Option

namespace Reader

/-! ## Characters -/

/-- The next character, which stays. -/
def peek? : Reader (Option Char) := fun cs =>
  some (cs.head?, cs)

/-- One given character. -/
def char (c : Char) : Reader Unit := fun cs =>
  (mark? c cs).map ((), ·)

/-- A given character, if it comes next. -/
def optionalChar (c : Char) : Reader Bool := fun cs =>
  match mark? c cs with
  | some rest => some (true, rest)
  | none => some (false, cs)

/-- Spaces and tabs. -/
def blanks : Reader Unit := fun cs =>
  some ((), cs.dropWhile isBlank)

/-- The text after white space, line breaks and comments. -/
def afterGap? (inComment : Bool) : List Char → Option (List Char)
  | [] => some []
  | '\n' :: rest => afterGap? false rest
  | '\r' :: '\n' :: rest => afterGap? false rest
  | c :: rest =>
    if inComment then if isPrintable c then afterGap? true rest else none
    else if isBlank c then afterGap? false rest
    else if c == '#' then afterGap? true rest
    else some (c :: rest)

/-- White space, line breaks and comments. -/
def gap : Reader Unit := fun cs =>
  (afterGap? false cs).map ((), ·)

/-- The end of a line, which a comment may come before. -/
def endOfLine : Reader Unit := do
  blanks
  if ← optionalChar '#' then
    modify (·.dropWhile isPrintable)
  fun
    | [] => some ((), [])
    | cs => (afterBreak? cs).map ((), ·)

/-! ## Keys -/

/-- A character of a key without quotes. -/
def isKeyChar (c : Char) : Bool :=
  c.isAlphanum || c == '_' || c == '-'

/-- One word of a key, with or without quotes. -/
def keyWord : Reader String := fun cs =>
  match cs with
  | '"' :: rest => (basicText 0 rest).map fun (text, after) => (String.ofList text, after)
  | '\x27' :: rest => (literalText rest).map fun (text, after) => (String.ofList text, after)
  | cs =>
    let word := cs.takeWhile isKeyChar
    if word.isEmpty then none else some (String.ofList word, cs.drop word.length)

/-- Up to `count` words of a key with dots between them. -/
def keyWords : Nat → Reader (List String)
  | 0 => failure
  | count + 1 => do
    blanks
    let word ← keyWord
    blanks
    if ← optionalChar '.' then
      return word :: (← keyWords count)
    else return [word]

/-- The most words of a key. -/
def maxKeyWords : Nat := 80

/-- A key: the words before the last one, and the last one. -/
def key : Reader (List String × String) := do
  let words ← keyWords maxKeyWords
  return (words.dropLast, words.getLastD "")

/-! ## Values -/

/-- The most brackets and braces around a value. -/
def maxDepth : Nat := 80

/-- Up to `count` values after an opening bracket, up to the closing one. A comma may follow the
last value. -/
def arrayItems (value : Reader Toml) : Nat → Reader (List Toml)
  | 0 => failure
  | count + 1 => do
    gap
    if ← optionalChar ']' then return []
    else
      let item ← value
      gap
      if ← optionalChar ',' then
        return item :: (← arrayItems value count)
      else
        char ']'
        return [item]

/-- A key and its value, with what may stand around the sign between them. -/
def entry (space : Reader Unit) (value : Reader Toml) :
    Reader ((List String × String) × Toml) := do
  let found ← key
  space
  char '='
  space
  return (found, ← value)

/-- Up to `count` entries after an opening brace, up to the closing one, added to a table. A comma
may follow the last entry. -/
def tableEntries (value : Reader Toml) (t : Toml) : Nat → Reader Toml
  | 0 => failure
  | count + 1 => do
    gap
    if ← optionalChar '\x7d' then return t
    else
      let ((path, word), v) ← entry gap value
      let t ← (addEntry path word v t : Option Toml)
      gap
      if ← optionalChar ',' then tableEntries value t count
      else
        char '\x7d'
        return t

/-- A table with all its entries in braces. -/
def closed : Toml → Toml
  | .table _ entries => .table .inline entries
  | other => other

/-- A value with at most `depth` brackets and braces around its parts. -/
def value (depth : Nat) : Reader Toml := do
  match depth, ← peek? with
  | _, some '"' | _, some '\x27' => fun cs => (string? cs).map fun (s, rest) => (.string s, rest)
  | 0, some '[' | 0, some '\x7b' => failure
  | depth + 1, some '[' =>
    char '['
    return .array (← arrayItems (value depth) (← get).length)
  | depth + 1, some '\x7b' =>
    char '\x7b'
    return closed (← tableEntries (value depth) empty (← get).length)
  | _, _ => fun cs => scalar? cs

/-! ## Lines -/

/-- One line of a document. -/
def line : Reader Line := do
  let found ←
    if ← optionalChar '[' then
      let repeated ← optionalChar '['
      let (path, word) ← key
      char ']'
      if repeated then
        char ']'
        pure (Line.repeatedHeader path word)
      else pure (Line.header path word)
    else
      let ((path, word), v) ← entry blanks (value maxDepth)
      pure (Line.entry path word v)
  endOfLine
  return found

/-- Up to `count` lines. -/
def lines : Nat → Reader (List Line)
  | 0 => failure
  | count + 1 => do
    gap
    if (← peek?).isNone then return []
    else return (← line) :: (← lines count)

end Reader

/-- The document that a text writes. A byte order mark may come first. -/
def parse? (text : String) : Option Toml := do
  let cs :=
    match text.toList with
    | '\ufeff' :: rest => rest
    | cs => cs
  let (lines, _) ← Reader.lines (cs.length + 1) cs
  ofLines? lines

end BoundSql.Toml
