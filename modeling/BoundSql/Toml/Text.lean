import BoundSql.Number.Digits

/-!
# TOML strings

Strings stand in double quotes, where a backslash escapes, or in single quotes, where nothing
does; three quotes instead of one allow line breaks. The readers start after the opening quotes.
-/

namespace BoundSql.Toml

/-- A character that may stand in a string or a comment: no control character but the tab. -/
def isPrintable (c : Char) : Bool :=
  c == '\t' || (0x20 ≤ c.toNat && c.toNat != 0x7F)

/-- A space or a tab. -/
def isBlank (c : Char) : Bool :=
  c == ' ' || c == '\t'

/-- The character that a short escape stands for. -/
def shortEscape? : Char → Option Char
  | 'b' => some '\x08'
  | 't' => some '\t'
  | 'n' => some '\n'
  | 'f' => some '\x0c'
  | 'r' => some '\r'
  | 'e' => some '\x1b'
  | '"' => some '"'
  | '\\' => some '\\'
  | _ => none

/-- The character with a code in hexadecimal digits. -/
def codePoint? (digits : List Char) : Option Char := do
  let n ← Number.ofHexDigits? digits
  if n < 0xD800 || (0xDFFF < n && n < 0x110000) then some (Char.ofNat n) else none

/-- The count of hexadecimal digits after a mark. -/
def codeLength? : Char → Option Nat
  | 'x' => some 2
  | 'u' => some 4
  | 'U' => some 8
  | _ => none

/-- What an escape stands for, and the number of characters after the backslash. -/
def escape? : List Char → Option (Char × Nat)
  | [] => none
  | c :: rest =>
    match codeLength? c with
    | none => (shortEscape? c).map (·, 1)
    | some n =>
      if (rest.take n).length = n then (codePoint? (rest.take n)).map (·, n + 1) else none

/-- The rest of a string in double quotes; `skip` characters belong to the escape read last. -/
def basicText (skip : Nat) : List Char → Option (List Char × List Char)
  | [] => none
  | c :: rest =>
    match skip with
    | skip + 1 => basicText skip rest
    | 0 =>
      if c == '"' then some ([], rest)
      else if c == '\\' then do
        let (d, n) ← escape? rest
        let (text, after) ← basicText n rest
        return (d :: text, after)
      else if isPrintable c then (basicText 0 rest).map fun (text, after) => (c :: text, after)
      else none

/-- The rest of a string in single quotes. -/
def literalText : List Char → Option (List Char × List Char)
  | [] => none
  | c :: rest =>
    if c == '\x27' then some ([], rest)
    else if isPrintable c then (literalText rest).map fun (text, after) => (c :: text, after)
    else none

/-- The quotes that belong to the text in front of three closing ones, up to two of them. -/
def closing? (quote : Char) (cs : List Char) : Option (List Char × List Char) :=
  let run := (cs.takeWhile (· == quote)).length
  if run < 3 then none
  else
    let kept := min (run - 3) 2
    some (cs.take kept, cs.drop (kept + 3))

/-- A line break without the one of its two forms, if the text starts with one. -/
def afterBreak? : List Char → Option (List Char)
  | '\n' :: rest => some rest
  | '\r' :: '\n' :: rest => some rest
  | _ => none

/-- What a reader of a string of several lines does before it goes on. -/
inductive Skip where
  | nothing
  /-- Passes over that many characters. -/
  | count (n : Nat)
  /-- Passes over white space and line breaks. -/
  | blanks

/-- The rest of a string of several lines. A backslash at the end of a line leaves out the white
space up to the next character. -/
def multiLineText (quote : Char) (escapes : Bool) (skip : Skip) :
    List Char → Option (List Char × List Char)
  | [] => none
  | c :: rest =>
    let keep : Option (List Char × List Char) :=
      (multiLineText quote escapes .nothing rest).map fun (text, after) => (c :: text, after)
    let plain : Option (List Char × List Char) :=
      match closing? quote (c :: rest) with
      | some found => some found
      | none =>
        if escapes && c == '\\' then
          if (afterBreak? (rest.dropWhile isBlank)).isSome then
            multiLineText quote escapes .blanks rest
          else do
            let (d, n) ← escape? rest
            let (text, after) ← multiLineText quote escapes (.count n) rest
            return (d :: text, after)
        else if isPrintable c || (afterBreak? (c :: rest)).isSome then keep
        else none
    match skip with
    | .nothing | .count 0 => plain
    | .count (n + 1) => multiLineText quote escapes (.count n) rest
    | .blanks =>
      if isBlank c || (afterBreak? (c :: rest)).isSome then
        multiLineText quote escapes .blanks rest
      else plain

/-- A string of several lines after its opening quotes; a line break at once is left out. -/
def multiLine? (quote : Char) (escapes : Bool) (cs : List Char) :
    Option (List Char × List Char) :=
  multiLineText quote escapes .nothing ((afterBreak? cs).getD cs)

/-- A string in one of its four forms, with the text after it. -/
def string? (cs : List Char) : Option (String × List Char) :=
  let found :=
    match cs with
    | '"' :: '"' :: '"' :: rest => multiLine? '"' true rest
    | '"' :: rest => basicText 0 rest
    | '\x27' :: '\x27' :: '\x27' :: rest => multiLine? '\x27' false rest
    | '\x27' :: rest => literalText rest
    | _ => none
  found.map fun (text, after) => (String.ofList text, after)

end BoundSql.Toml
