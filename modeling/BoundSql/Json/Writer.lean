import BoundSql.Json
import BoundSql.Number.Layout

/-!
# Writing JSON

The compact form: no white space, members in order, and only those characters escaped that a
JSON string cannot hold.
-/

namespace BoundSql.Json

/-- Four lower-case hexadecimal digits. -/
def hex4 (n : Nat) : List Char :=
  let digits := Nat.toDigits 16 n
  List.replicate (4 - digits.length) '0' ++ digits

/-- One character of a string: quote, backslash and control characters are escaped. -/
def escapeChar (c : Char) : List Char :=
  match c with
  | '"' => ['\\', '"']
  | '\\' => ['\\', '\\']
  | '\x08' => ['\\', 'b']
  | '\t' => ['\\', 't']
  | '\n' => ['\\', 'n']
  | '\x0c' => ['\\', 'f']
  | '\r' => ['\\', 'r']
  | _ => if c.toNat < 0x20 then '\\' :: 'u' :: hex4 c.toNat else [c]

/-- A string in quotes. -/
def quote (s : String) : String :=
  "\"" ++ String.ofList (s.toList.flatMap escapeChar) ++ "\""

mutual

/-- The compact text of a document. -/
def write : Json → String
  | .null => "null"
  | .bool b => if b then "true" else "false"
  | .integer n => toString n
  | .real x => Number.FloatLayout.json.write x
  | .string s => quote s
  | .array items => "[" ++ writeItems items ++ "]"
  | .object members => "\x7b" ++ writeMembers members ++ "\x7d"

/-- Items after one another, with commas between them. -/
def writeItems : List Json → String
  | [] => ""
  | [j] => write j
  | j :: j' :: rest => write j ++ "," ++ writeItems (j' :: rest)

/-- Members after one another, with commas between them. -/
def writeMembers : List (String × Json) → String
  | [] => ""
  | [(name, j)] => quote name ++ ":" ++ write j
  | (name, j) :: m :: rest => quote name ++ ":" ++ write j ++ "," ++ writeMembers (m :: rest)

end

end BoundSql.Json
