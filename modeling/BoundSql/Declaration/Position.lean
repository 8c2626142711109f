import BoundSql.Number.Digits

/-!
# Positions of fields

A field without a name is named by its position: a whole number of any base below `2 ^ 32`, with
underscores anywhere after its first digit and without a suffix. It is written in decimal digits. A
position with a point behind it, or with a point and the position of a field of that field, is one
literal, because it looks like a decimal number.
-/

namespace BoundSql.Declaration

/-- The base of a whole number, and its digits after the mark of the base. -/
def digitsWithBase : List Char → Nat × List Char
  | '0' :: 'x' :: digits => (16, digits)
  | '0' :: 'o' :: digits => (8, digits)
  | '0' :: 'b' :: digits => (2, digits)
  | digits => (10, digits)

/-- The least number that is too large for a position. -/
def positionLimit : Nat := 0x100000000

/-- A position in decimal digits. -/
def position? (cs : List Char) : Option String := do
  if !cs.head?.any Char.isDigit then none
  let (base, digits) := digitsWithBase cs
  let values ← (digits.filter (· != '_')).mapM Number.hexDigit?
  if values.isEmpty || values.any (base ≤ ·) then none
  let value := values.foldl (fun n d => base * n + d) 0
  if value < positionLimit then some (toString value) else none

/-- One position, or two with a point in between. -/
def positions? (cs : List Char) : Option String :=
  match cs.dropWhile (· != '.') with
  | [] => position? cs
  | _ :: inner => do
    let outer ← position? (cs.takeWhile (· != '.'))
    let inner ← position? inner
    some (outer ++ "." ++ inner)

/-- A position with a point behind it. -/
def positionAndPoint? (cs : List Char) : Option String :=
  match cs.dropWhile (· != '.') with
  | ['.'] => (position? (cs.takeWhile (· != '.'))).map (· ++ ".")
  | _ => none

end BoundSql.Declaration
