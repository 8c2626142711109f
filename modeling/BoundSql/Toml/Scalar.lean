import BoundSql.Calendar
import BoundSql.Number.Literal
import BoundSql.Toml

/-!
# TOML scalars without quotes

Truth values, integers, floating-point numbers, dates and times. Between two digits of a number
there may be an underscore.
-/

namespace BoundSql.Toml

/-! ## Numbers -/

/-- Digits without the underscores, each of which has to stand between two of them. -/
def plainDigits? (isDigit : Char → Bool) (afterDigit : Bool) : List Char → Option (List Char)
  | [] => if afterDigit then some [] else none
  | c :: rest =>
    if c == '_' then if afterDigit then plainDigits? isDigit false rest else none
    else if isDigit c then (plainDigits? isDigit true rest).map (c :: ·)
    else none

/-- A whole number, which is out of range if it has more than 128 bits. -/
def ofInt (n : Int) : Toml :=
  if -0x80000000000000000000000000000000 ≤ n ∧ n < 0x100000000000000000000000000000000 then
    .integer n
  else .outOfRange

/-- An integer in digits of another base than ten. -/
def inBase? (base : Nat) (cs : List Char) : Option Toml := do
  let isDigit (c : Char) : Bool := (Number.hexDigit? c).any (· < base)
  let digits ← plainDigits? isDigit false cs
  let values ← digits.mapM Number.hexDigit?
  return ofInt (values.foldl (fun n d => base * n + d) 0 : Nat)

/-- An exponent without underscores between its digits. -/
def plainExponent? : List Char → Option (List Char)
  | '+' :: cs => (plainDigits? Char.isDigit false cs).map ('+' :: ·)
  | '-' :: cs => (plainDigits? Char.isDigit false cs).map ('-' :: ·)
  | cs => plainDigits? Char.isDigit false cs

/-- A decimal number without its sign. -/
def decimal? (negative : Bool) (cs : List Char) : Option Toml := do
  let raw := Number.Literal.ofChars cs
  let whole ← plainDigits? Char.isDigit false raw.whole
  let fraction ← match raw.fraction with
    | none => some none
    | some cs => (plainDigits? Char.isDigit false cs).map some
  let exponent ← match raw.exponent with
    | none => some none
    | some cs => (plainExponent? cs).map some
  let literal : Number.Literal := ⟨whole, fraction, exponent⟩
  if literal.hasLeadingZero then none
  else if literal.isInteger then
    let n := Number.ofDigits whole
    some (ofInt (if negative then -(n : Int) else n))
  else some (((literal.float? negative).map .float).getD .outOfRange)

/-- A number after its sign. -/
def unsigned? (negative : Bool) (cs : List Char) : Option Toml :=
  if cs = "inf".toList then some (.float (if negative then -(1.0 / 0.0) else 1.0 / 0.0))
  else if cs = "nan".toList then some (.float (0.0 / 0.0))
  else decimal? negative cs

/-- A number. -/
def number? : List Char → Option Toml
  | '0' :: 'x' :: cs => inBase? 16 cs
  | '0' :: 'o' :: cs => inBase? 8 cs
  | '0' :: 'b' :: cs => inBase? 2 cs
  | '+' :: cs => unsigned? false cs
  | '-' :: cs => unsigned? true cs
  | cs => unsigned? false cs

/-! ## Dates and times -/

/-- A number of exactly `count` digits, with the text after it. -/
def fixed? (count : Nat) (cs : List Char) : Option (Nat × List Char) :=
  if (cs.take count).length = count then
    (Number.ofDigits? (cs.take count)).map (·, cs.drop count)
  else none

/-- A number of exactly two digits below a bound, with the text after it. -/
def below? (bound : Nat) (cs : List Char) : Option (List Char) :=
  (fixed? 2 cs).bind fun (n, rest) => if n < bound then some rest else none

/-- One given character. -/
def mark? (c : Char) : List Char → Option (List Char)
  | d :: rest => if c == d then some rest else none
  | [] => none

/-- The text after a date. -/
def afterDate? (cs : List Char) : Option (List Char) := do
  let (year, cs) ← fixed? 4 cs
  let cs ← mark? '-' cs
  let (month, cs) ← fixed? 2 cs
  let cs ← mark? '-' cs
  let (day, cs) ← fixed? 2 cs
  if isDate year month day then some cs else none

/-- The text after seconds with a fraction, which may both be left out. -/
def afterSeconds? : List Char → Option (List Char)
  | ':' :: cs => do
    match ← below? 61 cs with
    | '.' :: cs =>
      let places := cs.takeWhile Char.isDigit
      if places.isEmpty then none else some (cs.drop places.length)
    | cs => some cs
  | cs => some cs

/-- The text after a time of day. -/
def afterTime? (cs : List Char) : Option (List Char) := do
  let cs ← below? 24 cs
  let cs ← mark? ':' cs
  afterSeconds? (← below? 60 cs)

/-- Whether a text is an offset from UTC, or nothing. -/
def isOffset : List Char → Bool
  | [] => true
  | ['Z'] | ['z'] => true
  | c :: cs =>
    (c == '+' || c == '-') &&
      (((below? 24 cs).bind (mark? ':')).bind (below? 60)) == some []

/-- A date, a time, or both with or without an offset. -/
def dateTime? (cs : List Char) : Option Toml :=
  let valid : Bool :=
    match afterDate? cs with
    | some [] => true
    | some (c :: rest) =>
      (c == 'T' || c == 't' || c == ' ') && (afterTime? rest).any isOffset
    | none => afterTime? cs == some []
  if valid then some .dateTime else none

/-! ## Scalars -/

/-- A character that may stand in a scalar. -/
def isScalarChar (c : Char) : Bool :=
  c.isAlphanum || c == '_' || c == '+' || c == '-' || c == '.' || c == ':'

/-- The characters of the scalar at the front of a text. A date goes on after one space if a digit
follows it. -/
def scalarChars (cs : List Char) : List Char :=
  let first := cs.takeWhile isScalarChar
  match afterDate? first, cs.drop first.length with
  | some [], ' ' :: d :: rest =>
    if d.isDigit then first ++ ' ' :: (d :: rest).takeWhile isScalarChar else first
  | _, _ => first

/-- The scalar at the front of a text, with the text after it. -/
def scalar? (cs : List Char) : Option (Toml × List Char) :=
  let chars := scalarChars cs
  let value :=
    if chars = "true".toList then some (.boolean true)
    else if chars = "false".toList then some (.boolean false)
    else (number? chars).or (dateTime? chars)
  value.map (·, cs.drop chars.length)

end BoundSql.Toml
