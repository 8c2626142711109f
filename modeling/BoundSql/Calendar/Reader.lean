import BoundSql.Calendar
import BoundSql.Number.Digits
import BoundSql.Text.Blank

/-!
# Reading dates and times

Readers take characters from the front and hand on the rest. A date with a time may have any white
space before a number and between date and time. A timestamp has fixed places and ends with its
offset from UTC.
-/

namespace BoundSql

/-- Why text is no date or time. -/
inductive ReadFault where
  | outOfRange
  | invalid
  | tooShort
  | tooLong
deriving DecidableEq, Repr

/-- The wording of a fault. -/
def ReadFault.message : ReadFault → String
  | outOfRange => "input is out of range"
  | invalid => "input contains invalid characters"
  | tooShort => "premature end of input"
  | tooLong => "trailing input"

namespace Calendar

/-- The value, if it lies between two bounds. -/
def within {α : Type} [LE α] [DecidableLE α] (low high n : α) : Except ReadFault α :=
  if low ≤ n ∧ n ≤ high then .ok n else .error .outOfRange

/-- One given character. -/
def mark (expected : Char) : List Char → Except ReadFault (List Char)
  | [] => .error .tooShort
  | c :: rest => if c = expected then .ok rest else .error .invalid

/-- The digits at the front of a text. -/
def leadingDigits (cs : List Char) : List Char :=
  cs.takeWhile Char.isDigit

/-- A number of at least one digit, all the digits there are. -/
def allDigits : List Char → Except ReadFault (Nat × List Char)
  | [] => .error .tooShort
  | cs =>
    let digits := leadingDigits cs
    if digits.isEmpty then .error .invalid
    else .ok (Number.ofDigits digits, cs.drop digits.length)

/-- A number of at least one and at most `most` digits. -/
def someDigits (most : Nat) : List Char → Except ReadFault (Nat × List Char)
  | [] => .error .tooShort
  | cs =>
    let digits := (leadingDigits cs).take most
    if digits.isEmpty then .error .invalid
    else .ok (Number.ofDigits digits, cs.drop digits.length)

/-- A fraction of a second after its point, in nanoseconds; digits after the ninth are skipped. -/
def nanoseconds : List Char → Except ReadFault (Nat × List Char)
  | [] => .error .tooShort
  | cs =>
    let digits := leadingDigits cs
    let kept := digits.take 9
    if digits.isEmpty then .error .invalid
    else .ok (Number.ofDigits kept * Nat.pow 10 (9 - kept.length), cs.drop digits.length)

/-- The fraction of a second, if there is one. -/
def fraction : List Char → Except ReadFault (Nat × List Char)
  | '.' :: rest => nanoseconds rest
  | cs => .ok (0, cs)

/-! ## Dates and times with marks between numbers -/

/-- A year: four digits at most, or any number of digits after a sign. -/
def year (cs : List Char) : Except ReadFault (Int × List Char) := do
  let (n, rest) ← match Text.trimStart cs with
    | '-' :: cs => (allDigits cs).map fun (n, rest) => (-(n : Int), rest)
    | '+' :: cs => (allDigits cs).map fun (n, rest) => ((n : Int), rest)
    | cs => (someDigits 4 cs).map fun (n, rest) => ((n : Int), rest)
  return (← within (-0x80000000) 0x7fffffff n, rest)

/-- A number of one or two digits between two bounds, after white space. -/
def field (low high : Nat) (cs : List Char) : Except ReadFault (Nat × List Char) := do
  let (n, rest) ← someDigits 2 (Text.trimStart cs)
  return (← within low high n, rest)

/-- The parts of a date. -/
def dateFields (cs : List Char) : Except ReadFault ((Int × Nat × Nat) × List Char) := do
  let (y, cs) ← year cs
  let cs ← mark '-' cs
  let (m, cs) ← field 1 12 cs
  let cs ← mark '-' cs
  let (d, cs) ← field 1 31 cs
  return ((y, m, d), cs)

/-- The parts of a time; second 60 is a leap second. -/
def timeFields (cs : List Char) : Except ReadFault ((Nat × Nat × Nat × Nat) × List Char) := do
  let (h, cs) ← field 0 23 cs
  let cs ← mark ':' cs
  let (m, cs) ← field 0 59 cs
  let cs ← mark ':' cs
  let (s, cs) ← field 0 60 cs
  let (nano, cs) ← fraction cs
  return ((h, m, s, nano), cs)

/-- Nothing may follow. -/
def finished : List Char → Except ReadFault Unit
  | [] => .ok ()
  | _ => .error .tooLong

/-- A value that has to be there. -/
def inRange {α : Type} : Option α → Except ReadFault α
  | some a => .ok a
  | none => .error .outOfRange

/-- The time with the second of a leap second counted as second 59. -/
def timeOf? (h m s nano : Nat) : Option Time :=
  if s = 60 then Time.of? h m 59 (nanosPerSecond + nano) else Time.of? h m s nano

end Calendar

open Calendar in
/-- Reads `2016-05-04`. -/
def Date.parse (s : String) : Except ReadFault Date := do
  let ((y, m, d), rest) ← dateFields s.toList
  finished rest
  inRange (Date.of? y m d)

open Calendar in
/-- Reads `2016-05-04 10:30:00.250`. -/
def DateTime.parse (s : String) : Except ReadFault DateTime := do
  let ((y, m, d), rest) ← dateFields s.toList
  let ((h, mi, sec, nano), rest) ← timeFields (Text.trimStart rest)
  finished rest
  let date ← inRange (Date.of? y m d)
  let time ← inRange (timeOf? h mi sec nano)
  return ⟨date, time⟩

namespace Calendar

/-! ## Timestamps with fixed places -/

/-- Exactly `count` digits. -/
def fixedDigits : Nat → Nat → List Char → Except ReadFault (Nat × List Char)
  | 0, n, cs => .ok (n, cs)
  | _ + 1, _, [] => .error .invalid
  | count + 1, n, c :: rest =>
    if c.isDigit then fixedDigits count (10 * n + (c.toNat - 48)) rest else .error .invalid

/-- One given character, where a text of enough length has one. -/
def fixedMark (allowed : Char → Bool) : List Char → Except ReadFault (List Char)
  | [] => .error .invalid
  | c :: rest => if allowed c then .ok rest else .error .invalid

/-- Two digits of an offset. The text is measured in bytes, so a single character of more than
one byte is long enough. -/
def offsetDigits (cs : List Char) : Except ReadFault ((Nat × Nat) × List Char) :=
  match cs with
  | [] => .error .tooShort
  | [c] => if c.utf8Size < 2 then .error .tooShort else .error .invalid
  | a :: b :: rest =>
    if a.isDigit && b.isDigit then .ok ((a.toNat - 48, b.toNat - 48), rest) else .error .invalid

/-- An offset from UTC in minutes: `Z`, or a sign, hours and minutes. A minus sign may also be
the mathematical one. -/
def offset (cs : List Char) : Except ReadFault (Int × List Char) :=
  match cs with
  | [] => .error .tooShort
  | c :: rest =>
    if c = 'Z' || c = 'z' then .ok (0, rest)
    else if c = '+' || c = '-' || c = '−' then do
      let ((h1, h2), cs) ← offsetDigits rest
      let cs ← mark ':' cs
      let ((m1, m2), cs) ← offsetDigits cs
      if m1 > 5 then .error .outOfRange
      else
        let minutes : Int := ((10 * h1 + h2) * 60 + (10 * m1 + m2) : Nat)
        return (if c = '+' then minutes else -minutes, cs)
    else .error .invalid

end Calendar

open Calendar in
/-- Reads a timestamp such as `2016-05-04T10:30:00.5+02:00` as a date and time in UTC. -/
def DateTime.parseUtc (s : String) : Except ReadFault DateTime := do
  if s.utf8ByteSize < 19 then .error .tooShort
  else
    let cs := s.toList
    let (y, cs) ← fixedDigits 4 0 cs
    let cs ← fixedMark (· == '-') cs
    let (m, cs) ← fixedDigits 2 0 cs
    let cs ← fixedMark (· == '-') cs
    let (d, cs) ← fixedDigits 2 0 cs
    let date ← inRange (Date.of? y m d)
    let cs ← fixedMark (fun c => c == 'T' || c == 't' || c == ' ') cs
    let (h, cs) ← fixedDigits 2 0 cs
    let cs ← fixedMark (· == ':') cs
    let (mi, cs) ← fixedDigits 2 0 cs
    let cs ← fixedMark (· == ':') cs
    let (sec, cs) ← fixedDigits 2 0 cs
    let (nano, cs) ← fraction cs
    let time ← inRange (timeOf? h mi sec nano)
    let (minutes, cs) ← offset cs
    finished cs
    let minutes ← within (-1439) 1439 minutes
    inRange (DateTime.minusMinutes? ⟨date, time⟩ minutes)

end BoundSql
