import BoundSql.Calendar

/-!
# Writing dates and times

A year from 0 to 9999 has four digits, any other a sign and at least four. A fraction of a second
is left out if it is zero and else has three, six or nine digits. A leap second is written as
second 60.
-/

namespace BoundSql

/-- A number with at least `width` digits. -/
def padded (width n : Nat) : String :=
  let digits := Nat.toDigits 10 n
  String.ofList (List.replicate (width - digits.length) '0' ++ digits)

/-- A year. -/
def yearText (year : Int) : String :=
  if 0 ≤ year && year ≤ 9999 then padded 4 year.toNat
  else (if year < 0 then "-" else "+") ++ padded 4 year.natAbs

/-- `2016-05-04` -/
def Date.text (d : Date) : String :=
  yearText d.year ++ "-" ++ padded 2 d.month ++ "-" ++ padded 2 d.day

/-- The fraction of a second with its point. -/
def fractionText (nano : Nat) : String :=
  if nano = 0 then ""
  else if nano % 1000000 = 0 then "." ++ padded 3 (nano / 1000000)
  else if nano % 1000 = 0 then "." ++ padded 6 (nano / 1000)
  else "." ++ padded 9 nano

/-- `10:30:00.250` -/
def Time.text (t : Time) : String :=
  let second := t.second + t.nano / nanosPerSecond
  padded 2 t.hour ++ ":" ++ padded 2 t.minute ++ ":" ++ padded 2 second ++
    fractionText (t.nano % nanosPerSecond)

namespace DateTime

/-- `2016-05-04 10:30:00` -/
def text (t : DateTime) : String :=
  t.date.text ++ " " ++ t.time.text

/-- `2016-05-04T10:30:00+00:00` -/
def utcText (t : DateTime) : String :=
  t.date.text ++ "T" ++ t.time.text ++ "+00:00"

end DateTime

end BoundSql
