/-!
# Calendar

Dates of the proleptic Gregorian calendar and times of day with nanoseconds. Dates lie between
the years -262143 and 262142. A leap second is a nanosecond count of a full second or more, and
only the last second of a minute may have one.
-/

namespace BoundSql

/-! ## Dates -/

/-- Whether a year has 366 days. -/
def isLeapYear (year : Int) : Bool :=
  year % 4 == 0 && (year % 100 != 0 || year % 400 == 0)

/-- The number of days of a month; none if there is no such month. -/
def daysInMonth (year : Int) (month : Nat) : Nat :=
  match month with
  | 1 | 3 | 5 | 7 | 8 | 10 | 12 => 31
  | 4 | 6 | 9 | 11 => 30
  | 2 => if isLeapYear year then 29 else 28
  | _ => 0

/-- Whether year, month and day name a date in range. -/
def isDate (year : Int) (month day : Nat) : Bool :=
  -262143 ≤ year && year ≤ 262142 && 1 ≤ day && day ≤ daysInMonth year month

/-- A date. -/
structure Date where
  year : Int
  month : Nat
  day : Nat
  valid : isDate year month day = true
deriving DecidableEq

namespace Date

/-- The date with a year, a month and a day. -/
def of? (year : Int) (month day : Nat) : Option Date :=
  if h : isDate year month day = true then some ⟨year, month, day, h⟩ else none

/-- The day after. -/
def next? (d : Date) : Option Date :=
  (of? d.year d.month (d.day + 1)).or
    ((of? d.year (d.month + 1) 1).or (of? (d.year + 1) 1 1))

/-- The day before. -/
def previous? (d : Date) : Option Date :=
  if d.day > 1 then of? d.year d.month (d.day - 1)
  else if d.month > 1 then of? d.year (d.month - 1) (daysInMonth d.year (d.month - 1))
  else of? (d.year - 1) 12 31

/-- The date of the first of January of the year 1970. -/
def epoch : Date := ⟨1970, 1, 1, by decide⟩

end Date

/-! ## Times -/

/-- Nanoseconds in a second. -/
def nanosPerSecond : Nat := 1000000000

/-- Whether the parts name a time of day. -/
def isTime (hour minute second nano : Nat) : Bool :=
  hour < 24 && minute < 60 && second < 60 &&
    (nano < nanosPerSecond || (second == 59 && nano < 2 * nanosPerSecond))

/-- A time of day. -/
structure Time where
  hour : Nat
  minute : Nat
  second : Nat
  nano : Nat
  valid : isTime hour minute second nano = true
deriving DecidableEq

namespace Time

/-- The time with an hour, a minute, a second and nanoseconds. -/
def of? (hour minute second nano : Nat) : Option Time :=
  if h : isTime hour minute second nano = true then some ⟨hour, minute, second, nano, h⟩ else none

/-- Midnight. -/
def midnight : Time := ⟨0, 0, 0, 0, by decide⟩

end Time

/-! ## Dates with a time -/

/-- A date with a time of day. -/
structure DateTime where
  date : Date
  time : Time
deriving DecidableEq

namespace DateTime

/-- The start of the year 1970. -/
def epoch : DateTime := ⟨.epoch, .midnight⟩

/-- The date and time less a number of minutes smaller than a day. -/
def minusMinutes? (t : DateTime) (minutes : Int) : Option DateTime := do
  let total := (t.time.hour * 60 + t.time.minute : Nat) - minutes
  let ofDay := (total % 1440).toNat
  let time ← Time.of? (ofDay / 60) (ofDay % 60) t.time.second t.time.nano
  let date ←
    if total < 0 then t.date.previous?
    else if 1440 ≤ total then t.date.next?
    else some t.date
  return ⟨date, time⟩

end DateTime

end BoundSql
