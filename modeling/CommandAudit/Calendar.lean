/-!
# Dates and times

Days of the calendar and times of a day, with the rule of leap years, the number of a day counted
from the first, and the text of a point in universal time.
-/

namespace CommandAudit

/-- Whether a year has a leap day. -/
def isLeapYear (year : Nat) : Bool :=
  year % 4 == 0 && (year % 100 != 0 || year % 400 == 0)

/-- The number of days of a month. -/
def daysInMonth (year month : Nat) : Nat :=
  if month = 2 then (if isLeapYear year then 29 else 28)
  else if month = 4 ∨ month = 6 ∨ month = 9 ∨ month = 11 then 30
  else 31

/-- A day of the calendar. -/
structure Date where
  /-- The year. -/
  year : Nat
  /-- The month, from one. -/
  month : Nat
  /-- The day of the month, from one. -/
  day : Nat
  deriving DecidableEq, Repr, Hashable

/-- Whether there is such a day. -/
def Date.isValid (d : Date) : Bool :=
  1 ≤ d.year && 1 ≤ d.month && d.month ≤ 12 && 1 ≤ d.day && d.day ≤ daysInMonth d.year d.month

/-- A time of a day, with its distance from universal time in minutes if it is given. -/
structure DayTime where
  /-- The hour. -/
  hour : Nat
  /-- The minute. -/
  minute : Nat
  /-- The second. -/
  second : Nat
  /-- The fraction of the second, in millionths. -/
  fraction : Nat := 0
  /-- The distance from universal time, in minutes. -/
  offset : Option Int := none
  deriving DecidableEq, Repr, Hashable

/-- Whether there is such a time. -/
def DayTime.isValid (t : DayTime) : Bool :=
  t.hour < 24 && t.minute < 60 && t.second < 60 && t.offset.all fun m => m.natAbs < 24 * 60

/-! ## Points in time -/

/-- The number of days from the first of January of the year zero to a date. -/
def Date.dayNumber (d : Date) : Nat :=
  let before := d.year - 1
  let leapDays := before / 4 - before / 100 + before / 400
  let months := (List.range (d.month - 1)).foldl (fun n m => n + daysInMonth d.year (m + 1)) 0
  365 * d.year + leapDays + months + (d.day - 1)

/-- The millionths of a second from a fixed point to a time of a day, both in universal time. A time
without a distance from it is taken as it is. -/
def DayTime.instant (t : DayTime) (d : Date) : Int :=
  let minutes : Int := 60 * (24 * d.dayNumber + t.hour) + t.minute - t.offset.getD 0
  (60 * minutes + t.second) * 1000000 + t.fraction

/-- The date that lies `n` days after the first of January of a year; `fuel` bounds the number of
years passed. -/
def dateAfter : (fuel : Nat) → (year n : Nat) → Date
  | 0, year, n => monthDay year 1 12 n
  | fuel + 1, year, n =>
    let length := if isLeapYear year then 366 else 365
    if n < length then monthDay year 1 12 n else dateAfter fuel (year + 1) (n - length)
where
  /-- The date that lies `n` days after the first of a month; `fuel` bounds the months passed. -/
  monthDay (year month : Nat) : (fuel : Nat) → (n : Nat) → Date
    | 0, n => ⟨year, month, n + 1⟩
    | fuel + 1, n =>
      let length := daysInMonth year month
      if n < length then ⟨year, month, n + 1⟩ else monthDay year (month + 1) fuel (n - length)

/-- A number in decimal digits, filled with zeros to the given width. -/
def paddedNumber (width n : Nat) : String :=
  let digits := Nat.toDigits 10 n
  String.ofList (List.replicate (width - digits.length) '0' ++ digits)

/-- The text of the point in universal time that lies the given number of millionths of a second
after the start of 1970. Millionths are left out if there are none. -/
def universalTime (millionths : Nat) : String :=
  let seconds := millionths / 1000000
  let days := seconds / 86400
  let date := dateAfter (days / 365 + 1) 1970 days
  let clock := [seconds / 3600 % 24, seconds / 60 % 60, seconds % 60].map (paddedNumber 2)
  let fraction := millionths % 1000000
  paddedNumber 4 date.year ++ "-" ++ paddedNumber 2 date.month ++ "-" ++ paddedNumber 2 date.day ++
    "T" ++ String.intercalate ":" clock ++
    (if fraction = 0 then "" else "." ++ paddedNumber 6 fraction) ++ "+00:00"

end CommandAudit
