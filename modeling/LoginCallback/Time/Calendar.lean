/-!
# The calendar

Days of the Gregorian calendar, extended backwards to year 1 and ending with year 9999, counted
from 1 January of year 1, which is day 0.
-/

namespace LoginCallback.Time

def isLeap (year : Nat) : Bool := year % 4 == 0 && (year % 100 != 0 || year % 400 == 0)

/-- Days before 1 January of a year. -/
def daysBeforeYear (year : Nat) : Nat :=
  let n := year - 1
  n * 365 + n / 4 - n / 100 + n / 400

def monthLengths (leap : Bool) : List Nat :=
  [31, if leap then 29 else 28, 31, 30, 31, 30, 31, 31, 30, 31, 30, 31]

def daysInMonth (year month : Nat) : Nat := (monthLengths (isLeap year)).getD (month - 1) 0

def daysBeforeMonth (year month : Nat) : Nat :=
  ((monthLengths (isLeap year)).take (month - 1)).foldl Nat.add 0

structure Date where
  year : Nat
  month : Nat
  day : Nat
  deriving DecidableEq

def Date.toDays (d : Date) : Nat :=
  daysBeforeYear d.year + daysBeforeMonth d.year d.month + d.day - 1

/-- Month and day of a day of the year, both counted from 1, given the lengths of the months from
`month` on. -/
def monthDay (month : Nat) : List Nat → Nat → Nat × Nat
  | [], day => (month, day + 1)
  | n :: ns, day => if day < n then (month, day + 1) else monthDay (month + 1) ns (day - n)

/-- The year of a day, counted from 1, and the day within it, counted from 0. -/
def yearDay (days : Nat) : Nat × Nat :=
  let n400 := days / 146097
  let r400 := days % 146097
  let n100 := min (r400 / 36524) 3
  let r100 := r400 - n100 * 36524
  let n4 := r100 / 1461
  let r4 := r100 % 1461
  let n1 := min (r4 / 365) 3
  (n400 * 400 + n100 * 100 + n4 * 4 + n1 + 1, r4 - n1 * 365)

def Date.ofDays (days : Nat) : Date :=
  let (year, day) := yearDay days
  let (month, day) := monthDay 1 (monthLengths (isLeap year)) day
  ⟨year, month, day⟩

/-- Days from 1 January of year 1 to the end of year 9999. -/
def dayCount : Nat := 3652059

/-- The day on which the first week of a year begins: the Monday of the week with 4 January. -/
def firstMonday (year : Nat) : Int :=
  let january1 := daysBeforeYear year
  let weekday := january1 % 7
  let monday : Int := (january1 : Int) - weekday
  if weekday > 3 then monday + 7 else monday

/-- The date of a day of a numbered week. Week dates of the year 0 lie before the calendar: they
have no month. -/
def Date.ofWeek? (year week day : Nat) : Option Date :=
  let january1 := daysBeforeYear year % 7
  let long := year != 0 && (january1 == 3 || (january1 == 2 && isLeap year))
  if week < 1 || 53 < week || (week == 53 && !long) then none
  else if day < 1 || 7 < day then none
  else if year == 0 then some ⟨1, 0, 0⟩
  else some (Date.ofDays (firstMonday year + (week - 1) * 7 + (day - 1)).toNat)

end LoginCallback.Time
