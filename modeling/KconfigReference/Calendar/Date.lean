import KconfigReference.Text.Basic

/-!
Days of the Gregorian calendar, carried back before its introduction, from the year 1 on: day
counts, days of the week, and the weeks of the ISO year.
-/

namespace KconfigReference

structure Date where
  year : Nat
  month : Nat
  day : Nat
deriving Repr, DecidableEq

namespace Date

def isLeapYear (year : Nat) : Bool := year % 4 = 0 && (year % 100 ≠ 0 || year % 400 = 0)

def daysInMonth (year month : Nat) : Nat :=
  if month = 2 then (if isLeapYear year then 29 else 28)
  else if month = 4 || month = 6 || month = 9 || month = 11 then 30
  else 31

/-- Years 1 to 9999, and a day that its month has. -/
def isValid (d : Date) : Bool :=
  1 ≤ d.year && d.year ≤ 9999 && 1 ≤ d.month && d.month ≤ 12 &&
    1 ≤ d.day && d.day ≤ daysInMonth d.year d.month

/-- The number of days before the first of January of a year. -/
def daysBeforeYear (year : Nat) : Nat :=
  let past := year - 1
  past * 365 + past / 4 - past / 100 + past / 400

/-- The day's place in its year, from 1. -/
def dayOfYear (d : Date) : Nat :=
  (List.range (d.month - 1)).foldl (fun days m => days + daysInMonth d.year (m + 1)) d.day

/-- The day's place among all days, the first of January of the year 1 being 1. -/
def ordinal (d : Date) : Nat := daysBeforeYear d.year + d.dayOfYear

/-- The day of the week, from Sunday as 0: the first day of the year 1 is a Monday. -/
def weekday (d : Date) : Nat := d.ordinal % 7

/-- The day of the week, from Monday as 1 to Sunday as 7. -/
def isoWeekday (d : Date) : Nat := (d.ordinal + 6) % 7 + 1

/-- The ordinal of the Monday that opens the first ISO week of a year, plus 7: the week that holds
the fourth of January. -/
def isoYearStart (year : Nat) : Nat :=
  let fourth := daysBeforeYear year + 4
  fourth + 7 - (fourth + 6) % 7

/-- The ISO year of a day and the week in it. -/
def isoWeek (d : Date) : Nat × Nat :=
  let at_ := d.ordinal + 7
  let year :=
    if isoYearStart (d.year + 1) ≤ at_ then d.year + 1
    else if isoYearStart d.year ≤ at_ then d.year
    else d.year - 1
  (year, (at_ - isoYearStart year) / 7 + 1)

/-- The number of the week in the year, week 1 opening with the first Sunday. -/
def weekFromSunday (d : Date) : Nat := (d.dayOfYear - 1 + 7 - d.weekday) / 7

/-- The number of the week in the year, week 1 opening with the first Monday. -/
def weekFromMonday (d : Date) : Nat := (d.dayOfYear - 1 + 7 - (d.weekday + 6) % 7) / 7

end Date

namespace Text

/-- A count in decimal, filled up on the left to a width. -/
def padded (fill : Char) (width n : Nat) : Text :=
  List.replicate (width - (ofNat n).length) fill ++ ofNat n

end Text

/-- Year, month and day with four, two and two digits. -/
def Date.iso (d : Date) : Text :=
  Text.padded '0' 4 d.year ++ "-" ++ Text.padded '0' 2 d.month ++ "-" ++ Text.padded '0' 2 d.day

example : (Date.mk 2013 4 5).weekday = 5 := by decide
example : (Date.mk 2021 1 3).isoWeek = (2020, 53) := by decide
example : (Date.mk 2018 12 31).isoWeek = (2019, 1) := by decide
example : (Date.mk 1 1 1).isoWeek = (1, 1) := by decide

end KconfigReference
