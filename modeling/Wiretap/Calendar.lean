/-!
# The calendar

Days of the Gregorian calendar, extended to all years before its introduction.

* `daysInMonth` says how long a month is.
* `dayNumber` counts the days from the first of January 1970.
-/

namespace Wiretap
namespace Calendar

/-- Whether a year has 366 days. -/
def isLeapYear (year : Int) : Bool :=
  year % 4 == 0 && (year % 100 != 0 || year % 400 == 0)

/-- How many days a month has, January being the first. -/
def daysInMonth (year : Int) (month : Nat) : Nat :=
  if month = 2 then if isLeapYear year then 29 else 28
  else if [4, 6, 9, 11].contains month then 30
  else 31

/-- The number of a day, counted from the first of January 1970.  Years are taken to start with
March, so that the leap day comes last. -/
def dayNumber (year : Int) (month day : Nat) : Int :=
  let shifted := if month ≤ 2 then year - 1 else year
  let era := shifted / 400
  let yearOfEra := shifted - era * 400
  let monthFromMarch : Int := if month ≤ 2 then month + 9 else month - 3
  let dayOfYear := (153 * monthFromMarch + 2) / 5 + day - 1
  let dayOfEra := yearOfEra * 365 + yearOfEra / 4 - yearOfEra / 100 + dayOfYear
  era * 146097 + dayOfEra - 719468

/-- The number of seconds from the start of 1970 to a time of a day. -/
def seconds (year : Int) (month day hour minute second : Nat) : Int :=
  dayNumber year month day * 86400 + hour * 3600 + minute * 60 + second

end Calendar
end Wiretap
