import Wiretap.Calendar

/-!
# Dates of cookies

The date at which a cookie expires is written in one of four forms:

* `Wed, 21 Oct 2015 07:28:00 GMT`
* `Wednesday, 21-Oct-15 07:28:00 GMT`
* `Wed Oct 21 07:28:00 2015`, where a day of one digit has a blank in front
* `Wed, 21-Oct-2015 07:28:00 GMT`

Names are written exactly like this.  The day of the week need not fit the date.
`Date.ofText?` reads a date as a number of seconds from the start of 1970.
-/

namespace Wiretap
namespace Cookie
namespace Date

/-- The names of the days. -/
def weekdays : List String :=
  ["Monday", "Tuesday", "Wednesday", "Thursday", "Friday", "Saturday", "Sunday"]

/-- The short names of the days. -/
def shortWeekdays : List String := ["Mon", "Tue", "Wed", "Thu", "Fri", "Sat", "Sun"]

/-- The short names of the months. -/
def shortMonths : List String :=
  ["Jan", "Feb", "Mar", "Apr", "May", "Jun", "Jul", "Aug", "Sep", "Oct", "Nov", "Dec"]

/-- One part of a form. -/
inductive Part where
  /-- Characters that stand as they are. -/
  | literal (text : String)
  /-- The name of a day. -/
  | weekday
  /-- The short name of a day. -/
  | shortWeekday
  /-- The day of the month in two digits. -/
  | day
  /-- The day of the month in two digits, or a blank and one digit. -/
  | paddedDay
  /-- The short name of a month. -/
  | month
  /-- A year of up to four digits, perhaps with a sign. -/
  | year
  /-- The last two digits of a year. -/
  | shortYear
  /-- The hour in two digits. -/
  | hour
  /-- The minute in two digits. -/
  | minute
  /-- The second in two digits. -/
  | second

/-- The parts of a date that have been read. -/
structure Fields where
  /-- The year as it is written. -/
  year : Int
  /-- The month, from 1. -/
  month : Nat
  /-- The day of the month. -/
  day : Nat
  /-- The hour. -/
  hour : Nat
  /-- The minute. -/
  minute : Nat
  /-- The second. -/
  second : Nat

/-- The four forms. -/
def forms : List (List Part) :=
  let clock : List Part := [.hour, .literal ":", .minute, .literal ":", .second]
  [[.shortWeekday, .literal ", ", .day, .literal " ", .month, .literal " ", .year, .literal " "]
      ++ clock ++ [.literal " GMT"],
    [.weekday, .literal ", ", .day, .literal "-", .month, .literal "-", .shortYear, .literal " "]
      ++ clock ++ [.literal " GMT"],
    [.shortWeekday, .literal " ", .month, .literal " ", .paddedDay, .literal " "]
      ++ clock ++ [.literal " ", .year],
    [.shortWeekday, .literal ", ", .day, .literal "-", .month, .literal "-", .year, .literal " "]
      ++ clock ++ [.literal " GMT"]]

/-- Drops a text in front. -/
def dropText? (text : String) (chars : List Char) : Option (List Char) :=
  if text.toList.isPrefixOf chars then some (chars.drop text.toList.length) else none

/-- Reads one of several names; the number of the name comes out. -/
def readName : List String → List Char → Option (Nat × List Char)
  | [], _ => none
  | name :: rest, chars =>
    match dropText? name chars with
    | some behind => some (0, behind)
    | none => (readName rest chars).map fun found => (found.1 + 1, found.2)

/-- The value of digits. -/
def numberOf (digits : List Char) : Nat :=
  digits.foldl (fun n c => n * 10 + (c.toNat - 48)) 0

/-- Reads a number of a given count of digits. -/
def readNumber (count : Nat) (chars : List Char) : Option (Nat × List Char) :=
  let digits := chars.take count
  if digits.length = count ∧ digits.all Char.isDigit = true then
    some (numberOf digits, chars.drop count)
  else none

/-- Reads a year of one to four digits. -/
def readYear (chars : List Char) : Option (Nat × List Char) :=
  match (chars.take 4).takeWhile Char.isDigit with
  | [] => none
  | digits => some (numberOf digits, chars.drop digits.length)

/-- Reads one part of a form. -/
def readPart (part : Part) (fields : Fields) (chars : List Char) :
    Option (Fields × List Char) :=
  match part with
  | .literal text => (dropText? text chars).map fun rest => (fields, rest)
  | .weekday => (readName weekdays chars).map fun found => (fields, found.2)
  | .shortWeekday => (readName shortWeekdays chars).map fun found => (fields, found.2)
  | .month =>
    (readName shortMonths chars).map fun found => ({ fields with month := found.1 + 1 }, found.2)
  | .day => (readNumber 2 chars).map fun found => ({ fields with day := found.1 }, found.2)
  | .paddedDay =>
    match chars with
    | ' ' :: rest => (readNumber 1 rest).map fun found => ({ fields with day := found.1 }, found.2)
    | _ => (readNumber 2 chars).map fun found => ({ fields with day := found.1 }, found.2)
  | .year =>
    match chars with
    | '-' :: rest =>
      (readYear rest).map fun found => ({ fields with year := -(found.1 : Int) }, found.2)
    | '+' :: rest => (readYear rest).map fun found => ({ fields with year := found.1 }, found.2)
    | _ => (readYear chars).map fun found => ({ fields with year := found.1 }, found.2)
  | .shortYear => (readNumber 2 chars).map fun found => ({ fields with year := found.1 }, found.2)
  | .hour => (readNumber 2 chars).map fun found => ({ fields with hour := found.1 }, found.2)
  | .minute => (readNumber 2 chars).map fun found => ({ fields with minute := found.1 }, found.2)
  | .second => (readNumber 2 chars).map fun found => ({ fields with second := found.1 }, found.2)

/-- Reads all parts of a form; nothing may be left over. -/
def readForm : List Part → Fields → List Char → Option Fields
  | [], fields, [] => some fields
  | [], _, _ :: _ => none
  | part :: parts, fields, chars =>
    match readPart part fields chars with
    | some (fields, rest) => readForm parts fields rest
    | none => none

/-- The year that is meant: small numbers stand for years around 2000. -/
def fullYear (year : Int) : Int :=
  if 0 ≤ year ∧ year ≤ 68 then year + 2000
  else if 69 ≤ year ∧ year ≤ 99 then year + 1900
  else year

/-- The moment of a date, if there is such a day and time. -/
def moment? (fields : Fields) : Option Int :=
  let year := fullYear fields.year
  if 1 ≤ fields.day ∧ fields.day ≤ Calendar.daysInMonth year fields.month
      ∧ fields.hour < 24 ∧ fields.minute < 60 ∧ fields.second < 60 then
    some (Calendar.seconds year fields.month fields.day fields.hour fields.minute fields.second)
  else none

/-- Reads a date; forms are tried in order until one fits. -/
def ofText? (text : String) : Option Int :=
  forms.findSome? fun form => (readForm form ⟨0, 1, 1, 0, 0, 0⟩ text.toList).bind moment?

end Date
end Cookie
end Wiretap
