import Wiretap.Calendar
import Wiretap.Duration
import Wiretap.Toml.Value

/-!
# Dates and times of settings files

A date, a time of day, or both with a `T` or a blank between them; a date with a
time may have an offset from universal time.

* `readInstant?` reads one, if the text looks like one.
* `Instant.text` is its normal form: the fraction of a second has no zeros at its
  end and at most nine digits, and an offset of zero hours has a plus sign.
-/

namespace Wiretap
namespace Toml

/-- A day. -/
structure Day where
  /-- The year. -/
  year : Nat
  /-- The month, from 1. -/
  month : Nat
  /-- The day of the month, from 1. -/
  day : Nat

/-- A time of day. -/
structure Clock where
  /-- The hour. -/
  hour : Nat
  /-- The minute. -/
  minute : Nat
  /-- The second; 60 for a leap second. -/
  second : Nat
  /-- The fraction of a second. -/
  nanos : Nat

/-- An offset from universal time. -/
inductive Offset where
  /-- Universal time itself. -/
  | zero
  /-- A number of minutes, to the west if the flag is set. -/
  | minutes (west : Bool) (count : Nat)

/-- A date, a time of day, or both. -/
inductive Instant where
  | day (day : Day)
  | clock (clock : Clock)
  | both (day : Day) (clock : Clock) (offset : Option Offset)

/-- Reads a number of a fixed count of digits between two bounds. -/
def readFixed (count low high : Nat) (chars : List Char) : Option (Nat × List Char) :=
  let digits := chars.take count
  if digits.length = count ∧ digits.all Char.isDigit = true then
    let n := digits.foldl (fun n c => n * 10 + (c.toNat - 48)) 0
    if low ≤ n ∧ n ≤ high then some (n, chars.drop count) else none
  else none

/-- Drops a mark. -/
def readMark (mark : Char) : List Char → Option (List Char)
  | c :: rest => if c = mark then some rest else none
  | [] => none

/-- Reads a date. -/
def readDay (chars : List Char) : Option (Day × List Char) := do
  let (year, rest) ← readFixed 4 0 9999 chars
  let rest ← readMark '-' rest
  let (month, rest) ← readFixed 2 1 12 rest
  let rest ← readMark '-' rest
  let (day, rest) ← readFixed 2 1 (Calendar.daysInMonth year month) rest
  some (⟨year, month, day⟩, rest)

/-- The nanoseconds of the digits of a fraction; digits behind the ninth do not count. -/
def nanosOf (digits : List Char) : Nat :=
  (digits.take 9 ++ List.replicate (9 - digits.length) '0').foldl
    (fun n c => n * 10 + (c.toNat - 48)) 0

/-- Reads the fraction of a second, if there is one. -/
def readSecondFraction : List Char → Nat × List Char
  | '.' :: c :: rest =>
    if c.isDigit then
      (nanosOf (c :: rest.takeWhile Char.isDigit), rest.dropWhile Char.isDigit)
    else (0, '.' :: c :: rest)
  | chars => (0, chars)

/-- Reads a time of day. -/
def readClock (chars : List Char) : Option (Clock × List Char) := do
  let (hour, rest) ← readFixed 2 0 23 chars
  let rest ← readMark ':' rest
  let (minute, rest) ← readFixed 2 0 59 rest
  let rest ← readMark ':' rest
  let (second, rest) ← readFixed 2 0 60 rest
  let (nanos, rest) := readSecondFraction rest
  some (⟨hour, minute, second, nanos⟩, rest)

/-- Reads an offset, if there is one. -/
def readOffset (chars : List Char) : Option (Option Offset × List Char) :=
  match chars with
  | mark :: rest =>
    if mark = 'Z' ∨ mark = 'z' then some (some .zero, rest)
    else if mark = '+' ∨ mark = '-' then do
      let (hours, rest) ← readFixed 2 0 23 rest
      let rest ← readMark ':' rest
      let (minutes, rest) ← readFixed 2 0 59 rest
      some (some (.minutes (mark == '-') (hours * 60 + minutes)), rest)
    else some (none, chars)
  | [] => some (none, [])

/-- Whether a text starts like a time of day: two digits and a colon. -/
def looksLikeClock : List Char → Bool
  | a :: b :: ':' :: _ => a.isDigit && b.isDigit
  | _ => false

/-- Whether a text starts like a date: four digits and a hyphen. -/
def looksLikeDay : List Char → Bool
  | a :: b :: c :: d :: '-' :: _ => a.isDigit && b.isDigit && c.isDigit && d.isDigit
  | _ => false

/-- Reads the time behind a date, if there is one. -/
def readBehindDay (day : Day) (chars : List Char) : Option (Instant × List Char) :=
  match chars with
  | mark :: rest =>
    if (mark = 'T' ∨ mark = 't' ∨ mark = ' ') ∧ looksLikeClock rest = true then do
      let (clock, rest) ← readClock rest
      let (offset, rest) ← readOffset rest
      some (.both day clock offset, rest)
    else some (.day day, chars)
  | [] => some (.day day, [])

/-- Reads a date, a time or both, if the text starts like one; what starts like one and is none
is refused. -/
def readInstant? (chars : List Char) : Option (Option (Instant × List Char)) :=
  if looksLikeDay chars then some ((readDay chars).bind fun found => readBehindDay found.1 found.2)
  else if looksLikeClock chars then
    some ((readClock chars).map fun found => (.clock found.1, found.2))
  else none

/-- A number with leading zeros up to a width. -/
def paddedText (width n : Nat) : String := String.ofList (Duration.padded width n)

/-- A date in normal form. -/
def Day.text (day : Day) : String :=
  paddedText 4 day.year ++ "-" ++ paddedText 2 day.month ++ "-" ++ paddedText 2 day.day

/-- A time of day in normal form. -/
def Clock.text (clock : Clock) : String :=
  paddedText 2 clock.hour ++ ":" ++ paddedText 2 clock.minute ++ ":" ++ paddedText 2 clock.second
    ++ (if clock.nanos = 0 then ""
      else "." ++ String.ofList (Duration.decimals 9 clock.nanos))

/-- An offset in normal form. -/
def Offset.text : Offset → String
  | .zero => "Z"
  | .minutes west count =>
    (if west && count != 0 then "-" else "+") ++ paddedText 2 (count / 60) ++ ":"
      ++ paddedText 2 (count % 60)

/-- The normal form. -/
def Instant.text : Instant → String
  | .day date => date.text
  | .clock time => time.text
  | .both date time offset => date.text ++ "T" ++ time.text ++ ((offset.map Offset.text).getD "")

end Toml
end Wiretap
