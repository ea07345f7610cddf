import Wiretap.Text.Ascii

/-!
# Punycode

A text outside ASCII is written in ASCII letters and digits: its ASCII
characters first, then the other ones in ascending order, each as the number of
places that the insertion point moves.  The numbers have digits of base 36 and
thresholds that follow a bias, which adapts to the size of the numbers.

* `encode` writes a text, `decode?` reads it back.
* The loops end by measures of their own; there is no fuel.
-/

namespace Wiretap
namespace Punycode

/-- The digit of a value below 36. -/
def digit (value : Nat) : Char :=
  if value < 26 then Char.ofNat (97 + value) else Char.ofNat (22 + value)

/-- The value of a digit of either case. -/
def digitValue? (c : Char) : Option Nat :=
  if 'a' ≤ c ∧ c ≤ 'z' then some (c.toNat - 97)
  else if 'A' ≤ c ∧ c ≤ 'Z' then some (c.toNat - 65)
  else if '0' ≤ c ∧ c ≤ '9' then some (c.toNat - 22)
  else none

/-- The threshold of the digit at a place; places count in steps of 36. -/
def threshold (place bias : Nat) : Nat :=
  if place ≤ bias then 1 else if bias + 26 ≤ place then 26 else place - bias

theorem one_le_threshold (place bias : Nat) : 1 ≤ threshold place bias := by
  unfold threshold
  split
  · exact Nat.le_refl 1
  · split <;> omega

/-- Scales a delta down below 456 and counts the places it takes. -/
def scale (delta places : Nat) : Nat × Nat :=
  if delta > 455 then scale (delta / 35) (places + 36) else (delta, places)
termination_by delta
decreasing_by omega

/-- The bias after a delta, given the number of characters handled so far. -/
def adapt (delta count : Nat) (isFirst : Bool) : Nat :=
  let halved := if isFirst then delta / 700 else delta / 2
  let scaled := scale (halved + halved / count) 0
  scaled.2 + 36 * scaled.1 / (scaled.1 + 38)

/-- The digits of a number, least place first. -/
def digits (number place bias : Nat) : List Char :=
  let t := threshold place bias
  if number < t then [digit number]
  else
    digit (t + (number - t) % (36 - t)) :: digits ((number - t) / (36 - t)) (place + 36) bias
termination_by number
decreasing_by
  have := one_le_threshold place bias
  have := Nat.div_le_self (number - threshold place bias) (36 - threshold place bias)
  omega

/-- The state of the writer. -/
structure Writer where
  /-- The digits written so far. -/
  output : List Char
  /-- The moves since the last insertion. -/
  delta : Nat
  /-- The bias. -/
  bias : Nat
  /-- How many characters have been handled. -/
  handled : Nat

/-- Passes one character of the text while characters of value `code` are inserted. -/
def Writer.pass (basic code : Nat) (w : Writer) (c : Char) : Writer :=
  if c.toNat < code then { w with delta := w.delta + 1 }
  else if c.toNat = code then
    { output := w.output ++ digits w.delta 36 w.bias
      delta := 0
      bias := adapt w.delta (w.handled + 1) (w.handled == basic)
      handled := w.handled + 1 }
  else w

/-- Inserts the characters of each value, in ascending order of the values. -/
def writeAll (chars : List Char) (basic : Nat) : List Nat → Nat → Writer → Writer
  | [], _, w => w
  | code :: codes, next, w =>
    let moved := { w with delta := w.delta + (code - next) * (w.handled + 1) }
    let passed := chars.foldl (Writer.pass basic code) moved
    writeAll chars basic codes (code + 1) { passed with delta := passed.delta + 1 }

/-- The values of the characters outside ASCII, ascending and without repetition. -/
def values (chars : List Char) : List Nat :=
  (((chars.map Char.toNat).filter (128 ≤ ·)).mergeSort).eraseDups

/-- Writes a text in ASCII. -/
def encode (chars : List Char) : List Char :=
  let basic := chars.filter fun c => c.toNat < 128
  let written := writeAll chars basic.length (values chars) 128 ⟨[], 0, 72, basic.length⟩
  (if basic.isEmpty then [] else basic ++ ['-']) ++ written.output

/-- The state of the reader. -/
structure Reader where
  /-- The characters inserted so far. -/
  output : List Char
  /-- The value of the next character. -/
  code : Nat
  /-- The insertion point, with what has been read of the present number. -/
  index : Nat
  /-- The insertion point before the present number. -/
  start : Nat
  /-- The weight of the next digit. -/
  weight : Nat
  /-- The place of the next digit; 36 between numbers. -/
  place : Nat
  /-- The bias. -/
  bias : Nat

/-- The value of a character, unless there is none. -/
def charOf? (code : Nat) : Option Char :=
  if code < 0xD800 ∨ (0xDFFF < code ∧ code < 0x110000) then some (Char.ofNat code) else none

/-- Reads one digit; the last digit of a number inserts a character. -/
def Reader.step (r : Reader) (c : Char) : Option Reader := do
  let value ← digitValue? c
  let index := r.index + value * r.weight
  let t := threshold r.place r.bias
  if 0xFFFFFFFF < index then none
  else if t ≤ value then
    some { r with index := index, weight := r.weight * (36 - t), place := r.place + 36 }
  else
    let count := r.output.length + 1
    let code := r.code + index / count
    let point := index % count
    let inserted ← charOf? code
    some {
      output := r.output.take point ++ inserted :: r.output.drop point
      code := code
      index := point + 1
      start := point + 1
      weight := 1
      place := 36
      bias := adapt (index - r.start) count (r.start == 0) }

/-- Reads all digits. -/
def readAll : List Char → Reader → Option Reader
  | [], r => some r
  | c :: rest, r => (r.step c).bind (readAll rest)

/-- Splits a text at its last hyphen, unless the hyphen comes first or there is none. -/
def splitLastHyphen (chars : List Char) : List Char × List Char :=
  let tail := (chars.reverse.takeWhile (· != '-')).reverse
  let basic := chars.take (chars.length - tail.length - 1)
  if basic.isEmpty then ([], chars) else (basic, tail)

/-- Reads a text written in ASCII. -/
def decode? (chars : List Char) : Option (List Char) := do
  let (basic, tail) := splitLastHyphen chars
  if basic.any fun c => 128 ≤ c.toNat then none
  let r ← readAll tail ⟨basic, 128, 0, 0, 1, 36, 72⟩
  if r.place = 36 then some r.output else none

end Punycode
end Wiretap
