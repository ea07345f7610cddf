import Wiretap.Bytes

/-!
# Reading UTF-8

A machine that reads UTF-8 one byte at a time.  Bytes that belong to no
character are reported where they stand: each longest beginning of a character
that cannot be continued counts as one fault, and so does each byte that starts
no character.

* `scan` gives the characters and faults of a byte sequence in order.
* `decode?` accepts exactly the sequences without fault.
* `decodeLossy` puts the replacement character in place of each fault.
-/

namespace Wiretap
namespace Utf8

/-- A character whose first bytes have been read. -/
structure Pending where
  /-- The bits read so far. -/
  code : Nat
  /-- How many bytes are owed after the next one. -/
  more : Nat
  /-- The least byte that may come next. -/
  low : UInt8
  /-- The greatest byte that may come next. -/
  high : UInt8

/-- A character, or `none` for a fault. -/
abbrev Item : Type := Option Char

/-- Reads the first byte of a character. -/
def first (b : UInt8) : Option Pending × List Item :=
  if b < 0x80 then (none, [some (Char.ofNat b.toNat)])
  else if 0xC2 ≤ b ∧ b ≤ 0xDF then (some ⟨b.toNat - 0xC0, 0, 0x80, 0xBF⟩, [])
  else if b = 0xE0 then (some ⟨0, 1, 0xA0, 0xBF⟩, [])
  else if b = 0xED then (some ⟨0xD, 1, 0x80, 0x9F⟩, [])
  else if 0xE1 ≤ b ∧ b ≤ 0xEF then (some ⟨b.toNat - 0xE0, 1, 0x80, 0xBF⟩, [])
  else if b = 0xF0 then (some ⟨0, 2, 0x90, 0xBF⟩, [])
  else if b = 0xF4 then (some ⟨4, 2, 0x80, 0x8F⟩, [])
  else if 0xF1 ≤ b ∧ b ≤ 0xF3 then (some ⟨b.toNat - 0xF0, 2, 0x80, 0xBF⟩, [])
  else (none, [none])

/-- Reads one byte; a byte that cannot continue a character is read again as a first byte. -/
def step : Option Pending → UInt8 → Option Pending × List Item
  | none, b => first b
  | some p, b =>
    if p.low ≤ b ∧ b ≤ p.high then
      let code := p.code * 64 + (b.toNat - 0x80)
      match p.more with
      | 0 => (none, [some (Char.ofNat code)])
      | more + 1 => (some ⟨code, more, 0x80, 0xBF⟩, [])
    else
      ((first b).1, none :: (first b).2)

/-- Reads bytes from a given point; a character that breaks off at the end is a fault. -/
def scanFrom : Option Pending → Bytes → List Item
  | none, [] => []
  | some _, [] => [none]
  | state, b :: rest => (step state b).2 ++ scanFrom (step state b).1 rest

/-- The characters and faults of a byte sequence. -/
def scan (bytes : Bytes) : List Item := scanFrom none bytes

/-- The characters of a byte sequence that is UTF-8 throughout. -/
def decode? (bytes : Bytes) : Option (List Char) :=
  let items := scan bytes
  if items.all Option.isSome then some (items.filterMap id) else none

/-- The characters of a byte sequence, with U+FFFD for each fault. -/
def decodeLossy (bytes : Bytes) : List Char :=
  (scan bytes).map fun item => item.getD (Char.ofNat 0xFFFD)

/-- The text of a byte sequence that is UTF-8 throughout. -/
def text? (bytes : Bytes) : Option String :=
  (decode? bytes).map String.ofList

/-- The text of a byte sequence, with U+FFFD for each fault. -/
def textLossy (bytes : Bytes) : String :=
  String.ofList (decodeLossy bytes)

end Utf8
end Wiretap
