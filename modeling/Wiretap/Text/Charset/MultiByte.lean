import Wiretap.Bytes
import Wiretap.Text.Charset.Chinese
import Wiretap.Text.Charset.Japanese
import Wiretap.Text.Charset.Korean

/-!
# Character sets of several bytes

The older character sets of China, Japan and Korea write most characters in two bytes, and some in
three or four.  Each set is a machine that reads one byte at a time.  Bytes that stand for no
character are a fault; a byte of ASCII that cannot go on is read again by itself.

* `Machine` reads bytes, given what one byte does and what is left at the end.
* `Pairs` is a set of single bytes and pairs; `big5Pairs`, `eucKrPairs` and `shiftJisPairs` are
  such sets.
* `gb18030Machine`, `eucJpMachine` and `iso2022JpMachine` read the other sets.
-/

namespace Wiretap
namespace Charset

/-- The replacement character. -/
def replacement : Char := Char.ofNat 0xFFFD

/-- A way to read characters one byte at a time. -/
structure Machine (State : Type) where
  /-- Where nothing is open. -/
  start : State
  /-- What a byte leaves open, and which characters it completes. -/
  step : State → UInt8 → State × List Char
  /-- What becomes of what is open at the end. -/
  finish : State → List Char

/-- The characters of bytes, from a given state on. -/
def Machine.readFrom {State : Type} (machine : Machine State) : State → Bytes → List Char
  | state, [] => machine.finish state
  | state, b :: rest => (machine.step state b).2 ++ machine.readFrom (machine.step state b).1 rest

/-- The characters of bytes. -/
def Machine.read {State : Type} (machine : Machine State) (bytes : Bytes) : List Char :=
  machine.readFrom machine.start bytes

/-- Whether a byte lies in a range. -/
def isWithin (low high b : UInt8) : Bool := low ≤ b && b ≤ high

/-- A byte of ASCII by itself. -/
def asciiChar (b : UInt8) : Char := Char.ofNat b.toNat

/-- What is left of a byte behind a fault: ASCII is read again, any other byte is part of the
fault. -/
def faultAt (b : UInt8) : List Char :=
  if b < 0x80 then [replacement, asciiChar b] else [replacement]

/-- The place of a byte in a row that leaves out the byte 127. -/
def placeInRow (b : UInt8) : Nat := if b < 0x7F then b.toNat - 0x40 else b.toNat - 0x41

/-- The half-width form of a Japanese syllable. -/
def halfWidth (b : UInt8) : Char := Char.ofNat (0xFF61 + (b.toNat - 0xA1))

/-- A character set of single bytes and pairs of bytes. -/
structure Pairs where
  /-- The character of a byte by itself. -/
  alone? : UInt8 → Option Char
  /-- Whether a byte may be the first of a pair. -/
  isLead : UInt8 → Bool
  /-- The characters of a pair. -/
  pair? : UInt8 → UInt8 → Option (List Char)

/-- Reads a set of single bytes and pairs; the first byte of a pair may be open. -/
def Pairs.machine (pairs : Pairs) : Machine (Option UInt8) where
  start := none
  step
    | none, b =>
      match pairs.alone? b with
      | some c => (none, [c])
      | none => if pairs.isLead b then (some b, []) else (none, [replacement])
    | some lead, b => (none, (pairs.pair? lead b).getD (faultAt b))
  finish
    | none => []
    | some _ => [replacement]

/-- The characters of Big5 that are written as two. -/
def big5Combined? : Nat → Option (List Char)
  | 1133 => some [Char.ofNat 0xCA, Char.ofNat 0x304]
  | 1135 => some [Char.ofNat 0xCA, Char.ofNat 0x30C]
  | 1164 => some [Char.ofNat 0xEA, Char.ofNat 0x304]
  | 1166 => some [Char.ofNat 0xEA, Char.ofNat 0x30C]
  | _ => none

/-- Big5. -/
def big5Pairs : Pairs where
  alone? b := if b < 0x80 then some (asciiChar b) else none
  isLead := isWithin 0x81 0xFE
  pair? lead b :=
    if isWithin 0x40 0x7E b || isWithin 0xA1 0xFE b then
      let inRow := if b < 0x7F then b.toNat - 0x40 else b.toNat - 0x62
      let place := (lead.toNat - 0x81) * 157 + inRow
      (big5Combined? place).or ((big5Index.char? place).map ([·]))
    else none

/-- EUC-KR with all syllables. -/
def eucKrPairs : Pairs where
  alone? b := if b < 0x80 then some (asciiChar b) else none
  isLead := isWithin 0x81 0xFE
  pair? lead b :=
    if isWithin 0x41 0xFE b then
      (koreanIndex.char? ((lead.toNat - 0x81) * 190 + (b.toNat - 0x41))).map ([·])
    else none

/-- Shift JIS; some places are for the private use of those who write. -/
def shiftJisPairs : Pairs where
  alone? b :=
    if b ≤ 0x80 then some (asciiChar b)
    else if isWithin 0xA1 0xDF b then some (halfWidth b)
    else none
  isLead b := isWithin 0x81 0x9F b || isWithin 0xE0 0xFC b
  pair? lead b :=
    if isWithin 0x40 0x7E b || isWithin 0x80 0xFC b then
      let row := if lead < 0xA0 then lead.toNat - 0x81 else lead.toNat - 0xC1
      let place := row * 188 + placeInRow b
      if 8836 ≤ place ∧ place ≤ 10715 then some [Char.ofNat (0xE000 + (place - 8836))]
      else (jis0208Index.char? place).map ([·])
    else none

/-- What is open of a character in EUC-JP. -/
inductive EucJpState where
  /-- Nothing. -/
  | closed
  /-- The first byte of a pair. -/
  | lead (b : UInt8)
  /-- The second of three bytes, behind the mark of the second table. -/
  | second (b : UInt8)

/-- What a pair of bytes is in a table of 94 rows. -/
def eucJpPair (index : Index) (lead b : UInt8) : List Char :=
  if isWithin 0xA1 0xFE lead && isWithin 0xA1 0xFE b then
    match index.char? ((lead.toNat - 0xA1) * 94 + (b.toNat - 0xA1)) with
    | some c => [c]
    | none => faultAt b
  else faultAt b

/-- EUC-JP: pairs, half-width syllables behind one mark, and a second table behind another. -/
def eucJpMachine : Machine EucJpState where
  start := .closed
  step
    | .closed, b =>
      if b < 0x80 then (.closed, [asciiChar b])
      else if b = 0x8E || b = 0x8F || isWithin 0xA1 0xFE b then (.lead b, [])
      else (.closed, [replacement])
    | .lead lead, b =>
      if lead = 0x8E && isWithin 0xA1 0xDF b then (.closed, [halfWidth b])
      else if lead = 0x8F && isWithin 0xA1 0xFE b then (.second b, [])
      else (.closed, eucJpPair jis0208Index lead b)
    | .second lead, b => (.closed, eucJpPair jis0212Index lead b)
  finish
    | .closed => []
    | _ => [replacement]

/-- What is open of a character in GB 18030. -/
inductive Gb18030State where
  | closed
  | one (first : UInt8)
  | two (first second : UInt8)
  | three (first second third : UInt8)

/-- The character of four bytes, by its place. -/
def fourByteChar? (place : Nat) : Option Char :=
  if (39419 < place ∧ place < 189000) ∨ 1237575 < place then none
  else if place = 7457 then some (Char.ofNat 0xE7C7)
  else
    (gb18030Ranges.findRev? fun range => range.1 ≤ place).map fun range =>
      Char.ofNat (range.2 + (place - range.1))

namespace Gb18030State

/-- Whether a byte is a decimal digit, which no pair ends with. -/
def isDigit (b : UInt8) : Bool := isWithin 0x30 0x39 b

/-- A byte where nothing is open. -/
def stepClosed (b : UInt8) : Gb18030State × List Char :=
  if b < 0x80 then (.closed, [asciiChar b])
  else if b = 0x80 then (.closed, [Char.ofNat 0x20AC])
  else if b ≤ 0xFE then (.one b, [])
  else (.closed, [replacement])

/-- A byte behind a first one. -/
def stepOne (first b : UInt8) : Gb18030State × List Char :=
  if isDigit b then (.two first b, [])
  else
    let char? :=
      if isWithin 0x40 0x7E b || isWithin 0x80 0xFE b then
        gb18030Index.char? ((first.toNat - 0x81) * 190 + placeInRow b)
      else none
    match char? with
    | some c => (.closed, [c])
    | none => (.closed, faultAt b)

/-- A byte behind two; if it cannot go on, only the first of them is a fault. -/
def stepTwo (first second b : UInt8) : Gb18030State × List Char :=
  if isWithin 0x81 0xFE b then (.three first second b, [])
  else ((stepClosed b).1, replacement :: asciiChar second :: (stepClosed b).2)

/-- A byte behind three; if it cannot go on, the third of them is open again. -/
def stepThree (first second third b : UInt8) : Gb18030State × List Char :=
  if isDigit b then
    let place := (((first.toNat - 0x81) * 10 + (second.toNat - 0x30)) * 126
      + (third.toNat - 0x81)) * 10 + (b.toNat - 0x30)
    (.closed, [(fourByteChar? place).getD replacement])
  else ((stepOne third b).1, replacement :: asciiChar second :: (stepOne third b).2)

end Gb18030State

/-- GB 18030, which also reads GBK. -/
def gb18030Machine : Machine Gb18030State where
  start := .closed
  step
    | .closed, b => Gb18030State.stepClosed b
    | .one first, b => Gb18030State.stepOne first b
    | .two first second, b => Gb18030State.stepTwo first second b
    | .three first second third, b => Gb18030State.stepThree first second third b
  finish
    | .closed => []
    | _ => [replacement]

namespace Iso2022Jp

/-- The sets between which ISO-2022-JP switches. -/
inductive Plane where
  | ascii
  | roman
  | katakana
  | kanji

/-- What is open. -/
inductive Pending where
  /-- Nothing. -/
  | none
  /-- The first byte of a pair. -/
  | lead (b : UInt8)
  /-- The mark in front of a switch. -/
  | escape
  /-- The mark and the byte behind it. -/
  | switch (b : UInt8)

/-- What is known of the bytes so far. -/
structure State where
  /-- The set that has been switched to. -/
  plane : Plane
  /-- Whether nothing has come since the last switch. -/
  hasSwitched : Bool
  /-- What is open. -/
  pending : Pending

/-- The set that two bytes behind the mark stand for. -/
def plane? : UInt8 → UInt8 → Option Plane
  | 0x28, 0x42 => some .ascii
  | 0x28, 0x4A => some .roman
  | 0x28, 0x49 => some .katakana
  | 0x24, 0x40 => some .kanji
  | 0x24, 0x42 => some .kanji
  | _, _ => none

/-- The character of a byte in a set of single bytes. -/
def alone? (plane : Plane) (b : UInt8) : Option Char :=
  let ascii? := if b < 0x80 && b != 0x0E && b != 0x0F then some (asciiChar b) else none
  match plane with
  | .ascii => ascii?
  | .roman =>
    if b = 0x5C then some (Char.ofNat 0xA5)
    else if b = 0x7E then some (Char.ofNat 0x203E)
    else ascii?
  | .katakana =>
    if isWithin 0x21 0x5F b then some (Char.ofNat (0xFF61 + (b.toNat - 0x21))) else none
  | .kanji => none

/-- A byte where nothing is open. -/
def stepPlain (plane : Plane) (hasSwitched : Bool) (b : UInt8) : State × List Char :=
  if b = 0x1B then (⟨plane, hasSwitched, .escape⟩, [])
  else
    match plane with
    | .kanji =>
      if isWithin 0x21 0x7E b then (⟨plane, false, .lead b⟩, [])
      else (⟨plane, false, .none⟩, [replacement])
    | _ => (⟨plane, false, .none⟩, [(alone? plane b).getD replacement])

/-- A byte behind the first of a pair. -/
def stepLead (plane : Plane) (hasSwitched : Bool) (lead b : UInt8) : State × List Char :=
  if b = 0x1B then (⟨plane, hasSwitched, .escape⟩, [replacement])
  else if isWithin 0x21 0x7E b then
    let place := (lead.toNat - 0x21) * 94 + (b.toNat - 0x21)
    (⟨plane, hasSwitched, .none⟩, [(jis0208Index.char? place).getD replacement])
  else (⟨plane, hasSwitched, .none⟩, [replacement])

/-- A byte where no switch is open. -/
def stepOutside (state : State) (b : UInt8) : State × List Char :=
  match state.pending with
  | .lead lead => stepLead state.plane state.hasSwitched lead b
  | _ => stepPlain state.plane state.hasSwitched b

/-- A byte behind the mark of a switch. -/
def stepEscape (state : State) (b : UInt8) : State × List Char :=
  if b = 0x24 || b = 0x28 then ({ state with pending := .switch b }, [])
  else
    let again := stepPlain state.plane false b
    (again.1, replacement :: again.2)

/-- The last byte of a switch.  A switch right behind another one is a fault; what is no switch is
read again without the mark. -/
def stepSwitch (state : State) (first b : UInt8) : State × List Char :=
  match plane? first b with
  | some plane => (⟨plane, true, .none⟩, if state.hasSwitched then [replacement] else [])
  | none =>
    let again := stepPlain state.plane false first
    let behind := stepOutside again.1 b
    (behind.1, replacement :: (again.2 ++ behind.2))

end Iso2022Jp

open Iso2022Jp in
/-- ISO-2022-JP. -/
def iso2022JpMachine : Machine Iso2022Jp.State where
  start := ⟨.ascii, false, .none⟩
  step state b :=
    match state.pending with
    | .escape => stepEscape state b
    | .switch first => stepSwitch state first b
    | _ => stepOutside state b
  finish state :=
    match state.pending with
    | .none => []
    | .lead _ => [replacement]
    | .escape => [replacement]
    | .switch first =>
      let again := stepPlain state.plane false first
      match again.1.pending with
      | .lead _ => replacement :: again.2 ++ [replacement]
      | _ => replacement :: again.2

end Charset
end Wiretap
