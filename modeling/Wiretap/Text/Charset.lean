import Wiretap.Text.Ascii
import Wiretap.Text.Charset.MultiByte
import Wiretap.Text.Charset.Table
import Wiretap.Text.Utf8

/-!
# Character sets

How the bytes of a text are read.  A mark at the start of the bytes decides; if
there is none, the character set that was named does.  Bytes that stand for no
character become U+FFFD.

* `Charset.ofLabel?` finds a character set by one of its names.
* `Charset.decode` reads a text.
-/

namespace Wiretap

/-- A way to read bytes as text. -/
inductive Charset where
  | utf8
  | utf16 (bigEndian : Bool)
  /-- Bytes below 128 are ASCII; the others are looked up. -/
  | singleByte (upperHalf : List Char)
  | gb18030
  | big5
  | eucJp
  | iso2022Jp
  | shiftJis
  | eucKr
  /-- A set that is known and not read, since its bytes could be taken for others. -/
  | unread
deriving DecidableEq

namespace Charset

/-- The characters of code points of four hexadecimal digits each. -/
def charsOfHex : List Char → List Char
  | a :: b :: c :: d :: rest =>
    let digit : Char → Nat := fun x => (Ascii.hexValue? x).getD 0
    Char.ofNat (((digit a * 16 + digit b) * 16 + digit c) * 16 + digit d) :: charsOfHex rest
  | _ => []

/-- The character set of a name in lowercase. -/
def ofName? (name : String) : Option Charset :=
  match name with
  | "utf-8" => some .utf8
  | "utf-16le" => some (.utf16 false)
  | "utf-16be" => some (.utf16 true)
  | "gbk" => some .gb18030
  | "gb18030" => some .gb18030
  | "big5" => some .big5
  | "euc-jp" => some .eucJp
  | "iso-2022-jp" => some .iso2022Jp
  | "shift_jis" => some .shiftJis
  | "euc-kr" => some .eucKr
  | "replacement" => some .unread
  | "x-user-defined" =>
    some (.singleByte ((List.range 128).map fun place => Char.ofNat (0xF780 + place)))
  | _ =>
    (upperHalves.find? fun half => half.1 = name).map fun half =>
      .singleByte (charsOfHex half.2.toList)

/-- Whether a character may stand around a label. -/
def isLabelBlank (c : Char) : Bool :=
  c == ' ' || c == '\t' || c == '\n' || c == '\x0c' || c == '\r'

/-- The label without what may stand around it, in lowercase. -/
def normalLabel (label : String) : String :=
  Ascii.lower (String.ofList
    ((label.toList.dropWhile isLabelBlank).reverse.dropWhile isLabelBlank).reverse)

/-- The character set of a label. -/
def ofLabel? (label : String) : Option Charset :=
  let wanted := normalLabel label
  (labels.find? fun known => (known.2.splitOn " ").contains wanted).bind fun known =>
    ofName? known.1

/-- Pairs of bytes as numbers; a last byte without a partner is a fault. -/
def units (bigEndian : Bool) : Bytes → List (Option Nat)
  | a :: b :: rest =>
    some (if bigEndian then a.toNat * 256 + b.toNat else b.toNat * 256 + a.toNat)
      :: units bigEndian rest
  | [_] => [none]
  | [] => []

/-- Whether a number is the first half of a character. -/
def isLead (unit : Nat) : Bool := 0xD800 ≤ unit && unit < 0xDC00

/-- Whether a number is the second half of a character. -/
def isTrail (unit : Nat) : Bool := 0xDC00 ≤ unit && unit < 0xE000

/-- The characters of numbers of 16 bits, given a first half that has been read. -/
def joinUnits : Option Nat → List (Option Nat) → List Char
  | none, [] => []
  | some _, [] => [replacement]
  | none, none :: rest => replacement :: joinUnits none rest
  | some _, none :: rest => replacement :: joinUnits none rest
  | none, some unit :: rest =>
    if isLead unit then joinUnits (some unit) rest
    else if isTrail unit then replacement :: joinUnits none rest
    else Char.ofNat unit :: joinUnits none rest
  | some lead, some unit :: rest =>
    if isTrail unit then
      Char.ofNat (0x10000 + (lead - 0xD800) * 0x400 + (unit - 0xDC00)) :: joinUnits none rest
    else if isLead unit then replacement :: joinUnits (some unit) rest
    else replacement :: Char.ofNat unit :: joinUnits none rest

/-- A byte by itself. -/
def charOfByte (upperHalf : List Char) (b : UInt8) : Char :=
  if b < 128 then Char.ofNat b.toNat
  else (upperHalf[b.toNat - 128]?).getD replacement

/-- Reads bytes without a mark. -/
def read (charset : Charset) (bytes : Bytes) : List Char :=
  match charset with
  | .utf8 => Utf8.decodeLossy bytes
  | .utf16 bigEndian => joinUnits none (units bigEndian bytes)
  | .singleByte upperHalf => bytes.map (charOfByte upperHalf)
  | .gb18030 => gb18030Machine.read bytes
  | .big5 => big5Pairs.machine.read bytes
  | .eucJp => eucJpMachine.read bytes
  | .iso2022Jp => iso2022JpMachine.read bytes
  | .shiftJis => shiftJisPairs.machine.read bytes
  | .eucKr => eucKrPairs.machine.read bytes
  | .unread => if bytes.isEmpty then [] else [replacement]

/-- The character set that a mark at the start names, with the bytes behind the mark. -/
def marked? : Bytes → Option (Charset × Bytes)
  | 0xEF :: 0xBB :: 0xBF :: rest => some (.utf8, rest)
  | 0xFE :: 0xFF :: rest => some (.utf16 true, rest)
  | 0xFF :: 0xFE :: rest => some (.utf16 false, rest)
  | _ => none

/-- Reads bytes. -/
def decode (charset : Charset) (bytes : Bytes) : String :=
  match marked? bytes with
  | some (found, rest) => String.ofList (found.read rest)
  | none => String.ofList (charset.read bytes)

end Charset
end Wiretap
