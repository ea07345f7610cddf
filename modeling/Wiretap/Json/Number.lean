import Wiretap.Decimal.Shortest
import Wiretap.Json.Basic

/-!
# Numbers of documents

* `Number.ofText?` reads a number: digits count as long as the significand fits
  64 bits, and the power of ten is applied to it in floating point.
* `Number.chars` writes a number: whole numbers in decimal, others with the
  fewest digits that read back, positional from `1e-5` up to `1e16`.
-/

namespace Wiretap
namespace Json
namespace Number

/-- The least number that does not fit 64 bits. -/
def wordLimit : Nat := Nat.pow 2 64

/-- A power of ten. -/
def tenTo (n : Nat) : Float := Float.ofScientific 1 false n

/-- A significand times a power of ten.  Powers beyond `10 ^ 308` are divided out in steps, and a
number that is too great is refused. -/
def scaled? : Nat → Float → Int → Option Float
  | 0, _, _ => none
  | steps + 1, f, exponent =>
    if exponent.natAbs ≤ 308 then
      if 0 ≤ exponent then
        let product := f * tenTo exponent.natAbs
        if product.isInf then none else some product
      else some (f / tenTo exponent.natAbs)
    else if f == 0 then some f
    else if 0 ≤ exponent then none
    else scaled? steps (f / tenTo 308) (exponent + 308)

/-- Takes digits into a significand until it would not fit; the flag tells whether digits have
been left out. -/
def takeDigits (significand : Nat) : List Char → Nat × Nat × Nat
  | [] => (significand, 0, 0)
  | c :: rest =>
    let next := significand * 10 + (c.toNat - 48)
    if next < wordLimit then
      let (s, taken, left) := takeDigits next rest
      (s, taken + 1, left)
    else (significand, 0, rest.length + 1)

/-- The parts of the text of a number. -/
structure Parts where
  /-- Whether there is a minus sign. -/
  isNegative : Bool
  /-- The digits in front of the point. -/
  units : List Char
  /-- The digits behind the point, if there is one. -/
  fraction : Option (List Char)
  /-- The sign and the digits of the exponent, if there is one. -/
  exponent : Option (Bool × List Char)

/-- Splits off digits. -/
def spanDigits (chars : List Char) : List Char × List Char :=
  (chars.takeWhile Char.isDigit, chars.dropWhile Char.isDigit)

/-- Reads the exponent of a number. -/
def exponentOf? (chars : List Char) : Option (Option (Bool × List Char)) :=
  match chars with
  | [] => some none
  | mark :: rest =>
    if mark = 'e' ∨ mark = 'E' then
      let (minus, digits) := match rest with
        | '-' :: digits => (true, digits)
        | '+' :: digits => (false, digits)
        | digits => (false, digits)
      if !digits.isEmpty && digits.all Char.isDigit then some (some (minus, digits)) else none
    else none

/-- Reads the parts of a number. -/
def partsOf? (chars : List Char) : Option Parts := do
  let (minus, chars) := match chars with
    | '-' :: rest => (true, rest)
    | _ => (false, chars)
  let (units, rest) := spanDigits chars
  if units.isEmpty || (units.head? == some '0' && 1 < units.length) then none
  match rest with
  | '.' :: rest =>
    let (fraction, rest) := spanDigits rest
    if fraction.isEmpty then none
    let exponent ← exponentOf? rest
    some ⟨minus, units, some fraction, exponent⟩
  | _ =>
    let exponent ← exponentOf? rest
    some ⟨minus, units, none, exponent⟩

/-- The value of decimal digits. -/
def digitsValue (digits : List Char) : Nat :=
  digits.foldl (fun n c => n * 10 + (c.toNat - 48)) 0

/-- The number of parts with fraction or exponent. -/
def real? (parts : Parts) : Option Float := do
  let (significand, _, leftWhole) := takeDigits 0 parts.units
  let (significand, taken, _) :=
    if leftWhole = 0 then takeDigits significand (parts.fraction.getD []) else (significand, 0, 0)
  let shift : Int := (leftWhole : Int) - taken
  let value ← match parts.exponent with
    | none => scaled? 8 (Float.ofNat significand) shift
    | some (minus, digits) =>
      let size := digitsValue digits
      if 2147483647 < size then
        if significand ≠ 0 && !minus then none else some 0
      else
        let exponent : Int := if minus then shift - size else shift + size
        if exponent < -100000 then some 0
        else scaled? 400 (Float.ofNat significand) exponent
  some (if parts.isNegative then -value else value)

/-- The number of parts. -/
def ofParts? (parts : Parts) : Option Number :=
  let size := digitsValue parts.units
  if parts.fraction.isSome || parts.exponent.isSome then (real? parts).map .real
  else if parts.isNegative then
    if size = 0 || Nat.pow 2 63 < size then (real? parts).map .real else some (.negative size)
  else if size < wordLimit then some (.whole size)
  else (real? parts).map .real

/-- Reads a number. -/
def ofText? (chars : List Char) : Option Number :=
  (partsOf? chars).bind ofParts?

/-- The digits of a decimal with the point at its place, or with an exponent. -/
def layout (digits : List Char) (exponent : Int) : List Char :=
  let count : Int := digits.length
  let point := count + exponent
  if 0 ≤ exponent ∧ point ≤ 16 then
    digits ++ List.replicate exponent.toNat '0' ++ ['.', '0']
  else if 0 < point ∧ point ≤ 16 then
    digits.take point.toNat ++ '.' :: digits.drop point.toNat
  else if -5 < point ∧ point ≤ 0 then
    '0' :: '.' :: (List.replicate (-point).toNat '0' ++ digits)
  else
    let power := (toString (point - 1)).toList
    match digits with
    | [single] => single :: 'e' :: power
    | first :: rest => first :: '.' :: (rest ++ 'e' :: power)
    | [] => []

/-- The text of a floating-point number. -/
def realChars (value : Float) : List Char :=
  let bits := value.toBits.toNat
  let sign := if Nat.pow 2 63 ≤ bits then ['-'] else []
  let magnitude := bits % Nat.pow 2 63
  if magnitude = 0 then sign ++ ['0', '.', '0']
  else
    let decimal := (Decimal.Binary.ofBits magnitude).shortest.stripped 20
    sign ++ layout (toString decimal.digits).toList decimal.exponent

/-- The text of a number. -/
def chars : Number → List Char
  | .whole n => (toString n).toList
  | .negative n => '-' :: (toString n).toList
  | .real value => realChars value

end Number
end Json
end Wiretap
