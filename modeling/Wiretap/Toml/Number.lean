import Wiretap.Text.Ascii
import Wiretap.Toml.Value

/-!
# Numbers of settings files

* Integers are decimal with an optional sign, or start with `0x`, `0o` or `0b`;
  they fit 64 bits.
* Floating-point numbers have a fraction, an exponent, or are `inf` or `nan`.
* An underscore may stand between two digits.
-/

namespace Wiretap
namespace Toml

/-- Reads the digits that follow a digit; the flag tells that an underscore stands in front, so
that a digit must come. -/
def readMoreDigits (isDigit : Char → Bool) (owed : Bool) :
    List Char → Option (List Char × List Char)
  | [] => if owed then none else some ([], [])
  | c :: rest =>
    if isDigit c then
      (readMoreDigits isDigit false rest).map fun found => (c :: found.1, found.2)
    else if owed then none
    else if c = '_' then readMoreDigits isDigit true rest
    else some ([], c :: rest)

/-- Reads one or more digits of a class; an underscore must stand between two digits. -/
def readDigits (isDigit : Char → Bool) (chars : List Char) : Option (List Char × List Char) :=
  match chars with
  | c :: _ => if isDigit c then readMoreDigits isDigit false chars else none
  | [] => none

/-- Splits off a sign; the flag tells whether it is a minus. -/
def splitSign : List Char → Bool × List Char
  | '-' :: rest => (true, rest)
  | '+' :: rest => (false, rest)
  | chars => (false, chars)

/-- Reads decimal digits; a zero in front stands alone. -/
def readUnits : List Char → Option (List Char × List Char)
  | '0' :: rest => some (['0'], rest)
  | chars => readDigits Char.isDigit chars

/-- The value of digits to a base. -/
def valueOf (base : Nat) (digits : List Char) : Nat :=
  digits.foldl (fun n c => n * base + (Ascii.hexValue? c).getD 0) 0

/-- The greatest integer. -/
def integerLimit : Nat := Nat.pow 2 63 - 1

/-- Reads digits to a base behind its mark. -/
def readBased (base : Nat) (isDigit : Char → Bool) (chars : List Char) : Option (Value × List Char) := do
  let (digits, rest) ← readDigits isDigit chars
  let n := valueOf base digits
  if n ≤ integerLimit then some (.integer n, rest) else none

/-- The integer of a sign and decimal digits. -/
def integerOf? (minus : Bool) (digits : List Char) : Option Value :=
  let n := valueOf 10 digits
  if minus then
    if n ≤ integerLimit + 1 then some (.integer (-n)) else none
  else if n ≤ integerLimit then some (.integer n) else none

/-- Splits off the point and the digits behind it, if there is a point. -/
def readFraction : List Char → Option (List Char × List Char)
  | '.' :: rest => readDigits Char.isDigit rest
  | chars => some ([], chars)

/-- Splits off the exponent, if there is one. -/
def readExponent : List Char → Option (Int × List Char)
  | mark :: rest =>
    if mark = 'e' ∨ mark = 'E' then
      let (minus, digits) := splitSign rest
      (readDigits Char.isDigit digits).map fun found =>
        let size : Int := valueOf 10 found.1
        (if minus then -size else size, found.2)
    else some (0, mark :: rest)
  | [] => some (0, [])

/-- Whether digits times a power of ten stay below the infinite; numbers from half a unit above
the greatest finite one do not. -/
def isFinite (digits : List Char) (exponent : Int) : Bool :=
  let significant := digits.dropWhile (· == '0')
  let size : Int := significant.length + exponent
  if significant.isEmpty || size < 309 then true
  else if 309 < size then false
  else
    let n := valueOf 10 significant
    let limit := Nat.pow 2 1024 - Nat.pow 2 970
    if 0 ≤ exponent then n * Nat.pow 10 exponent.toNat < limit
    else n < limit * Nat.pow 10 (-exponent).toNat

/-- Reads a decimal number: an integer, or with a fraction or an exponent a floating-point
number, which may overflow only below. -/
def readDecimal (chars : List Char) : Option (Value × List Char) := do
  let (minus, unsigned) := splitSign chars
  let (units, rest) ← readUnits unsigned
  let (fraction, rest) ← readFraction rest
  let (exponent, behind) ← readExponent rest
  if fraction.isEmpty && behind.length == rest.length then
    let value ← integerOf? minus units
    some (value, behind)
  else if minus || isFinite (units ++ fraction) (exponent - fraction.length) then
    some (.real (String.ofList (chars.take (chars.length - behind.length))), behind)
  else none

/-- Reads a number. -/
def readNumber (chars : List Char) : Option (Value × List Char) :=
  match chars with
  | '0' :: 'x' :: rest => readBased 16 Ascii.isHexDigit rest
  | '0' :: 'o' :: rest => readBased 8 (fun c => '0' ≤ c && c ≤ '7') rest
  | '0' :: 'b' :: rest => readBased 2 (fun c => c == '0' || c == '1') rest
  | _ =>
    match (splitSign chars).2 with
    | 'i' :: 'n' :: 'f' :: rest => some (.real "inf", rest)
    | 'n' :: 'a' :: 'n' :: rest => some (.real "nan", rest)
    | _ => readDecimal chars

end Toml
end Wiretap
