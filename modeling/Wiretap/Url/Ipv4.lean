import Wiretap.Text.Ascii

/-!
# IPv4 addresses

An IPv4 address has four parts, but may be written with fewer, the last of
which then covers the bytes that are left, and each part may be decimal, octal
or hexadecimal.

* `endsInNumber` tells whether a host must be such an address.
* `parse?` reads an address, `text` writes it in four decimal parts.
-/

namespace Wiretap
namespace Ipv4

/-- The value of a text of digits in a base; nothing if there are other characters. -/
def digitsValue? (base : Nat) (chars : List Char) : Option Nat :=
  chars.foldl (fun acc c => do
    let n ← acc
    let d ← Ascii.hexValue? c
    if d < base then some (n * base + d) else none) (some 0)

/-- The value of a part, which may be decimal, octal or hexadecimal. -/
def part? (chars : List Char) : Option Nat :=
  match chars with
  | [] => none
  | '0' :: 'x' :: rest => digitsValue? 16 rest
  | '0' :: 'X' :: rest => digitsValue? 16 rest
  | '0' :: c :: rest => digitsValue? 8 (c :: rest)
  | _ => digitsValue? 10 chars

/-- The parts of a host, without an empty one at the end. -/
def parts (host : List Char) : List (List Char) :=
  let all := host.splitOn '.'
  if all.getLast? = some [] then all.dropLast else all

/-- Whether the last part of a host is a number. -/
def endsInNumber (host : List Char) : Bool :=
  match (parts host).getLast? with
  | some last => (!last.isEmpty && last.all Char.isDigit) || (part? last).isSome
  | none => false

/-- The address of its parts: all but the last are single bytes, the last fills up. -/
def ofParts? (numbers : List Nat) : Option Nat :=
  match numbers.reverse with
  | [] => none
  | last :: leading =>
    let leading := leading.reverse
    if 3 < leading.length then none
    else if leading.any (255 < ·) then none
    else if Nat.pow 256 (4 - leading.length) ≤ last then none
    else some (leading.foldl (fun n byte => n * 256 + byte) 0 * Nat.pow 256 (4 - leading.length) + last)

/-- Reads an address. -/
def parse? (host : List Char) : Option Nat := do
  let numbers ← (parts host).mapM part?
  ofParts? numbers

/-- The four decimal parts of an address. -/
def text (address : Nat) : String :=
  ".".intercalate ([16777216, 65536, 256, 1].map fun unit => toString (address / unit % 256))

end Ipv4
end Wiretap
