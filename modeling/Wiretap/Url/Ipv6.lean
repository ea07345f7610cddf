import Wiretap.Text.Ascii

/-!
# IPv6 addresses

An IPv6 address has eight pieces of sixteen bits.  One run of zero pieces may
be left out, and the last two pieces may be written as an IPv4 address.

* `parse?` reads an address.
* `text` writes it in lowercase, without leading zeros, and leaves out the
  first of the longest runs of at least two zero pieces.
-/

namespace Wiretap
namespace Ipv6

/-- An IPv6 address: its pieces, most significant first. -/
structure Address where
  /-- The pieces. -/
  pieces : List Nat
  /-- There are eight of them. -/
  length_pieces : pieces.length = 8
deriving DecidableEq

/-- The value of one to four hexadecimal digits. -/
def piece? (chars : List Char) : Option Nat :=
  if chars.isEmpty || 4 < chars.length then none
  else chars.foldl (fun acc c => do
    let n ← acc
    let d ← Ascii.hexValue? c
    some (n * 16 + d)) (some 0)

/-- The value of a decimal byte without leading zeros. -/
def byte? (chars : List Char) : Option Nat :=
  match chars with
  | [] => none
  | ['0'] => some 0
  | '0' :: _ => none
  | _ =>
    if chars.all Char.isDigit && chars.length ≤ 3 then
      let n := chars.foldl (fun n c => n * 10 + (c.toNat - 48)) 0
      if n ≤ 255 then some n else none
    else none

/-- The two pieces of an IPv4 address. -/
def dotted? (chars : List Char) : Option (List Nat) := do
  match ← (chars.splitOn '.').mapM byte? with
  | [a, b, c, d] => some [a * 256 + b, c * 256 + d]
  | _ => none

/-- The pieces of groups between colons; only the last group may be an IPv4 address. -/
def groups? : List (List Char) → Option (List Nat)
  | [] => some []
  | [last] => if last.contains '.' then dotted? last else (piece? last).map ([·])
  | group :: rest => do
    let piece ← piece? group
    let pieces ← groups? rest
    some (piece :: pieces)

/-- The pieces of one side of a gap; an empty side has none. -/
def side? (chars : List Char) : Option (List Nat) :=
  if chars.isEmpty then some [] else groups? (chars.splitOn ':')

/-- Splits a text at the first pair of colons. -/
def splitGap? : List Char → Option (List Char × List Char)
  | ':' :: ':' :: rest => some ([], rest)
  | c :: rest => (splitGap? rest).map fun sides => (c :: sides.1, sides.2)
  | [] => none

/-- The address of eight pieces. -/
def ofPieces? (pieces : List Nat) : Option Address :=
  if h : pieces.length = 8 then some ⟨pieces, h⟩ else none

/-- Reads an address. -/
def parse? (chars : List Char) : Option Address :=
  match splitGap? chars with
  | some (left, right) => do
    if left.contains '.' then none
    let before ← side? left
    let after ← side? right
    if 8 ≤ before.length + after.length then none
    ofPieces? (before ++ List.replicate (8 - before.length - after.length) 0 ++ after)
  | none => do
    let pieces ← side? chars
    ofPieces? pieces

/-- The length of the run of zeros at the start of a list. -/
def zeros (pieces : List Nat) : Nat := (pieces.takeWhile (· == 0)).length

/-- The place and length of the first of the longest runs of zeros. -/
def longestRun : Nat → List Nat → Nat × Nat
  | _, [] => (0, 0)
  | place, piece :: rest =>
    let here := zeros (piece :: rest)
    let later := longestRun (place + 1) rest
    if later.2 ≤ here then (place, here) else later

/-- Pieces with colons between them. -/
def joined (pieces : List Nat) : String :=
  ":".intercalate (pieces.map fun piece => String.ofList (Nat.toDigits 16 piece))

/-- The text of an address. -/
def text (address : Address) : String :=
  let run := longestRun 0 address.pieces
  if run.2 < 2 then joined address.pieces
  else joined (address.pieces.take run.1) ++ "::" ++ joined (address.pieces.drop (run.1 + run.2))

end Ipv6
end Wiretap
