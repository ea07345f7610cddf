import Wiretap.Toml.Quoted

/-!
# Keys of settings files

A key has one or more parts with dots between them.  A part is bare, or a
string on one line.
-/

namespace Wiretap
namespace Toml

/-- Whether a character may stand in a bare part. -/
def isBareChar (c : Char) : Bool :=
  c.isAlphanum || c == '-' || c == '_'

/-- Reads one part. -/
def readPart (chars : List Char) : Option (String × List Char) :=
  match readKeyString chars with
  | some found => some found
  | none =>
    match chars.takeWhile isBareChar with
    | [] => none
    | bare => some (String.ofList bare, chars.dropWhile isBareChar)

/-- Reads a given number of parts at most; blanks may stand around each. -/
def readParts : Nat → List Char → Option (List String × List Char)
  | 0, _ => none
  | more + 1, chars => do
    let (part, rest) ← readPart (skipSpaces chars)
    match skipSpaces rest with
    | '.' :: rest => (readParts more rest).map fun found => (part :: found.1, found.2)
    | rest => some ([part], rest)

/-- The greatest number of parts, and of arrays and tables within each other. -/
def depthLimit : Nat := 79

/-- Reads a key. -/
def readKey (chars : List Char) : Option (List String × List Char) :=
  readParts depthLimit chars

end Toml
end Wiretap
