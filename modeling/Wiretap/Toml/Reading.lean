import Wiretap.Toml.Instant
import Wiretap.Toml.Key
import Wiretap.Toml.Node
import Wiretap.Toml.Number

/-!
# Reading values of settings files

* `readValue` reads a value; arrays and inline tables may stand within each other
  up to a fixed depth.
* `readItems` and `readInlineTable` take the reader of their items as a parameter.
* Arrays may run over several lines and end with a comma, inline tables may not.
-/

namespace Wiretap
namespace Toml

/-- Reads items up to the closing bracket; there are fewer items than `fuel`. -/
def readItems (readItem : List Char → Option (Value × List Char)) :
    Nat → List Value → List Char → Option (List Value × List Char)
  | 0, _, _ => none
  | fuel + 1, read, chars => do
    match ← skipTrivia false chars with
    | ']' :: rest => some (read.reverse, rest)
    | start =>
      let (item, rest) ← readItem start
      match ← skipTrivia false rest with
      | ',' :: rest => readItems readItem fuel (item :: read) rest
      | ']' :: rest => some ((item :: read).reverse, rest)
      | _ => none

/-- Reads entries up to the closing brace; there are fewer entries than `fuel`. -/
def readEntries (readItem : List Char → Option (Value × List Char)) :
    Nat → Node.Entries → List Char → Option (Node.Entries × List Char)
  | 0, _, _ => none
  | fuel + 1, read, chars => do
    let (key, rest) ← readKey chars
    match rest with
    | '=' :: rest =>
      let (item, rest) ← readItem (skipSpaces rest)
      let read ← Node.assign? key item read
      match skipSpaces rest with
      | ',' :: rest => readEntries readItem fuel read rest
      | '\x7d' :: rest => some (read, rest)
      | _ => none
    | _ => none

/-- Reads an inline table behind its opening brace. -/
def readInlineTable (readItem : List Char → Option (Value × List Char)) (fuel : Nat)
    (chars : List Char) : Option (Value × List Char) :=
  match skipSpaces chars with
  | '\x7d' :: rest => some (.table true [], rest)
  | start =>
    (readEntries readItem fuel [] start).map fun found =>
      (.table true (Node.valuesOf true found.1), found.2)

/-- Reads a value that holds no others. -/
def readScalar (chars : List Char) : Option (Value × List Char) :=
  match chars with
  | '"' :: _ => (readString chars).map fun found => (.text found.1, found.2)
  | '\'' :: _ => (readString chars).map fun found => (.text found.1, found.2)
  | 't' :: 'r' :: 'u' :: 'e' :: rest => some (.bool true, rest)
  | 'f' :: 'a' :: 'l' :: 's' :: 'e' :: rest => some (.bool false, rest)
  | _ =>
    match readInstant? chars with
    | some result => result.map fun found => (.instant found.1.text, found.2)
    | none => readNumber chars

/-- Reads a value with at most `depth` arrays and tables within each other. -/
def readValue (fuel : Nat) : Nat → List Char → Option (Value × List Char)
  | depth, '[' :: rest =>
    match depth with
    | 0 => none
    | depth + 1 =>
      (readItems (readValue fuel depth) fuel [] rest).map fun found => (.list found.1, found.2)
  | depth, '\x7b' :: rest =>
    match depth with
    | 0 => none
    | depth + 1 => readInlineTable (readValue fuel depth) fuel rest
  | _, chars => readScalar chars

end Toml
end Wiretap
