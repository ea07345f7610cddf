import Wiretap.Json.Number

/-!
# Writing documents

A document on one line without blanks.  In strings only quotation marks,
backslashes and control characters are escaped.
-/

namespace Wiretap
namespace Json

/-- A character of a string. -/
def escapedChar (c : Char) : List Char :=
  if c = '"' then ['\\', '"']
  else if c = '\\' then ['\\', '\\']
  else if c = '\n' then ['\\', 'n']
  else if c = '\r' then ['\\', 'r']
  else if c = '\t' then ['\\', 't']
  else if c = '\x08' then ['\\', 'b']
  else if c = '\x0c' then ['\\', 'f']
  else if c.toNat < 32 then
    ['\\', 'u', '0', '0', Nat.digitChar (c.toNat / 16), Nat.digitChar (c.toNat % 16)]
  else [c]

/-- A string between quotation marks. -/
def textChars (text : String) : List Char :=
  '"' :: (text.toList.flatMap escapedChar ++ ['"'])

mutual

/-- A document. -/
def chars : Json → List Char
  | .null => "null".toList
  | .bool true => "true".toList
  | .bool false => "false".toList
  | .number n => n.chars
  | .text value => textChars value
  | .list items => '[' :: (itemChars true items ++ [']'])
  | .object members => '\x7b' :: (memberChars true members ++ ['\x7d'])

/-- The items of a list, with commas between them. -/
def itemChars : Bool → List Json → List Char
  | _, [] => []
  | isFirst, item :: rest =>
    (if isFirst then [] else [',']) ++ chars item ++ itemChars false rest

/-- The members of an object, with commas between them. -/
def memberChars : Bool → List (String × Json) → List Char
  | _, [] => []
  | isFirst, (name, value) :: rest =>
    (if isFirst then [] else [',']) ++ textChars name ++ ':' :: chars value
      ++ memberChars false rest

end

/-- The document as text. -/
def render (document : Json) : String := String.ofList document.chars

end Json
end Wiretap
