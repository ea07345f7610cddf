import Wiretap.Text.Inspect.Printable

/-!
# Texts for inspection

The text that shows a value to someone who debugs a program: strings are quoted
with escapes, and records show their fields by name.

* `quoted` shows a text between double quotes, so that its extent is clear.
* `record` shows named fields between braces; `openRecord` adds that more fields are hidden.
* `optional` shows a value that may be missing.
-/

namespace Wiretap
namespace Inspect

/-- The lowercase hexadecimal digits of a number, without leading zeros. -/
def hex (n : Nat) : String := String.ofList (Nat.toDigits 16 n)

/-- A character inside double quotes. -/
def quotedChar (c : Char) : String :=
  if c = '"' then "\\\""
  else if c = '\\' then "\\\\"
  else if c = '\n' then "\\n"
  else if c = '\r' then "\\r"
  else if c = '\t' then "\\t"
  else if c.toNat = 0 then "\\0"
  else if isExtender c || !isPrintable c then "\\u\x7b" ++ hex c.toNat ++ "\x7d"
  else c.toString

/-- A text between double quotes. -/
def quoted (text : String) : String :=
  "\"" ++ String.join (text.toList.map quotedChar) ++ "\""

/-- A truth value. -/
def truth (b : Bool) : String := if b then "true" else "false"

/-- A value that may be missing. -/
def optional : Option String → String
  | some text => "Some(" ++ text ++ ")"
  | none => "None"

/-- Fields by name, set apart by commas. -/
def fields (named : List (String × String)) : String :=
  ", ".intercalate (named.map fun field => field.1 ++ ": " ++ field.2)

/-- A record with all its fields. -/
def record (name : String) (named : List (String × String)) : String :=
  name ++ " \x7b " ++ fields named ++ " \x7d"

/-- A record of which some fields are hidden. -/
def openRecord (name : String) (named : List (String × String)) : String :=
  if named.isEmpty then name ++ " \x7b .. \x7d"
  else name ++ " \x7b " ++ fields named ++ ", .. \x7d"

/-- A dictionary. -/
def dictionary (entries : List (String × String)) : String :=
  "\x7b" ++ fields entries ++ "\x7d"

end Inspect
end Wiretap
