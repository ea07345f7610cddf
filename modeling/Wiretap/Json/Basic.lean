import Wiretap.Text.Ascii

/-!
# Documents

The values that a JSON text denotes.  Numbers are whole where the text has
neither fraction nor exponent and the value fits 64 bits, and floating point
otherwise.
-/

namespace Wiretap

/-- A number of a document. -/
inductive Json.Number where
  /-- A whole number below `2 ^ 64`. -/
  | whole (n : Nat)
  /-- The negative of a whole number of at most `2 ^ 63`. -/
  | negative (n : Nat)
  /-- Any other number. -/
  | real (value : Float)

/-- A document. -/
inductive Json where
  | null
  | bool (value : Bool)
  | number (value : Json.Number)
  | text (value : String)
  | list (items : List Json)
  | object (members : List (String × Json))

namespace Json

/-- A whole number. -/
def nat (n : Nat) : Json := .number (.whole n)

/-- The member of a name; the last one counts. -/
def member? (name : String) : Json → Option Json
  | .object members => (members.reverse.find? fun m => m.1 == name).map Prod.snd
  | _ => none

end Json
end Wiretap
