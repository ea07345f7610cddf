/-!
# Letter case of ASCII

Header names, schemes, media types and preset names are compared without regard
to the case of the letters `A` to `Z`.  No other character has a case here.

* `lower` and `upper` change the case of a text.
* `sameIgnoringCase` is equality up to case; it is an equivalence because it
  compares the lowercase forms.
-/

namespace Wiretap
namespace Ascii

/-- Lowercases the ASCII letters of a text. -/
def lower (text : String) : String :=
  String.ofList (text.toList.map Char.toLower)

/-- Uppercases the ASCII letters of a text. -/
def upper (text : String) : String :=
  String.ofList (text.toList.map Char.toUpper)

/-- Equality of two texts up to the case of their ASCII letters. -/
def sameIgnoringCase (left right : String) : Bool :=
  lower left == lower right

theorem sameIgnoringCase_iff {left right : String} :
    sameIgnoringCase left right = true ↔ lower left = lower right := by
  simp [sameIgnoringCase]

@[simp]
theorem sameIgnoringCase_refl (text : String) : sameIgnoringCase text text = true := by
  simp [sameIgnoringCase]

theorem sameIgnoringCase_comm (left right : String) :
    sameIgnoringCase left right = sameIgnoringCase right left := by
  unfold sameIgnoringCase
  exact BEq.comm

theorem sameIgnoringCase_trans {a b c : String}
    (hab : sameIgnoringCase a b = true) (hbc : sameIgnoringCase b c = true) :
    sameIgnoringCase a c = true := by
  rw [sameIgnoringCase_iff] at *
  exact hab.trans hbc

/-- Whether a character is one of `0` to `9`, `a` to `f` and `A` to `F`. -/
def isHexDigit (c : Char) : Bool :=
  c.isDigit || ('a' ≤ c && c ≤ 'f') || ('A' ≤ c && c ≤ 'F')

/-- The value of a hexadecimal digit of either case. -/
def hexValue? (c : Char) : Option Nat :=
  if c.isDigit then some (c.toNat - 48)
  else if 'a' ≤ c ∧ c ≤ 'f' then some (c.toNat - 87)
  else if 'A' ≤ c ∧ c ≤ 'F' then some (c.toNat - 55)
  else none

end Ascii
end Wiretap
