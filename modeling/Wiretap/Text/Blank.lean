/-!
# Blank characters

A character is blank when it has the Unicode property `White_Space`.  These are
25 characters, most of them outside ASCII.

* `isBlank` is the property.
* `trim` drops the blanks at both ends of a text.
-/

namespace Wiretap
namespace Blank

/-- The Unicode property `White_Space`. -/
def isBlank (c : Char) : Bool :=
  (9 ≤ c.toNat && c.toNat ≤ 13) || c.toNat == 0x20 || c.toNat == 0x85 || c.toNat == 0xA0
    || c.toNat == 0x1680 || (0x2000 ≤ c.toNat && c.toNat ≤ 0x200A)
    || c.toNat == 0x2028 || c.toNat == 0x2029 || c.toNat == 0x202F || c.toNat == 0x205F
    || c.toNat == 0x3000

/-- Drops the characters of a class at both ends of a list. -/
def trimWhere (drop : Char → Bool) (chars : List Char) : List Char :=
  ((chars.dropWhile drop).reverse.dropWhile drop).reverse

/-- Drops the blanks at both ends of a text. -/
def trim (text : String) : String :=
  String.ofList (trimWhere isBlank text.toList)

/-- Drops the blanks in front of a text. -/
def trimStart (text : String) : String :=
  String.ofList (text.toList.dropWhile isBlank)

end Blank
end Wiretap
