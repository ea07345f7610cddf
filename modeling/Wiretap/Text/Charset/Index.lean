/-!
# Indexes of characters

Character sets of many characters list them in tables.  A place in such a table is a number, and
most tables have gaps.

* `Index` is a table: characters one after the other, and runs of code points.
* `Index.char?` looks a character up by its place.
-/

namespace Wiretap
namespace Charset

/-- A table of characters. -/
structure Index where
  /-- Code points one after the other: the first place, the first code point and how many. -/
  runs : List (Nat × Nat × Nat)
  /-- Characters at places one after the other, with the first place. -/
  texts : List (Nat × String)

/-- The character at a place of a table. -/
def Index.char? (index : Index) (place : Nat) : Option Char :=
  let inRun : Nat × Nat × Nat → Option Char := fun (first, code, count) =>
    if first ≤ place ∧ place < first + count then some (Char.ofNat (code + (place - first)))
    else none
  let inText : Nat × String → Option Char := fun (first, text) =>
    if first ≤ place then text.toList[place - first]? else none
  (index.runs.findSome? inRun).or (index.texts.findSome? inText)

end Charset
end Wiretap
