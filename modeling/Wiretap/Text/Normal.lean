import Wiretap.Text.Normal.Combining
import Wiretap.Text.Normal.Composition

/-!
# Composed normal form

Canonical composition of a text: precomposed characters are taken apart, runs
of combining marks are put into the order of their classes, and what can be
composed is composed again.

* `decompose` takes every character apart as far as it goes.
* `reorder` sorts each run of combining marks; the sort is stable.
* `compose` and `composed` give the normal form.
-/

namespace Wiretap
namespace Normal

/-- Takes a character apart; four rounds are enough for every character there is. -/
def decomposeChar : Nat → Char → List Char
  | 0, c => [c]
  | rounds + 1, c =>
    match pairOf? c with
    | some (first, second) => decomposeChar rounds first ++ [second]
    | none => [c]

/-- Takes every character of a text apart. -/
def decompose (chars : List Char) : List Char :=
  chars.flatMap (decomposeChar 4)

/-- Puts a combining mark behind the marks of lower or equal class that precede it. -/
def insertMark (c : Char) : List Char → List Char
  | [] => [c]
  | d :: rest =>
    if combiningClass d ≤ combiningClass c then d :: insertMark c rest else c :: d :: rest

/-- Sorts each run of combining marks by class; `run` holds the sorted run so far. -/
def reorderFrom (run : List Char) : List Char → List Char
  | [] => run
  | c :: rest =>
    if combiningClass c = 0 then run ++ c :: reorderFrom [] rest
    else reorderFrom (insertMark c run) rest

/-- Sorts each run of combining marks by class. -/
def reorder (chars : List Char) : List Char := reorderFrom [] chars

/-- Composition of what follows a starter.  `kept` holds, in reverse, the marks that could not be
composed with it, and `last` is the class of the last of them. -/
def composeFrom (starter : Char) (kept : List Char) (last : Nat) : List Char → List Char
  | [] => starter :: kept.reverse
  | c :: rest =>
    let cls := combiningClass c
    let free := kept.isEmpty || last < cls
    match free, compose? starter c with
    | true, some whole => composeFrom whole kept last rest
    | _, _ =>
      if cls = 0 then starter :: (kept.reverse ++ composeFrom c [] 0 rest)
      else composeFrom starter (c :: kept) cls rest

/-- Composes what can be composed. -/
def compose : List Char → List Char
  | [] => []
  | c :: rest =>
    if combiningClass c = 0 then composeFrom c [] 0 rest else c :: compose rest

/-- The composed normal form of a text.  A text of ASCII is in that form already. -/
def composed (chars : List Char) : List Char :=
  if chars.all fun c => c.toNat < 128 then chars else compose (reorder (decompose chars))

end Normal
end Wiretap
