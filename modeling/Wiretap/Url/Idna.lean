import Wiretap.Bytes
import Wiretap.Text.Utf8
import Wiretap.Text.Normal
import Wiretap.Url.Idna.Mapping
import Wiretap.Url.Punycode

/-!
# Internationalised domain names

The ASCII form of a domain name.  Characters are mapped, the name is put into
composed normal form and split into labels at its dots; a label outside ASCII
is written in punycode behind the mark `xn--`, and a label with that mark must
hold a well-formed one.

* `toAscii?` gives the ASCII form, or nothing if the name is not allowed.
* The caller says which ASCII characters are denied; the result holds none of
  them, and nothing outside ASCII.
-/

namespace Wiretap
namespace Idna

/-- Maps the characters of a name; nothing comes out if one of them is refused. -/
def mapChars : List Char → Option (List Char)
  | [] => some []
  | c :: rest =>
    if c.toNat < 128 then (mapChars rest).map (c.toLower :: ·)
    else
      match fate c with
      | .kept => (mapChars rest).map (c :: ·)
      | .dropped => mapChars rest
      | .replaced others => (mapChars rest).map (others ++ ·)
      | .refused => none

/-- Whether a character may stand in a label after mapping. -/
def isStable (c : Char) : Bool :=
  if c.toNat < 128 then c.toLower == c
  else
    match fate c with
    | .kept => true
    | _ => false

/-- Joiners may stand only behind a character that suppresses the vowel of its consonant. -/
def joinersFollowViramas : Option Char → List Char → Bool
  | _, [] => true
  | before, c :: rest =>
    (if c.toNat = 0x200C || c.toNat = 0x200D then
      match before with
      | some b => Normal.combiningClass b == 9
      | none => false
    else true) && joinersFollowViramas (some c) rest

/-- Whether a label of mapped characters is well-formed. -/
def isValidLabel (label : List Char) : Bool :=
  label.all isStable
    && (match label with
      | c :: _ => !(128 ≤ c.toNat && Normal.isMark c)
      | [] => true)
    && joinersFollowViramas none label

/-- The mark of a label in punycode. -/
def punycodeMark : List Char := ['x', 'n', '-', '-']

/-- Whether all characters of a label are ASCII. -/
def isAscii (label : List Char) : Bool :=
  label.all fun c => c.toNat < 128

/-- The ASCII form of one label. -/
def labelToAscii? (label : List Char) : Option (List Char) :=
  if punycodeMark.isPrefixOf label then
    match Punycode.decode? (label.drop 4) with
    | some decoded =>
      if isAscii label && !isAscii decoded && isValidLabel decoded
          && Normal.composed decoded == decoded then
        some label
      else none
    | none => none
  else if isAscii label then some label
  else if isValidLabel label then some (punycodeMark ++ Punycode.encode label)
  else none

/-- The labels of a name. -/
def labels (chars : List Char) : List (List Char) :=
  chars.splitOn '.'

/-- The name made of labels. -/
def ofLabels (parts : List (List Char)) : List Char :=
  ['.'].intercalate parts

/-- The ASCII form of a name given as UTF-8, free of the denied characters. -/
def toAscii? (denied : Char → Bool) (name : Bytes) : Option (List Char) := do
  let chars ← Utf8.decode? name
  let mapped ← mapChars chars
  let parts ← (labels (Normal.composed mapped)).mapM labelToAscii?
  let ascii := ofLabels parts
  if ascii.all fun c => c.toNat < 128 && !denied c then some ascii else none

/-- The ASCII form consists of ASCII characters that are not denied. -/
theorem of_toAscii?_eq_some {denied : Char → Bool} {name : Bytes} {ascii : List Char}
    (h : toAscii? denied name = some ascii) {c : Char} (hc : c ∈ ascii) :
    c.toNat < 128 ∧ denied c = false := by
  simp only [toAscii?, Option.bind_eq_bind, Option.bind_eq_some_iff] at h
  obtain ⟨chars, -, mapped, -, parts, -, h⟩ := h
  split at h
  · rename_i hall
    cases h
    have := List.all_eq_true.mp hall c hc
    simpa using this
  · cases h

end Idna
end Wiretap
