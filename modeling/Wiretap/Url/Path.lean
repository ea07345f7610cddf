import Wiretap.Url.Basic

/-!
# Paths of addresses

A path is split at its slashes; a segment `.` is left out and a segment `..`
takes the segment in front of it away.  Both may be written with percent-coded
dots.

* `segmentsOf` splits a text into segments.
* `resolve` drops the dot segments.
* `resolveFile` does the same for files, where a drive letter stays first.
-/

namespace Wiretap
namespace Url

/-- Splits at slashes, and for special schemes at backslashes too. -/
def segmentsOf (special : Bool) : List Char → List (List Char)
  | [] => [[]]
  | c :: rest =>
    if c = '/' ∨ (special = true ∧ c = '\\') then [] :: segmentsOf special rest
    else
      match segmentsOf special rest with
      | [] => [[c]]
      | segment :: segments => (c :: segment) :: segments

/-- The spellings of a dot. -/
def isSingleDot (segment : List Char) : Bool :=
  ["."  , "%2e"].contains (String.ofList (segment.map Char.toLower))

/-- The spellings of two dots. -/
def isDoubleDot (segment : List Char) : Bool :=
  ["..", "%2e.", ".%2e", "%2e%2e"].contains (String.ofList (segment.map Char.toLower))

/-- Drops the dot segments; `above` holds the segments in front, the nearest first.  A dot
segment at the end leaves an empty segment. -/
def resolveOnto (above : List (List Char)) : List (List Char) → List (List Char)
  | [] => above.reverse
  | segment :: rest =>
    if isDoubleDot segment then
      resolveOnto (if rest.isEmpty then [] :: above.drop 1 else above.drop 1) rest
    else if isSingleDot segment then
      resolveOnto (if rest.isEmpty then [] :: above else above) rest
    else resolveOnto (segment :: above) rest

/-- The segments of a path text, coded and without dot segments. -/
def resolve (special : Bool) (above : List (List Char)) (chars : List Char) :
    List (List Char) :=
  resolveOnto above ((segmentsOf special chars).map (Percent.encodeChars Percent.path))

/-- Whether a segment is a letter and a colon or a vertical bar. -/
def isDrive (segment : List Char) : Bool :=
  match segment with
  | [letter, mark] => letter.isAlpha && (mark == ':' || mark == '|')
  | _ => false

/-- Drops the dot segments of a file path: a drive letter in front is never taken away, and is
written with a colon. -/
def resolveFileOnto (above : List (List Char)) : List (List Char) → List (List Char)
  | [] => above.reverse
  | segment :: rest =>
    let parent :=
      match above with
      | [only] => if isDrive only then above else []
      | _ => above.drop 1
    if isDoubleDot segment then
      resolveFileOnto (if rest.isEmpty then [] :: parent else parent) rest
    else if isSingleDot segment then
      resolveFileOnto (if rest.isEmpty then [] :: above else above) rest
    else if above.isEmpty && isDrive segment then
      resolveFileOnto [segment.take 1 ++ [':']] rest
    else resolveFileOnto (segment :: above) rest

/-- A drive letter that runs on is a segment of its own. -/
def splitDrive : List (List Char) → List (List Char)
  | (letter :: ':' :: c :: tail) :: rest =>
    if letter.isAlpha then [letter, ':'] :: (c :: tail) :: rest
    else (letter :: ':' :: c :: tail) :: rest
  | segments => segments

/-- Drops the empty segments in front of others. -/
def dropLeadingEmpty : List (List Char) → List (List Char)
  | [] :: segment :: rest => dropLeadingEmpty (segment :: rest)
  | segments => segments

/-- The segments of a file path text. -/
def resolveFile (chars : List Char) : List (List Char) :=
  let coded := (segmentsOf true chars).map (Percent.encodeChars Percent.path)
  dropLeadingEmpty (resolveFileOnto [] (splitDrive coded))

end Url
end Wiretap
