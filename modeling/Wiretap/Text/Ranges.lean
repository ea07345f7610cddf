import Wiretap.Text.Ascii

/-!
# Tables of character ranges

A property of characters is written down as a text of ranges in hexadecimal,
sorted and disjoint, each with an optional mark and values:
`300-314=e6` or `c0-d6>e0` or `80-9f!`.

* `Ranges.ofText` reads such a text.
* `Ranges.find?` gives the range that holds a code point, by bisection.
-/

namespace Wiretap

/-- A range of code points with what is said of it. -/
structure Range where
  /-- The first code point. -/
  first : Nat
  /-- The last code point. -/
  last : Nat
  /-- The mark after the range; a blank if there is none. -/
  mark : Char
  /-- The values after the mark. -/
  values : List Nat

/-- A table of ranges in ascending order. -/
structure Ranges where
  /-- The ranges. -/
  entries : Array Range

namespace Ranges

/-- The value of a hexadecimal number; other characters count as nothing. -/
def hexNumber (digits : List Char) : Nat :=
  digits.foldl (fun n c => match Ascii.hexValue? c with
    | some d => n * 16 + d
    | none => n) 0

/-- Reads one range. -/
def rangeOf (token : List Char) : Range :=
  let bounds := token.takeWhile fun c => Ascii.isHexDigit c || c == '-'
  let tail := token.dropWhile fun c => Ascii.isHexDigit c || c == '-'
  let first := hexNumber (bounds.takeWhile (· != '-'))
  let last := match bounds.dropWhile (· != '-') with
    | _ :: upper => hexNumber upper
    | [] => first
  match tail with
  | mark :: [] => ⟨first, last, mark, []⟩
  | mark :: values =>
    ⟨first, last, mark, ((String.ofList values).splitOn ",").map fun v => hexNumber v.toList⟩
  | [] => ⟨first, last, ' ', []⟩

/-- Reads a text of ranges set apart by blanks and line ends. -/
def ofText (text : String) : Ranges :=
  let tokens := (text.toList.splitBy fun a b => !a.isWhitespace && !b.isWhitespace).filter
    fun token => match token with
      | c :: _ => !c.isWhitespace
      | [] => false
  ⟨(tokens.map rangeOf).toArray⟩

/-- Searches the entries from `low` up to `low + width`. -/
def search (entries : Array Range) (code : Nat) (low width : Nat) : Option Range :=
  if _h : width = 0 then none
  else
    let middle := low + width / 2
    match entries[middle]? with
    | none => none
    | some range =>
      if code < range.first then search entries code low (width / 2)
      else if range.last < code then search entries code (middle + 1) (width - width / 2 - 1)
      else some range
termination_by width
decreasing_by all_goals omega

/-- The range that holds a code point. -/
def find? (table : Ranges) (code : Nat) : Option Range :=
  search table.entries code 0 table.entries.size

end Ranges
end Wiretap
