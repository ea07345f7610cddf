import Wiretap.Text.Ascii
import Wiretap.Toml.Trivia
import Wiretap.Toml.Value

/-!
# Strings of settings files

A string stands between quotation marks or apostrophes, one for a string on one
line, three for a string that may hold line ends.  Between quotation marks a
backslash starts an escape.

* `readString` reads a string of any of the four forms.
* `readKeyString` reads one of the two forms on one line.
-/

namespace Wiretap
namespace Toml

/-- The character of an escape of one letter. -/
def escaped? (c : Char) : Option Char :=
  match c with
  | '"' => some '"'
  | '\\' => some '\\'
  | 'b' => some '\x08'
  | 'f' => some '\x0c'
  | 'n' => some '\n'
  | 'r' => some '\r'
  | 't' => some '\t'
  | _ => none

/-- The character of a number in hexadecimal digits. -/
def codeChar? (digits : List Char) : Option Char := do
  let code ← digits.foldl (fun (acc : Option Nat) c => do
    let n ← acc
    let d ← Ascii.hexValue? c
    some (n * 16 + d)) (some 0)
  if code < 0xD800 ∨ (0xDFFF < code ∧ code < 0x110000) then some (Char.ofNat code) else none

/-- The character of an escape of a fixed count of hexadecimal digits behind a letter, with the
number of characters that it takes. -/
def codeAt? (count : Nat) (chars : List Char) : Option (Char × Nat) :=
  let digits := chars.take count
  if digits.length = count then (codeChar? digits).map (·, count + 1) else none

/-- The character of the escape behind a backslash, with the number of characters that it
takes. -/
def escapeAt? : List Char → Option (Char × Nat)
  | 'u' :: rest => codeAt? 4 rest
  | 'U' :: rest => codeAt? 8 rest
  | c :: _ => (escaped? c).map (·, 1)
  | [] => none

/-- Reads the rest of a string on one line between quotation marks. -/
def readBasic (read chars : List Char) : Option (String × List Char) :=
  match chars with
  | [] => none
  | '"' :: rest => some (String.ofList read.reverse, rest)
  | '\\' :: rest =>
    match escapeAt? rest with
    | some (c, count) => readBasic (c :: read) (rest.drop count)
    | none => none
  | c :: rest => if isPlain c then readBasic (c :: read) rest else none
termination_by chars.length
decreasing_by all_goals (simp only [List.length_cons, List.length_drop]; omega)

/-- Reads the rest of a string on one line between apostrophes. -/
def readLiteral (read : List Char) : List Char → Option (String × List Char)
  | [] => none
  | '\'' :: rest => some (String.ofList read.reverse, rest)
  | c :: rest => if isPlain c then readLiteral (c :: read) rest else none

/-- Closes a string of several lines at a run of quotes: up to two of them belong to the
string. -/
def closeLong? (quote : Char) (read chars : List Char) : Option (String × List Char) :=
  let run := (chars.takeWhile (· == quote)).length
  if run < 3 then none
  else if run ≤ 5 then
    some (String.ofList (read.reverse ++ List.replicate (run - 3) quote), chars.drop run)
  else some (String.ofList (read.reverse ++ [quote, quote]), chars.drop 5)

/-- Drops blanks and line ends of either form. -/
def skipBreaks : List Char → List Char
  | [] => []
  | '\r' :: '\n' :: rest => skipBreaks rest
  | c :: rest => if isSpace c || c == '\n' then skipBreaks rest else c :: rest

theorem length_skipBreaks_le (chars : List Char) : (skipBreaks chars).length ≤ chars.length := by
  fun_induction skipBreaks chars <;> simp only [List.length_nil, List.length_cons] <;> omega

/-- Drops a line break that is escaped: blanks up to the line end, then all blanks and line
ends. -/
def skipBreak? (chars : List Char) : Option (List Char) :=
  (lineEnd? (skipSpaces chars)).map skipBreaks

theorem length_le_of_lineEnd? {chars rest : List Char} (h : lineEnd? chars = some rest) :
    rest.length ≤ chars.length := by
  unfold lineEnd? at h
  split at h <;> simp_all
  omega

theorem length_le_of_skipBreak? {chars rest : List Char} (h : skipBreak? chars = some rest) :
    rest.length ≤ chars.length := by
  simp only [skipBreak?, Option.map_eq_some_iff] at h
  obtain ⟨behind, hend, rfl⟩ := h
  have hspaces : (skipSpaces chars).length ≤ chars.length :=
    (List.dropWhile_sublist isSpace).length_le
  have := length_skipBreaks_le behind
  have := length_le_of_lineEnd? hend
  omega

/-- Reads the rest of a string of several lines between quotation marks. -/
def readLongBasic (read chars : List Char) : Option (String × List Char) :=
  match closeLong? '"' read chars with
  | some found => some found
  | none =>
    match chars with
    | [] => none
    | '\\' :: rest =>
      match escapeAt? rest with
      | some (c, count) => readLongBasic (c :: read) (rest.drop count)
      | none =>
        match _h : skipBreak? rest with
        | some behind => readLongBasic read behind
        | none => none
    | '\r' :: '\n' :: rest => readLongBasic ('\n' :: read) rest
    | c :: rest => if isPlain c || c == '\n' then readLongBasic (c :: read) rest else none
termination_by chars.length
decreasing_by
  all_goals simp only [List.length_cons, List.length_drop]
  · omega
  · have := length_le_of_skipBreak? _h
    omega
  · omega
  · omega

/-- Reads the rest of a string of several lines between apostrophes. -/
def readLongLiteral (read chars : List Char) : Option (String × List Char) :=
  match closeLong? '\'' read chars with
  | some found => some found
  | none =>
    match chars with
    | [] => none
    | '\r' :: '\n' :: rest => readLongLiteral ('\n' :: read) rest
    | c :: rest => if isPlain c || c == '\n' then readLongLiteral (c :: read) rest else none
termination_by chars.length
decreasing_by all_goals (simp only [List.length_cons]; omega)

/-- Drops the line end behind the opening of a string of several lines. -/
def skipFirstLineEnd (chars : List Char) : List Char := (lineEnd? chars).getD chars

/-- Reads a string on one line. -/
def readKeyString : List Char → Option (String × List Char)
  | '"' :: rest => readBasic [] rest
  | '\'' :: rest => readLiteral [] rest
  | _ => none

/-- Reads a string. -/
def readString : List Char → Option (String × List Char)
  | '"' :: '"' :: '"' :: rest => readLongBasic [] (skipFirstLineEnd rest)
  | '\'' :: '\'' :: '\'' :: rest => readLongLiteral [] (skipFirstLineEnd rest)
  | chars => readKeyString chars

end Toml
end Wiretap
