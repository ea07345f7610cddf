/-!
# Blanks, comments and line ends of settings files

* A blank is a space or a tab.
* A line ends with a line feed, or with a carriage return and a line feed.
* A comment runs to the end of its line and holds no control character but tabs.
-/

namespace Wiretap
namespace Toml

/-- A space or a tab. -/
def isSpace (c : Char) : Bool := c == ' ' || c == '\t'

/-- Drops blanks. -/
def skipSpaces (chars : List Char) : List Char := chars.dropWhile isSpace

/-- A character that is no control character, or a tab. -/
def isPlain (c : Char) : Bool :=
  c == '\t' || (32 ≤ c.toNat && c.toNat != 127)

/-- Drops a line end. -/
def lineEnd? : List Char → Option (List Char)
  | '\n' :: rest => some rest
  | '\r' :: '\n' :: rest => some rest
  | _ => none

/-- Drops a comment, if there is one. -/
def skipComment : List Char → List Char
  | '#' :: rest => rest.dropWhile isPlain
  | chars => chars

/-- Drops what may follow a statement: blanks, a comment, and the line end or the end of the
text. -/
def statementEnd? (chars : List Char) : Option (List Char) :=
  match skipComment (skipSpaces chars) with
  | [] => some []
  | rest => lineEnd? rest

/-- Drops blanks, comments and line ends; a comment must end with its line. -/
def skipTrivia (inComment : Bool) : List Char → Option (List Char)
  | [] => if inComment then none else some []
  | c :: rest =>
    if c = '\n' then skipTrivia false rest
    else if c = '\r' then
      match rest with
      | '\n' :: behind => skipTrivia false behind
      | _ => none
    else if inComment then
      if isPlain c then skipTrivia true rest else none
    else if isSpace c then skipTrivia false rest
    else if c = '#' then skipTrivia true rest
    else some (c :: rest)

end Toml
end Wiretap
