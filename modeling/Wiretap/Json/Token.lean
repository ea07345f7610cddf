import Wiretap.Json.Number

/-!
# Tokens of documents

A text is read one character at a time into brackets, marks, strings, numbers
and words.

* `Token.ofChars?` gives the tokens of a text.
* In a string, control characters must be escaped, and an escape for one half of
  a surrogate pair must be followed by an escape for the other half.
-/

namespace Wiretap
namespace Json

/-- A token. -/
inductive Token where
  | listOpen
  | listClose
  | objectOpen
  | objectClose
  | comma
  | colon
  | text (value : String)
  | leaf (value : Json)

namespace Token

/-- Where the reader stands; characters read so far are held in reverse. -/
inductive Mode where
  /-- Between tokens. -/
  | between
  /-- In a number or word. -/
  | word (read : List Char)
  /-- In a string. -/
  | text (read : List Char)
  /-- Behind a backslash. -/
  | escape (read : List Char)
  /-- In a numeric escape, with the first half of a surrogate pair if it has been read. -/
  | code (read : List Char) (high : Option Nat) (missing value : Nat)
  /-- Behind the first half of a surrogate pair; the flag tells whether the backslash has come. -/
  | half (read : List Char) (high : Nat) (slash : Bool)

/-- The value of a number or word. -/
def leafOf? (chars : List Char) : Option Json :=
  match String.ofList chars with
  | "null" => some .null
  | "true" => some (.bool true)
  | "false" => some (.bool false)
  | _ => (Number.ofText? chars).map .number

/-- Whether a character may stand in a number or word. -/
def isWordChar (c : Char) : Bool :=
  c.isAlphanum || c == '+' || c == '-' || c == '.'

/-- Reads a character between tokens. -/
def start? (c : Char) : Option (Mode × List Token) :=
  match c with
  | ' ' | '\n' | '\t' | '\r' => some (.between, [])
  | '[' => some (.between, [.listOpen])
  | ']' => some (.between, [.listClose])
  | '\x7b' => some (.between, [.objectOpen])
  | '\x7d' => some (.between, [.objectClose])
  | ',' => some (.between, [.comma])
  | ':' => some (.between, [.colon])
  | '"' => some (.text [], [])
  | _ => if isWordChar c then some (.word [c], []) else none

/-- The character of an escape of one letter. -/
def escaped? (c : Char) : Option Char :=
  match c with
  | '"' => some '"'
  | '\\' => some '\\'
  | '/' => some '/'
  | 'b' => some '\x08'
  | 'f' => some '\x0c'
  | 'n' => some '\n'
  | 'r' => some '\r'
  | 't' => some '\t'
  | _ => none

/-- Ends a numeric escape. -/
def finishCode (read : List Char) (high : Option Nat) (value : Nat) : Option Mode :=
  match high with
  | some first =>
    if 0xDC00 ≤ value ∧ value ≤ 0xDFFF then
      some (.text (Char.ofNat (0x10000 + (first - 0xD800) * 1024 + (value - 0xDC00)) :: read))
    else none
  | none =>
    if 0xD800 ≤ value ∧ value ≤ 0xDBFF then some (.half read value false)
    else if 0xDC00 ≤ value ∧ value ≤ 0xDFFF then none
    else some (.text (Char.ofNat value :: read))

/-- Reads one character. -/
def step? (mode : Mode) (c : Char) : Option (Mode × List Token) :=
  match mode with
  | .between => start? c
  | .word read =>
    if isWordChar c then some (.word (c :: read), [])
    else do
      let value ← leafOf? read.reverse
      let (next, tokens) ← start? c
      some (next, .leaf value :: tokens)
  | .text read =>
    if c = '"' then some (.between, [.text (String.ofList read.reverse)])
    else if c = '\\' then some (.escape read, [])
    else if c.toNat < 32 then none
    else some (.text (c :: read), [])
  | .escape read =>
    if c = 'u' then some (.code read none 4 0, [])
    else (escaped? c).map fun e => (.text (e :: read), [])
  | .code read high missing value => do
    let digit ← Ascii.hexValue? c
    let value := value * 16 + digit
    if missing = 1 then
      let next ← finishCode read high value
      some (next, [])
    else some (.code read high (missing - 1) value, [])
  | .half read high slash =>
    if slash then
      if c = 'u' then some (.code read (some high) 4 0, []) else none
    else if c = '\\' then some (.half read high true, [])
    else none

/-- Reads characters from a given point; the tokens so far are held in reverse. -/
def readFrom : Mode → List Token → List Char → Option (List Token)
  | mode, tokens, [] =>
    match mode with
    | .between => some tokens.reverse
    | .word read => (leafOf? read.reverse).map fun value => (.leaf value :: tokens).reverse
    | _ => none
  | mode, tokens, c :: rest =>
    match step? mode c with
    | some (next, more) => readFrom next (more.reverse ++ tokens) rest
    | none => none

/-- The tokens of a text. -/
def ofChars? (chars : List Char) : Option (List Token) :=
  readFrom .between [] chars

end Token
end Json
end Wiretap
