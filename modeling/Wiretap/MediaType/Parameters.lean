import Wiretap.Header.Name
import Wiretap.MediaType
import Wiretap.Text.Charset

/-!
# Parameters of media types

Behind a media type, parameters may follow, each behind a semicolon.  A media
type that is ill-formed anywhere has no parameters at all.

* `MediaType.parameter?` looks up a parameter.
* `MediaType.charset` is the character set in which a body is written.
-/

namespace Wiretap
namespace MediaType

/-- Whether a character may stand in a token. -/
def isTokenChar (c : Char) : Bool := c.toNat < 128 && isTokenByte (Bytes.ofAscii c)

/-- Whether a text is a non-empty token. -/
def isToken (chars : List Char) : Bool := !chars.isEmpty && chars.all isTokenChar

/-- Whether a character may stand between quotation marks. -/
def isQuotedChar (c : Char) : Bool := 31 < c.toNat && c.toNat != 127

/-- Where a character stands. -/
inductive Quoting where
  /-- Outside quotation marks. -/
  | outside
  /-- Right behind a first mark, where a second one is part of the text. -/
  | opened
  /-- Between two marks. -/
  | inside
deriving DecidableEq

/-- Where the next character stands. -/
def Quoting.next (quoting : Quoting) (c : Char) : Quoting :=
  match quoting with
  | .outside => if c = '"' then .opened else .outside
  | .opened => .inside
  | .inside => if c = '"' then .outside else .inside

/-- Splits at semicolons that stand outside quotation marks. -/
def splitParts : Quoting → List Char → List (List Char)
  | _, [] => [[]]
  | quoting, c :: rest =>
    if c = ';' ∧ quoting = .outside then [] :: splitParts .outside rest
    else
      match splitParts (quoting.next c) rest with
      | part :: parts => (c :: part) :: parts
      | [] => [[c]]

/-- The value of a parameter: a token, which may be empty at the very end, or a text in quotation
marks, which may be followed by spaces. -/
def parameterValue? (isLast : Bool) (chars : List Char) : Option (List Char) :=
  match chars with
  | '"' :: first :: rest =>
    let text := first :: rest.takeWhile (· != '"')
    match rest.dropWhile (· != '"') with
    | _ :: behind => if text.all isQuotedChar && behind.all (· == ' ') then some text else none
    | [] => none
  | _ => if isToken chars || (isLast && chars.isEmpty) then some chars else none

/-- A parameter; its name is in lowercase. -/
def readParameter? (isLast : Bool) (part : List Char) : Option (String × String) := do
  let chars := part.dropWhile (· == ' ')
  let name := chars.takeWhile isTokenChar
  match chars.dropWhile isTokenChar with
  | '=' :: rest =>
    if name.isEmpty then none
    else
      let value ← parameterValue? isLast rest
      return (Ascii.lower (String.ofList name), String.ofList value)
  | _ => none

/-- The parameters in order; nothing or only spaces may follow the last semicolon. -/
def readParameters? : List (List Char) → Option (List (String × String))
  | [] => some []
  | [part] =>
    if part.all (· == ' ') then some [] else (readParameter? true part).map fun p => [p]
  | part :: rest => do
    let parameter ← readParameter? false part
    let parameters ← readParameters? rest
    return parameter :: parameters

/-- Whether a text is two tokens with a slash between them. -/
def isTypePair (chars : List Char) : Bool :=
  isToken (chars.takeWhile (· != '/')) && isToken ((chars.dropWhile (· != '/')).drop 1)

/-- The parameters of a media type, if all of it is well-formed. -/
def parameters? (contentType : String) : Option (List (String × String)) :=
  match splitParts .outside contentType.toList with
  | kind :: parts => if isTypePair kind then readParameters? parts else none
  | [] => none

/-- The first value of a parameter. -/
def parameter? (contentType name : String) : Option String := do
  let parameters ← parameters? contentType
  (parameters.find? fun p => p.1 = name).map Prod.snd

/-- The character set of a body: UTF-8, unless another one is named that is known. -/
def charset (contentType : String) : Charset :=
  ((parameter? contentType "charset").bind Charset.ofLabel?).getD .utf8

end MediaType
end Wiretap
