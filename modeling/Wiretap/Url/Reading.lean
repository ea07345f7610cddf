import Wiretap.Url.Path

/-!
# Reading addresses

An address is read from left to right: scheme, authority, path, query,
fragment.  Blanks at both ends and tabs and line ends anywhere are ignored.

* `Url.parse` reads an absolute address.
* `Url.join` reads an address relative to another one.
-/

namespace Wiretap
namespace Url

/-- Drops the blanks and control characters at both ends and every tab and line end. -/
def cleaned (raw : String) : List Char :=
  let isEdge : Char → Bool := fun c => c.toNat ≤ 32
  (((raw.toList.dropWhile isEdge).reverse.dropWhile isEdge).reverse).filter fun c =>
    !(c == '\t' || c == '\n' || c == '\r')

/-- Whether a character may stand in a scheme. -/
def isSchemeChar (c : Char) : Bool :=
  c.isAlphanum || c == '+' || c == '-' || c == '.'

/-- Splits off the scheme, a letter first, and the colon behind it. -/
def splitScheme? (chars : List Char) : Option (String × List Char) :=
  match chars with
  | first :: _ =>
    if first.isAlpha then
      match chars.dropWhile isSchemeChar with
      | ':' :: rest =>
        some (String.ofList ((chars.takeWhile isSchemeChar).map Char.toLower), rest)
      | _ => none
    else none
  | [] => none

/-- Whether a character ends the authority. -/
def endsAuthority (special : Bool) (c : Char) : Bool :=
  c == '/' || c == '?' || c == '#' || (special && c == '\\')

/-- Splits a list behind the last character of a kind, if it occurs. -/
def splitLast? (mark : Char) (chars : List Char) : Option (List Char × List Char) :=
  if chars.contains mark then
    let tail := (chars.reverse.takeWhile (· != mark)).reverse
    some (chars.take (chars.length - tail.length - 1), tail)
  else none

/-- User name and password of a text without the mark behind it. -/
def userinfoOf (chars : List Char) : List Char × Option (List Char) :=
  let coded := Percent.encodeChars Percent.userinfo
  let name := coded (chars.takeWhile (· != ':'))
  match chars.dropWhile (· != ':') with
  | _ :: c :: rest => (name, some (coded (c :: rest)))
  | _ => (name, none)

/-- Splits off the host: it ends at the authority's end or at a colon outside brackets. -/
def splitHost (special : Bool) : Bool → List Char → List Char × List Char
  | _, [] => ([], [])
  | bracketed, c :: rest =>
    if endsAuthority special c || (c == ':' && !bracketed) then ([], c :: rest)
    else
      let bracketed := if c == '[' then true else if c == ']' then false else bracketed
      let parts := splitHost special bracketed rest
      (c :: parts.1, parts.2)

/-- Reads the digits of a port. -/
def readPort : Nat → Bool → List Char → Except UrlFault (Option Nat × List Char)
  | port, seen, [] => .ok (if seen then some port else none, [])
  | port, seen, c :: rest =>
    if c.isDigit then
      let port := port * 10 + (c.toNat - 48)
      if 65535 < port then .error .invalidPort else readPort port true rest
    else if c == '/' || c == '\\' || c == '?' || c == '#' then
      .ok (if seen then some port else none, c :: rest)
    else .error .invalidPort

/-- Splits at the first question mark or number sign. -/
def splitPath (chars : List Char) : List Char × List Char :=
  let isEnd : Char → Bool := fun c => c == '?' || c == '#'
  (chars.takeWhile (!isEnd ·), chars.dropWhile (!isEnd ·))

/-- Reads query and fragment, which start with their marks. -/
def readTail (special : Bool) (chars : List Char) : Option (List Char) × Option (List Char) :=
  let fragmentOf : List Char → Option (List Char)
    | _ :: rest => some (Percent.encodeChars Percent.fragment rest)
    | [] => none
  match chars with
  | '?' :: rest =>
    let queryClass := if special then Percent.specialQuery else Percent.query
    (some (Percent.encodeChars queryClass (rest.takeWhile (· != '#'))),
      fragmentOf (rest.dropWhile (· != '#')))
  | _ => (none, fragmentOf chars)

/-- Reads the path behind an authority. -/
def readAuthorityPath (special : Bool) (chars : List Char) : Path :=
  match chars with
  | '/' :: rest => .segments (resolve special [] rest)
  | '\\' :: rest =>
    if special then .segments (resolve special [] rest)
    else .segments (resolve special [] chars)
  | [] => if special then .segments [[]] else .segments []
  | _ => .segments (resolve special [] chars)

/-- Splits off the user info of an authority, without the mark behind it. -/
def readUserinfo (special : Bool) (chars : List Char) :
    Except UrlFault (List Char × List Char) :=
  let region := chars.takeWhile fun c => !endsAuthority special c
  let behind := chars.dropWhile fun c => !endsAuthority special c
  -- The last mark ends the user info, so a password may hold marks of its own.
  match splitLast? '@' region with
  | none => .ok ([], chars)
  | some (info, hostAndPort) =>
    if info.isEmpty && hostAndPort.isEmpty && !behind.isEmpty then .error .emptyHost
    else .ok (info, hostAndPort ++ behind)

/-- The host of a text; behind a special scheme there must be one. -/
def hostOf (special : Bool) (chars : List Char) : Except UrlFault Host :=
  if special then if chars.isEmpty then .error .emptyHost else Host.parse chars
  else Host.parsePlain chars

/-- Reads the host of an authority. -/
def readHost (special : Bool) (chars : List Char) : Except UrlFault (Host × List Char) :=
  let parts := splitHost special false chars
  (hostOf special parts.1).map (·, parts.2)

/-- Reads the port behind a host, if there is one. -/
def readHostPort (host : Host) (chars : List Char) : Except UrlFault (Option Nat × List Char) :=
  match chars with
  | ':' :: digits => if host = .empty then .error .emptyHost else readPort 0 false digits
  | _ => .ok (none, chars)

/-- Reads authority, path, query and fragment; the two slashes have been seen. -/
def readAuthority (scheme : String) (chars : List Char) : Except UrlFault Url := do
  let special := isSpecial scheme
  let (info, rest) ← readUserinfo special chars
  let (username, password) := userinfoOf info
  let (host, rest) ← readHost special rest
  let (port, rest) ← readHostPort host rest
  -- A user without a host belongs to nothing.
  if host = .empty && !(username.isEmpty && password.isNone) then .error .emptyHost
  else
    let (pathChars, tail) := splitPath rest
    let (query, fragment) := readTail special tail
    return {
      scheme, username, password
      host := some host
      port := if port = defaultPort? scheme then none else port
      path := readAuthorityPath special pathChars
      query, fragment }

/-- The parts of a file address behind its host. -/
def fileUrl (host : Host) (pathChars tail : List Char) : Url :=
  let (query, fragment) := readTail true tail
  let path := resolveFile pathChars
  let host := match path with
    | drive :: _ => if isDrive drive then .empty else host
    | [] => host
  { scheme := "file", username := [], password := none, host := some host, port := none
    path := .segments path, query, fragment }

/-- Whether a character counts as a slash in a file address. -/
def isFileSlash (c : Char) : Bool := c == '/' || c == '\\'

/-- Drops one slash. -/
def dropSlash : List Char → List Char
  | c :: rest => if isFileSlash c then rest else c :: rest
  | [] => []

/-- Reads a file address behind its scheme. -/
def readFile (chars : List Char) : Except UrlFault Url :=
  match chars with
  | a :: b :: rest =>
    if isFileSlash a && isFileSlash b then
      let (before, tail) := splitPath rest
      let hostChars := before.takeWhile (!isFileSlash ·)
      let behind := before.dropWhile (!isFileSlash ·)
      -- A drive is no host: it starts the path.
      if isDrive hostChars then .ok (fileUrl .empty before tail)
      else if hostChars.isEmpty then .ok (fileUrl .empty (dropSlash before) tail)
      else
        match Host.parse hostChars with
        | .error fault => .error fault
        | .ok host =>
          .ok (fileUrl (if host = .domain "localhost" then .empty else host) (dropSlash behind) tail)
    else
      let (before, tail) := splitPath chars
      .ok (fileUrl .empty (dropSlash before) tail)
  | _ =>
    let (before, tail) := splitPath chars
    .ok (fileUrl .empty (dropSlash before) tail)

/-- Reads what follows a scheme that is not special. -/
def readPlain (scheme : String) (chars : List Char) : Except UrlFault Url :=
  match chars with
  | '/' :: '/' :: rest => readAuthority scheme rest
  | _ =>
    let (before, tail) := splitPath chars
    let (query, fragment) := readTail false tail
    let path := match before with
      | '/' :: rest => Path.segments (resolve false [] rest)
      | _ => Path.rootless (Percent.encodeChars Percent.control before)
    .ok { scheme, username := [], password := none, host := none, port := none
          path, query, fragment }

/-- Reads what follows a scheme. -/
def readBehindScheme (scheme : String) (rest : List Char) : Except UrlFault Url :=
  if scheme = "file" then readFile rest
  else if isHostScheme scheme then
    readAuthority scheme (rest.dropWhile isFileSlash)
  else readPlain scheme rest

/-- Reads an absolute address. -/
def parse (raw : String) : Except UrlFault Url :=
  match splitScheme? (cleaned raw) with
  | some (scheme, rest) => readBehindScheme scheme rest
  | none => .error .relativeWithoutBase

/-- The segments in which a relative path starts: all but the last, the nearest first. -/
def folder (path : Path) : List (List Char) :=
  match path with
  | .segments list => list.reverse.drop 1
  | .rootless _ => []

/-- Reads an address relative to one with a host. -/
def joinRelative (base : Url) (chars : List Char) : Except UrlFault Url :=
  let special := isSpecial base.scheme
  let slash : Char → Bool := fun c => c == '/' || (special && c == '\\')
  let withPath : Path → List Char → Url := fun path tail =>
    let (query, fragment) := readTail special tail
    { base with path, query, fragment }
  match chars with
  | [] => .ok { base with fragment := none }
  | '#' :: _ => .ok { base with fragment := (readTail special chars).2 }
  | '?' :: _ => .ok (withPath base.path chars)
  | c :: rest =>
    if slash c then
      match rest with
      | d :: rest' =>
        if slash d then
          readAuthority base.scheme (if special then rest'.dropWhile isFileSlash else rest')
        else
          let (before, tail) := splitPath rest
          .ok (withPath (.segments (resolve special [] before)) tail)
      | [] => .ok (withPath (.segments [[]]) [])
    else
      let (before, tail) := splitPath chars
      .ok (withPath (.segments (resolve special (folder base.path) before)) tail)

/-- Reads an address, absolute or relative to a base of the protocol. -/
def join (base : Url) (raw : String) : Except UrlFault Url :=
  let chars := cleaned raw
  match splitScheme? chars with
  | some (scheme, rest) =>
    -- A scheme that repeats that of the base is passed over, unless a host follows it.
    if scheme = base.scheme && isHostScheme scheme && (rest.takeWhile isFileSlash).length < 2 then
      joinRelative base rest
    else readBehindScheme scheme rest
  | none => joinRelative base chars

end Url
end Wiretap
