import Wiretap.Cookie.Basic
import Wiretap.Cookie.Date
import Wiretap.Text.Blank

/-!
# Reading cookies

A cookie is set by a text: its name and value, and attributes behind semicolons.
Attributes that are unknown or make no sense are passed over; of several of one
kind the last counts.

* `Attributes.ofText?` reads the text; nothing comes out without a name.
* `ofText?` makes the cookie that a response from an address sets.
-/

namespace Wiretap
namespace Cookie

/-- What the text of a cookie says. -/
structure Attributes where
  /-- The name. -/
  name : String
  /-- The value. -/
  value : String
  /-- The domain, without a dot in front. -/
  domain : Option String
  /-- The path. -/
  path : Option String
  /-- Whether it is kept from requests that can be overheard. -/
  secure : Bool
  /-- Whether it is kept from requests outside the protocol. -/
  httpOnly : Bool
  /-- The age in seconds up to which it is kept. -/
  maxAge : Option Nat
  /-- The moment at which it expires. -/
  expires : Option Int

namespace Attributes

/-- Splits at the first equals sign; both sides are trimmed. -/
def splitPair (chars : List Char) : String × Option String :=
  let before := Blank.trim (String.ofList (chars.takeWhile (· != '=')))
  match chars.dropWhile (· != '=') with
  | _ :: after => (before, some (Blank.trim (String.ofList after)))
  | [] => (before, none)

/-- The greatest age in seconds that is told apart. -/
def ageLimit : Nat := Nat.pow 2 63 - 1

/-- Reads an age: a negative one is none at all, and one without digits has no bound. -/
def ageOf? (text : String) : Option Nat :=
  let (minus, digits) := match text.toList with
    | '-' :: rest => (true, rest)
    | chars => (false, chars)
  if digits.all Char.isDigit then
    if minus then some 0
    else if digits.isEmpty then some ageLimit
    else some (min ageLimit (Date.numberOf digits))
  else none

/-- Takes one attribute. -/
def add (attributes : Attributes) (chars : List Char) : Attributes :=
  let (key, value) := splitPair chars
  match Ascii.lower key, value with
  | "secure", _ => { attributes with secure := true }
  | "httponly", _ => { attributes with httpOnly := true }
  | "max-age", some text =>
    match ageOf? text with
    | some age => { attributes with maxAge := some age }
    | none => attributes
  | "domain", some text =>
    -- An empty domain does not take back one that was named before.
    if text = "" then attributes
    else
      let bare := match text.toList with
        | '.' :: rest => String.ofList rest
        | _ => text
      { attributes with domain := some bare }
  | "path", some text => { attributes with path := some text }
  | "expires", some text =>
    match Date.ofText? text with
    | some moment => { attributes with expires := some moment }
    | none => attributes
  | _, _ => attributes

/-- Reads the text of a cookie. -/
def ofText? (text : String) : Option Attributes :=
  match text.toList.splitOn ';' with
  | pair :: rest =>
    match splitPair pair with
    | (name, some value) =>
      if name = "" then none
      else some (rest.foldl add ⟨name, value, none, none, false, false, none, none⟩)
    | (_, none) => none
  | [] => none

end Attributes

/-- The last moment that can be written with a year of four digits. -/
def lastMoment : Int := 253402300799

/-- The moment at which a cookie expires: its age counts before its date. -/
def expiryOf (attributes : Attributes) (now : Int) : Option Int :=
  match attributes.maxAge with
  | some 0 => some 0
  | some age => some (min lastMoment (now + age))
  | none => attributes.expires.map (min lastMoment)

/-- The text of a host by which it is stored.  An IPv6 address that stands for an IPv4 address
ends with that address. -/
def storedHost? (url : Url) : Option String :=
  match url.host with
  | some (.domain name) => if name = "" then none else some name
  | some (.ipv4 address) => some (Ipv4.text address)
  | some (.ipv6 address) =>
    match address.pieces with
    | [0, 0, 0, 0, 0, 0xFFFF, high, low] =>
      some ("[::ffff:" ++ Ipv4.text (high * 65536 + low) ++ "]")
    | _ => some ("[" ++ Ipv6.text address ++ "]")
  | _ => none

/-- The path of a cookie that names none: the directory of the request. -/
def directoryOf (url : Url) : String :=
  match url.path with
  | .rootless _ => "/"
  | .segments _ =>
    let above := ((url.path.chars.reverse.dropWhile (· != '/')).drop 1).reverse
    if above.isEmpty then "/" else String.ofList above

/-- The path of a cookie: the one that it names, if that starts with a slash. -/
def pathOf (attributes : Attributes) (url : Url) : String :=
  match attributes.path with
  | some path => if path.toList.head? = some '/' then path else directoryOf url
  | none => directoryOf url

/-- A domain name in ASCII, in which any character of ASCII may stand. -/
def asciiName? (raw : String) : Option String :=
  (Idna.toAscii? (fun _ => false) (Bytes.ofString (Blank.trim raw))).map String.ofList

/-- The domain of a cookie: the one that it names, if the host of the request belongs to it; the
host itself if it names none. -/
def scopeOf? (attributes : Attributes) (url : Url) : Option Scope :=
  match attributes.domain with
  | none => (storedHost? url).map .host
  | some raw =>
    match asciiName? raw with
    | none => none
    | some "" => (storedHost? url).map .host
    | some name =>
      if (Scope.under name).covers url.hostText? then some (.under name) else none

/-- The cookie that a response from an address sets. -/
def ofText? (text : String) (url : Url) (now : Int) : Option Cookie := do
  let attributes ← Attributes.ofText? text
  if attributes.httpOnly && !isHttp url then none
  let scope ← scopeOf? attributes url
  some {
    name := attributes.name
    value := attributes.value
    scope := scope
    path := pathOf attributes url
    secure := attributes.secure
    httpOnly := attributes.httpOnly
    expiry := expiryOf attributes now }

end Cookie
end Wiretap
