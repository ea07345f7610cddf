import Wiretap.Bytes

/-!
# Header names

A header name is a non-empty token of at most 65535 bytes.  Names are compared
without regard to case, so a name is kept in its lowercase form and equality is
plain equality.

* `isTokenByte` is the class of bytes that tokens are made of.
* `Name.ofBytes?` accepts exactly the legal names and lowercases them.
-/

namespace Wiretap

/-- Whether a byte may stand in a token: a letter, a digit or one of fifteen marks. -/
def isTokenByte (b : UInt8) : Bool :=
  (48 ≤ b && b ≤ 57) || (65 ≤ b && b ≤ 90) || (97 ≤ b && b ≤ 122)
    || b == 33 || (35 ≤ b && b ≤ 39) || b == 42 || b == 43 || b == 45 || b == 46
    || b == 94 || b == 95 || b == 96 || b == 124 || b == 126

namespace Header

/-- Whether a byte sequence is a legal header name in lowercase form. -/
def legalName (bytes : Bytes) : Bool :=
  !bytes.isEmpty && bytes.length ≤ 65535
    && bytes.all fun b => isTokenByte b && !(65 ≤ b && b ≤ 90)

/-- A header name, in lowercase. -/
structure Name where
  /-- The lowercase bytes of the name. -/
  bytes : Bytes
  /-- Only legal names exist. -/
  legal : legalName bytes = true
deriving DecidableEq

namespace Name

/-- Reads a header name of any letter case. -/
def ofBytes? (raw : Bytes) : Option Name :=
  let lowered := raw.map Bytes.toLower
  if h : legalName lowered = true then some ⟨lowered, h⟩ else none

/-- Reads a header name given as text. -/
def ofString? (raw : String) : Option Name :=
  ofBytes? (Bytes.ofString raw)

/-- The name as text. -/
def text (name : Name) : String :=
  String.ofList (name.bytes.map fun b => Char.ofNat b.toNat)

/-- The name that a text in lowercase stands for. -/
def known (text : String) (legal : legalName (Bytes.ofString text) = true := by decide) : Name :=
  ⟨Bytes.ofString text, legal⟩

theorem bytes_ne_nil (name : Name) : name.bytes ≠ [] := by
  have h := name.legal
  simp only [legalName, Bool.and_eq_true, Bool.not_eq_true', List.isEmpty_eq_false_iff] at h
  exact h.1.1

/-- The name of the header that says which media types are wanted. -/
def accept : Name := known "accept"

/-- The name of the header that says how a body may be packed. -/
def acceptEncoding : Name := known "accept-encoding"

/-- The name of the header that shows a right to the resource. -/
def authorization : Name := known "authorization"

/-- The name of the header that says what becomes of the connection. -/
def connection : Name := known "connection"

/-- The name of the header that says how a body is packed. -/
def contentEncoding : Name := known "content-encoding"

/-- The name of the header that gives the length of a body. -/
def contentLength : Name := known "content-length"

/-- The name of the header that gives the media type of a body. -/
def contentType : Name := known "content-type"

/-- The name of the header that carries cookies to their owner. -/
def cookie : Name := known "cookie"

/-- The name of the header that carried cookies of an older form. -/
def cookie2 : Name := known "cookie2"

/-- The name of the header that names the host of a request. -/
def host : Name := known "host"

/-- The name of the header that names another address. -/
def location : Name := known "location"

/-- The name of the header that shows a right to use a proxy. -/
def proxyAuthorization : Name := known "proxy-authorization"

/-- The name of the header that asks for a part of a resource. -/
def range : Name := known "range"

/-- The name of the header that names the address that a request comes from. -/
def referer : Name := known "referer"

/-- The name of the header that hands out a cookie. -/
def setCookie : Name := known "set-cookie"

/-- The name of the header that says how a body is cut for its way. -/
def transferEncoding : Name := known "transfer-encoding"

/-- The name of the header that asks for a right to be shown. -/
def wwwAuthenticate : Name := known "www-authenticate"

end Name

/-- What is said of a header name that is not legal. -/
def illegalNameReason : String := "invalid HTTP header name"

end Header
end Wiretap
