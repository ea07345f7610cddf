import Wiretap.Text.Ascii
import Wiretap.Url.Basic

/-!
# Cookies

A cookie has a name and a value, and says to which requests it belongs: by
domain, by path, and by what kind of connection they travel over.

* `Scope` is the domain of a cookie: one host, or a name with all names under it.
* `Cookie.isSentTo` tells whether a cookie belongs to a request at some time.
-/

namespace Wiretap
namespace Cookie

/-- Whether a host is a name and no IPv4 address. -/
def isName (host : String) : Bool := (Ipv6.dotted? host.toList).isNone

/-- Whether a host is a name or lies under it. -/
def isUnder (host name : String) : Bool :=
  host == name || (isName host && ('.' :: name.toList).isSuffixOf host.toList)

/-- Whether a request is one of the protocol. -/
def isHttp (url : Url) : Bool := "http".toList.isPrefixOf url.scheme.toList

/-- Whether an IPv6 address is that of the machine itself. -/
def isOwnIpv6 (address : Ipv6.Address) : Bool :=
  address.pieces == [0, 0, 0, 0, 0, 0, 0, 1]

/-- Whether a request cannot be overheard: it is encrypted, or never leaves the machine. -/
def isSecure (url : Url) : Bool :=
  url.scheme == "https" ||
    match url.host with
    | some (.domain name) => name == "localhost"
    | some (.ipv4 address) => address / 16777216 == 127
    | some (.ipv6 address) => isOwnIpv6 address
    | _ => false

/-- The domain of a cookie. -/
inductive Scope where
  /-- One host. -/
  | host (name : String)
  /-- A name and all names under it. -/
  | under (name : String)
deriving DecidableEq

namespace Scope

/-- The name of a domain. -/
def name : Scope → String
  | .host text => text
  | .under text => text

/-- Whether a host belongs to a domain. -/
def covers : Scope → Option String → Bool
  | .host text, some requested => text == requested
  | .under text, some requested => isUnder requested text
  | _, none => false

end Scope
end Cookie

/-- A cookie. -/
structure Cookie where
  /-- The name. -/
  name : String
  /-- The value. -/
  value : String
  /-- The domain. -/
  scope : Cookie.Scope
  /-- The path. -/
  path : String
  /-- Whether it belongs only to requests that cannot be overheard. -/
  secure : Bool
  /-- Whether it belongs only to requests of the protocol. -/
  httpOnly : Bool
  /-- The moment at which it expires, in seconds from the start of 1970. -/
  expiry : Option Int
deriving DecidableEq

namespace Cookie

/-- What tells a cookie from others: domain, path and name. -/
def key (cookie : Cookie) : String × String × String :=
  (cookie.scope.name, cookie.path, cookie.name)

/-- Whether a cookie has expired. -/
def isExpired (now : Int) (cookie : Cookie) : Bool :=
  match cookie.expiry with
  | some moment => moment ≤ now
  | none => false

/-- Whether a path belongs to a request: it is that of the request, or of a directory above. -/
def coversPath (path : String) (url : Url) : Bool :=
  match url.path with
  | .rootless _ => false
  | .segments _ =>
    let own := path.toList
    let requested := url.path.chars
    own == requested
      || (own.isPrefixOf requested
        && (own.getLast? == some '/' || requested[own.length]? == some '/'))

/-- Whether a cookie belongs to a request. -/
def isSentTo (cookie : Cookie) (url : Url) (now : Int) : Bool :=
  !cookie.isExpired now && coversPath cookie.path url && cookie.scope.covers url.hostText?
    && (!cookie.secure || isSecure url) && (!cookie.httpOnly || isHttp url)

/-- The cookie as it stands in a request. -/
def text (cookie : Cookie) : String := cookie.name ++ "=" ++ cookie.value

end Cookie
end Wiretap
