import Wiretap.Duration
import Wiretap.Header.Map
import Wiretap.Method
import Wiretap.Url.Basic
import Wiretap.Version

/-!
# Requests

A request that is ready to be sent: all its parts are legal.
-/

namespace Wiretap

/-- A request that is ready to be sent. -/
structure Request where
  /-- What is to be done. -/
  method : Method
  /-- To what it is to be done. -/
  url : Url
  /-- The version of the protocol that is asked for. -/
  version : Version
  /-- The headers. -/
  headers : Header.Map
  /-- The body; an empty one differs from none. -/
  body : Option Bytes
  /-- The bound on the time until the whole response is there. -/
  timeout : Option Duration
deriving DecidableEq

namespace Request

/-- The greatest length of an address that can be requested. -/
def urlLimit : Nat := 65534

/-- Whether a character of a host keeps an address from being requested. -/
def isRefusedInHost (c : Char) : Bool :=
  c == '"' || c == '`' || c == '\x7b' || c == '\x7d'

/-- Whether the address can be requested at all. -/
def isSendable (request : Request) : Bool :=
  request.url.isHttp
    && request.url.chars.length ≤ urlLimit
    && !((request.url.hostText?.getD "").toList.any isRefusedInHost)

/-- Whether the version can be spoken over a plain connection. -/
def isSpoken (request : Request) : Bool :=
  request.version = .http10 || request.version = .http11

end Request
end Wiretap
