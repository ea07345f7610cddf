import Wiretap.Config.Basic
import Wiretap.Text.Ascii
import Wiretap.Text.Blank
import Wiretap.Url.Reading

/-!
# Routes

To which host a connection is made: that of the address, or that of a proxy.

* `Route.proxy?` finds the proxy of a request.
-/

namespace Wiretap
namespace Route

/-- What the environment says of proxies. -/
structure Environment where
  /-- The proxy for open connections. -/
  http : Option String
  /-- The proxy for all connections. -/
  all : Option String
  /-- The hosts that need no proxy, with commas between them. -/
  exempt : Option String
deriving DecidableEq

/-- The address of a proxy; a missing scheme is put in front. -/
def proxyUrl? (raw : String) : Option Url :=
  match Url.parse raw with
  | .ok url => if url.hostText?.isSome then some url else withScheme
  | .error _ => withScheme
where
  withScheme : Option Url :=
    match Url.parse ("http://" ++ raw) with
    | .ok url => some url
    | .error _ => none

/-- Whether a host is one that an entry exempts: the host itself, one below it, or any. -/
def isExemptBy (host entry : String) : Bool :=
  let entry := Ascii.lower (Blank.trim entry)
  let name := String.ofList (entry.toList.dropWhile (· == '.'))
  entry == "*" || (name != "" && (host == name || ("." ++ name).toList.isSuffixOf host.toList))

/-- Whether a host needs no proxy. -/
def isExempt (environment : Environment) (host : String) : Bool :=
  ((environment.exempt.getD "").splitOn ",").any (isExemptBy host)

/-- The proxy that the environment names for a host. -/
def ofEnvironment? (environment : Environment) (host : String) : Option Url :=
  if isExempt environment host then none
  else (environment.http.or environment.all).bind proxyUrl?

/-- The proxy of a request. -/
def proxy? (environment : Environment) (policy : Config.Proxy) (url : Url) : Option Url :=
  match policy with
  | .direct => none
  | .address raw => proxyUrl? raw
  | .environment => ofEnvironment? environment (url.hostText?.getD "")

/-- The host and port to which a connection for an address is made. -/
def endpoint (url : Url) : String × UInt16 :=
  let port := (url.port.or (Url.defaultPort? url.scheme)).getD 80
  let host := match url.host with
    | some (.ipv6 address) => Ipv6.text address
    | _ => url.hostText?.getD ""
  (host, port.toUInt16)

end Route
end Wiretap
