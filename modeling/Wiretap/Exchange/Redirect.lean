import Wiretap.Network
import Wiretap.Text.Utf8
import Wiretap.Url.Reading

/-!
# Redirects

Some responses name another address at which to ask.  The next request is made
from the last one: some statuses turn it into a retrieval without body, and what
is meant for one host is not told to another.  All of this is the default of the
pool, which `build_pool` leaves as it is.

* `Request.next?` is the request that follows a response, if one does.
-/

namespace Wiretap
namespace Redirect

/-- How many redirects are followed. -/
def limit : Nat := 10

/-- What becomes of the request. -/
inductive Kind where
  /-- It is sent again as it is. -/
  | again
  /-- A submission becomes a retrieval; anything else is sent again as it is. -/
  | afterPost
  /-- It becomes a retrieval. -/
  | other
deriving DecidableEq

/-- The kind of redirect that a status asks for. -/
def kind? (status : Status) : Option Kind :=
  match status.code with
  | 301 => some .afterPost
  | 302 => some .afterPost
  | 303 => some .other
  | 307 => some .again
  | 308 => some .again
  | _ => none

/-- The address that a response names, read relative to the one that answered; it has no fragment. -/
def target? (url : Url) (arrival : Arrival) : Option Url := do
  let value ← arrival.headers.get? .location
  let text ← Utf8.text? value.bytes
  match Url.join url text with
  | .ok target => some { target with fragment := none }
  | .error _ => none

/-- The names of headers that describe a body. -/
def bodyNames : List Header.Name :=
  [.contentType, .contentLength, .contentEncoding, .transferEncoding]

/-- The names of headers that are meant for one host only. -/
def privateNames : List Header.Name :=
  [.authorization, .cookie, .cookie2, .proxyAuthorization,
    .wwwAuthenticate]

/-- Drops several names. -/
def eraseAll (headers : Header.Map) (names : List Header.Name) : Header.Map :=
  names.foldl Header.Map.erase headers

/-- A request as a retrieval; only the head is retrieved if that was asked for. -/
def asRetrieval (request : Request) : Request :=
  { request with
    method := if request.method = .head then .head else .get
    body := none
    headers := eraseAll request.headers bodyNames }

/-- A request as changed by a kind of redirect. -/
def change (kind : Kind) (request : Request) : Request :=
  match kind with
  | .again => request
  | .afterPost => if request.method = .post then asRetrieval request else request
  | .other => asRetrieval request

/-- The port of an address, written or implied. -/
def portOf (url : Url) : Option Nat :=
  url.port.or (Url.defaultPort? url.scheme)

/-- Whether two addresses are of the same host and port. -/
def sameHost (left right : Url) : Bool :=
  left.hostText? == right.hostText? && portOf left == portOf right

/-- What the next request tells of the address it comes from; a secret address is not told to an
open one. -/
def referer? (source target : Url) : Option Header.Value :=
  if source.scheme = "https" ∧ target.scheme = "http" then none
  else
    Header.Value.ofString? (Url.text { source with username := [], password := none, fragment := none })

/-- A request sent on to another address. -/
def sendOn (request : Request) (target : Url) : Request :=
  let kept :=
    if sameHost request.url target then request.headers
    else eraseAll request.headers privateNames
  let headers :=
    match referer? request.url target with
    | some value => kept.insert .referer value
    | none => kept
  { request with url := target, headers := headers }

end Redirect

/-- The request that follows a response, if one does. -/
def Request.next? (request : Request) (arrival : Arrival) : Option Request := do
  let kind ← Redirect.kind? arrival.status
  let target ← Redirect.target? request.url arrival
  return Redirect.sendOn (Redirect.change kind request) target

end Wiretap
