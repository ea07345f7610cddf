import Wiretap.Config.Basic
import Wiretap.Message.Request
import Wiretap.Status

/-!
# The network

What comes back when a request is sent.  A network may answer each request as it
likes, depending on everything that has been sent before; nothing more is
assumed of it.

* `Reply` is what comes back for one request.
* `Contact` is a request that has been sent, with its reply.
* `Network` tells the reply to a request.
-/

namespace Wiretap

/-- How a body ends. -/
inductive Ending where
  /-- It is complete. -/
  | complete
  /-- It breaks off, or is malformed. -/
  | cut
  /-- It stops, and the connection stays open. -/
  | stalled
deriving DecidableEq

/-- A response on its arrival. -/
structure Arrival where
  /-- The version of the protocol. -/
  version : Version
  /-- How the request went. -/
  status : Status
  /-- The headers. -/
  headers : Header.Map
  /-- The pieces of the body, as they come in. -/
  chunks : List Bytes
  /-- How the body ends. -/
  ending : Ending
deriving DecidableEq

/-- What comes back for a request. -/
inductive Reply where
  /-- There is no connection, or it ends before a well-formed head has come. -/
  | refused
  /-- Nothing comes. -/
  | silent
  /-- A response comes. -/
  | answer (arrival : Arrival)
deriving DecidableEq

/-- A request that has been sent. -/
structure Contact where
  /-- How the connection found a proxy. -/
  route : Config.Proxy
  /-- The request. -/
  request : Request
  /-- What came back. -/
  reply : Reply
deriving DecidableEq

/-- Tells what comes back for a request over a route, given everything sent before, latest last. -/
abbrev Network : Type := List Contact → Config.Proxy → Request → Reply

namespace Network

/-- No connection can be made. -/
def unreachable : Network := fun _ _ _ => .refused

/-- Replies that come one after the other, and no connection after the last one. -/
def replay (replies : List Reply) : Network := fun before _ _ =>
  (replies[before.length]?).getD .refused

end Network
end Wiretap
