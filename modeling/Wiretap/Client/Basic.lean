import Wiretap.Draft
import Wiretap.Logger

/-!
# Clients

A client owns a transport and the defaults that go into every request: headers,
a bound on time, and dump options in a cell of their own.

* `Client.setHeader` (`common_header`) sets a header; names are compared without regard to case.
  `Client.setHeaders` is `common_headers`, `Client.setUserAgent` is `user_agent`, and
  `Client.header?` is `get_common_header`.
* `Client.setTimeout` (`timeout`), `Client.treat` (`response_options`) and `Client.setLogger`
  (`logger`) set what their names say.
* `Client.setProxy` (`proxy`) changes the policy on proxies, or reports why it cannot.
* `Client.copy` (`clone`) makes an independent client that shares the cookie jar.
* `Client.draft` (`r`) starts a request; later changes of the client do not reach it.
-/

namespace Wiretap

/-- A client. -/
structure Client where
  /-- Sends requests. -/
  transport : Transport
  /-- The number of the cell with the dump options. -/
  cell : Nat
  /-- The headers of every request, no two with the same name up to case. -/
  headers : List (String × String)
  /-- Where reports go. -/
  logger : Logger
  /-- The bound on the time of every request. -/
  timeout : Option Duration
deriving DecidableEq

namespace Client

/-- Whether exchanges are dumped. -/
def isArmed (client : Client) : Bool := client.transport.isArmed

/-- The dump options, if there are any yet. -/
def options? (client : Client) (session : Session) : Option Dump.Options :=
  session.options? client.cell

/-- Sends a message to the logger. -/
def report (client : Client) (message : String) (session : Session) : Session :=
  { session with outputs := client.logger.log message session.outputs }

/-- Sets a header among others; it takes the place of one of the same name up to case. -/
def withHeader (headers : List (String × String)) (name value : String) :
    List (String × String) :=
  (headers.filter fun header => !Ascii.sameIgnoringCase header.1 name) ++ [(name, value)]

/-- Sets a header of every request. -/
def setHeader (client : Client) (name value : String) : Client :=
  { client with headers := withHeader client.headers name value }

/-- Sets headers of every request, in order. -/
def setHeaders (client : Client) (headers : List (String × String)) : Client :=
  headers.foldl (fun client header => client.setHeader header.1 header.2) client

/-- The value that a name of any letter case has. -/
def header? (client : Client) (name : String) : Option String :=
  (client.headers.find? fun header => Ascii.sameIgnoringCase header.1 name).map Prod.snd

/-- Sets the name of the program in every request. -/
def setUserAgent (client : Client) (value : String) : Client :=
  client.setHeader Config.userAgentName value

/-- Sets the bound on time; zero takes it away. -/
def setTimeout (client : Client) (limit : Duration) : Client :=
  { client with timeout := limit.bound? }

/-- Changes how response bodies are treated. -/
def treat (client : Client) (changes : List Treatment.Change) : Client :=
  { client with transport := client.transport.treat changes }

/-- Sets the logger, if one is given. -/
def setLogger (client : Client) (logger : Option Logger) : Client :=
  { client with logger := logger.getD client.logger }

/-- Changes the policy on proxies.  A policy of no use is reported and changes nothing. -/
def setProxy (client : Client) (proxy : Config.Proxy) (session : Session) : Client × Session :=
  match client.transport.setProxy proxy with
  | .ok transport => ({ client with transport := transport }, session)
  | .error failure =>
    (client,
      client.report ("set proxy error: " ++ failure.message) (session.warn .proxyRejected))

/-- An independent client.  It has a pool, a cell and, if the source is armed, a hook of its own;
it shares the cookie jar. -/
def copy (client : Client) (session : Session) : Client × Session :=
  let options := client.options? session
  let (transport, session) := client.transport.copy session
  let (session, cell) := session.addCell options
  -- The hook of the copy reads the cell of the copy, never that of the source.
  let (transport, session) :=
    if client.isArmed && options.isSome then
      let (transport, session, _) := transport.attach cell session
      (transport, session)
    else (transport, session)
  ({ client with transport := transport, cell := cell }, session)

/-- The order of headers: by name, then by value. -/
def headerLe (left right : String × String) : Bool :=
  left.1 < right.1 || (left.1 == right.1 && left.2 ≤ right.2)

/-- The headers in their order. -/
def sortedHeaders (client : Client) : List (String × String) :=
  client.headers.mergeSort headerLe

/-- Starts a request with everything that the client gives to it. -/
def draft (client : Client) : Draft :=
  .start client.transport.handle client.sortedHeaders client.timeout

/-- The client as shown for inspection. -/
def inspect (client : Client) (session : Session) : String :=
  Inspect.openRecord "Client" [
    ("transport", client.transport.inspect),
    ("dump_options", Inspect.optional ((client.options? session).map Dump.Options.inspect)),
    ("common_headers", Inspect.dictionary
      (client.headers.map fun header => (Inspect.quoted header.1, Inspect.quoted header.2))),
    ("timeout", Inspect.optional (client.timeout.map Duration.text))]

end Client
end Wiretap
