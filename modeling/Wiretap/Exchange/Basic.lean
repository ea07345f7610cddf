import Wiretap.Exchange.Fetch
import Wiretap.MediaType.Parameters
import Wiretap.Message.Head
import Wiretap.Message.Response
import Wiretap.Transport.Basic

/-!
# Exchanges

One request with its response.  The dump options are read once, at the start,
and every record of the exchange follows them.  The request is written before it
is sent, the head of the response before its body is read.  How the body is read
depends on what becomes of it and on what the dump is to show.

* `Exchange.run` is `round_trip`: it takes a snapshot of the options (`Session.policy?`) and
  goes on with `Exchange.perform`.
* `Exchange.dumpRequest` (`dump_request`) writes what a policy asks for of a request.
* `Exchange.stream` (`discard_body`) reads a body piece by piece, `Arrival.readBytes` and
  `Arrival.readText` all of it.
* `Exchange.receiveBody` chooses between them, and `Exchange.receive` takes in a whole response.
-/

namespace Wiretap

namespace Arrival

/-- The media type of the body, if it is visible text. -/
def contentType? (arrival : Arrival) : Option String :=
  (arrival.headers.get? .contentType).bind Header.Value.visible?

/-- Whether the body is text by its media type. -/
def isText (arrival : Arrival) : Bool :=
  match arrival.contentType? with
  | some kind => MediaType.isText kind
  | none => false

/-- The body as received, whether it is complete or not. -/
def bytes (arrival : Arrival) : Bytes := arrival.chunks.flatten

/-- The character set of the body. -/
def charset (arrival : Arrival) : Charset :=
  match arrival.contentType? with
  | some kind => MediaType.charset kind
  | none => .utf8

/-- The body as text in UTF-8. -/
def decoded (arrival : Arrival) : Bytes :=
  Bytes.ofString (arrival.charset.decode arrival.bytes)

/-- Whether a treatment decodes the body. -/
def isDecodedBy (arrival : Arrival) (treatment : Treatment) : Bool :=
  treatment.autoDecode && arrival.isText

/-- Why the body is not whole, if it is not. -/
def halt? (arrival : Arrival) : Option Halt :=
  match arrival.ending with
  | .complete => none
  | .cut => some ⟨.body, false⟩
  | .stalled => some ⟨.body, true⟩

/-- All of the body as received, if it is whole. -/
def readBytes (arrival : Arrival) : Except Halt Bytes :=
  match arrival.halt? with
  | some halt => .error halt
  | none => .ok arrival.bytes

/-- All of the body as text, if it is whole. -/
def readText (arrival : Arrival) : Except Halt Bytes :=
  match arrival.halt? with
  | some halt => .error halt
  | none => .ok arrival.decoded

/-- The response that the caller gets, given what is kept of the body. -/
def response (arrival : Arrival) (url : Url) (body : Bytes) (isDiscarded : Bool) : Response :=
  ⟨arrival.status, arrival.version, arrival.headers, url, body, isDiscarded⟩

end Arrival

namespace Exchange

/-- A policy, if it asks for a part of the exchange. -/
def asking (policy : Option Session.Policy) (part : Dump.Flags → Bool) : Option Session.Policy :=
  policy.filter fun policy => part policy.2.flags

/-- Writes a record by a policy, if there is one. -/
def dump (policy : Option Session.Policy) (record : Bytes) (session : Session) : Session :=
  match policy with
  | some (hook, options) => session.dump hook options record
  | none => session

/-- Writes what a policy asks for of a request. -/
def dumpRequest (policy : Option Session.Policy) (request : Request) (session : Session) :
    Session :=
  let policy := asking policy Dump.Flags.capturesRequest
  let session :=
    dump (asking policy Dump.Flags.requestHead)
      (Head.request request.method request.url request.version request.headers) session
  match request.body with
  | some body => dump (asking policy Dump.Flags.requestBody) (Body.record body) session
  | none => session

/-- Reads a body piece by piece.  Each piece is written as it comes in, and the line end behind
the last one only if the body is whole. -/
def stream (policy : Option Session.Policy) (halt : Option Halt) :
    List Bytes → Session → Except Halt Unit × Session
  | [], session =>
    match halt with
    | some halt => (.error halt, session)
    | none => (.ok (), dump policy Bytes.crlf session)
  | chunk :: rest, session => stream policy halt rest (dump policy chunk session)

/-- Reads the body of a response, and writes it by a policy, if there is one.  A body that is
dropped is read piece by piece, unless decoded text is to be written. -/
def receiveBody (policy : Option Session.Policy) (treatment : Treatment)
    (timeout : Option Duration) (url : Url) (arrival : Arrival) (session : Session) :
    Except Failure Response × Session :=
  let isDecoded := arrival.isDecodedBy treatment
  if treatment.discardBody then
    if policy.isSome && isDecoded then
      match arrival.readText with
      | .error halt => (.error (halt.failure timeout), session)
      | .ok text => (.ok (arrival.response url [] true), dump policy (Body.record text) session)
    else
      match stream policy arrival.halt? arrival.chunks session with
      | (.error halt, session) => (.error (halt.failure timeout), session)
      | (.ok _, session) => (.ok (arrival.response url [] true), session)
  else
    match if isDecoded then arrival.readText else arrival.readBytes with
    | .error halt => (.error (halt.failure timeout), session)
    | .ok body => (.ok (arrival.response url body false), dump policy (Body.record body) session)

/-- Takes in a response: its head is written before its body is read. -/
def receive (policy : Option Session.Policy) (treatment : Treatment) (timeout : Option Duration)
    (url : Url) (arrival : Arrival) (session : Session) : Except Failure Response × Session :=
  let policy := asking policy Dump.Flags.capturesResponse
  let session :=
    dump (asking policy Dump.Flags.responseHead)
      (Head.response arrival.version arrival.status arrival.headers) session
  receiveBody (asking policy Dump.Flags.responseBody) treatment timeout url arrival session

/-- Sends a request and takes in its response, by a policy that is settled. -/
def perform (around : Surroundings) (pool : Pool) (treatment : Treatment)
    (policy : Option Session.Policy) (request : Request) (session : Session) :
    Except Failure Response × Session :=
  let session := dumpRequest policy request session
  -- The request has been written as it was built; what is added to it is not shown.
  let fetched :=
    fetch around pool.config.proxy request (session.jar? pool.jar) session.contacts
  let session := { session.setJar pool.jar fetched.jar with contacts := fetched.contacts }
  match fetched.outcome with
  | .error halt => (.error (halt.failure request.timeout), session)
  | .ok (url, arrival) => receive policy treatment request.timeout url arrival session

/-- Sends a request by what it keeps of a transport.  Options that change from here on count for
the next exchange. -/
def run (around : Surroundings) (handle : Transport.Handle) (request : Request)
    (session : Session) : Except Failure Response × Session :=
  perform around handle.pool handle.treatment (session.policy? handle.hook) request session

end Exchange
end Wiretap
