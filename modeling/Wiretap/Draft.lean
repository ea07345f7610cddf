import Wiretap.Exchange.Basic
import Wiretap.Json.Printing

/-!
# Drafts of requests

A request is put together step by step.  No step fails; what is wrong is said
when the request is built.

* `Draft` is a `Request` on its way to the transport, `Draft.Call` is a step of its builder, and
  `Draft.apply` takes it.
* `Draft.headerValue?` (`header_value`) is the value that a name has for now: the last one given.
* `Draft.headerMap` is the loop of `build` over the headers, in a map that has been made with room
  for all of them; a program that asks for more room than there is breaks down.
* `Draft.build` gives the request, or the first thing that is wrong with it.
* `Draft.send` builds the request and sends it.
-/

namespace Wiretap

/-- A request that is being put together. -/
structure Draft where
  /-- What is kept of the transport. -/
  handle : Transport.Handle
  /-- What is to be done. -/
  method : Method
  /-- The text of the address. -/
  url : Option String
  /-- The headers as they were given, names with values. -/
  headers : List (String × String)
  /-- The body. -/
  body : Option Bytes
  /-- The version of the protocol. -/
  version : Version
  /-- The bound on time. -/
  timeout : Option Duration
  /-- What went wrong last in a step. -/
  failure : Option Failure
deriving DecidableEq

namespace Draft

/-- A draft without anything of its own. -/
def start (handle : Transport.Handle) (headers : List (String × String))
    (timeout : Option Duration) : Draft :=
  ⟨handle, .get, none, headers, none, .http11, timeout, none⟩

/-- A step. -/
inductive Call where
  /-- Sets the method. -/
  | method (method : Method)
  /-- Sets the method by a name of any letter case. -/
  | methodName (raw : String)
  /-- Sets the address. -/
  | url (raw : String)
  /-- Adds a header. -/
  | header (name value : String)
  /-- Adds headers. -/
  | headers (list : List (String × String))
  /-- Sets the body. -/
  | body (bytes : Bytes)
  /-- Sets the body to a document; a value that cannot be written as one has a reason instead. -/
  | json (document : Except String Json)
  /-- Sets the version. -/
  | version (version : Version)
  /-- Sets the bound on time; zero takes it away. -/
  | timeout (limit : Duration)

/-- The value that a name of any letter case has for now. -/
def headerValue? (draft : Draft) (name : String) : Option String :=
  (draft.headers.reverse.find? fun header => Ascii.sameIgnoringCase header.1 name).map Prod.snd

/-- The name of the header that says what a body is. -/
def contentTypeName : String := "content-type"

/-- Sets the method by a name of any letter case. -/
def setMethodName (draft : Draft) (raw : String) : Draft :=
  match Method.ofString? (Ascii.upper raw) with
  | some method => { draft with method := method }
  | none => { draft with failure := some (.invalidMethod raw) }

/-- Sets the body to a document and says so, unless it has been said what the body is. -/
def setJson (draft : Draft) (document : Json) : Draft :=
  { draft with
    headers :=
      if (draft.headerValue? contentTypeName).isNone then
        draft.headers ++ [(contentTypeName, "application/json")]
      else draft.headers
    body := some (Bytes.ofChars document.chars) }

/-- Takes a step. -/
def apply (draft : Draft) : Call → Draft
  | .method method => { draft with method := method }
  | .methodName raw => draft.setMethodName raw
  | .url raw => { draft with url := some raw }
  | .header name value => { draft with headers := draft.headers ++ [(name, value)] }
  | .headers list => { draft with headers := draft.headers ++ list }
  | .body bytes => { draft with body := some bytes }
  | .json (.ok document) => draft.setJson document
  | .json (.error reason) => { draft with failure := some (.json reason) }
  | .version version => { draft with version := version }
  | .timeout limit => { draft with timeout := limit.bound? }

/-- Takes steps in order. -/
def applyAll (draft : Draft) (calls : List Call) : Draft := calls.foldl apply draft

/-- Adds a header to a map; it takes the place of an earlier one of its name. -/
def addHeader (map : Header.Map) (header : String × String) : Except Failure Header.Map :=
  match Header.Name.ofString? header.1, Header.Value.ofString? header.2 with
  | none, _ => .error (.invalidHeader header.1 Header.illegalNameReason)
  | some _, none => .error (.invalidHeader header.1 Header.illegalValueReason)
  | some name, some value => .ok (map.insert name value)

/-- The map of headers, or the first header that is not legal.  Room is made for all of them before
any is looked at, one place for each, whether or not a name comes twice. -/
def headerMap (headers : List (String × String)) : Except Setback Header.Map :=
  match Header.Map.withCapacity? headers.length with
  | none => .error .panic
  | some map => (headers.foldlM addHeader map).mapError .failure

/-- If there is room for all of them, the headers are added one after the other. -/
theorem headerMap_of_le {headers : List (String × String)}
    (h : headers.length ≤ Header.Map.countLimit) :
    headerMap headers = (headers.foldlM addHeader .empty).mapError .failure := by
  rw [headerMap, Header.Map.withCapacity?_of_le h]

theorem headerMap_of_lt {headers : List (String × String)}
    (h : Header.Map.countLimit < headers.length) : headerMap headers = .error .panic := by
  rw [headerMap, Header.Map.withCapacity?_of_lt h]

/-- The request, or the first thing that is wrong with it. -/
def build (draft : Draft) : Except Setback Request :=
  match draft.failure, draft.url with
  | some failure, _ => .error (.failure failure)
  | none, none => .error (.failure .missingUrl)
  | none, some raw =>
    match Url.parse raw with
    | .error fault => .error (.failure (.invalidUrl fault))
    | .ok url => do
      -- The address is checked before the headers, and these in the order given.
      let headers ← headerMap draft.headers
      return {
        method := draft.method
        url := url
        version := draft.version
        headers := headers
        body := draft.body
        timeout := draft.timeout }

/-- How an exchange went, as it is told to the caller. -/
def told (outcome : Except Failure Response × Session) : Except Setback Response × Session :=
  (outcome.1.mapError .failure, outcome.2)

/-- An exchange gives a response if and only if the caller is told one. -/
theorem told_eq_ok_iff {outcome : Except Failure Response × Session} {response : Response} :
    (told outcome).1 = .ok response ↔ outcome.1 = .ok response := mapError_eq_ok_iff

/-- No exchange breaks the program down. -/
theorem told_ne_panic (outcome : Except Failure Response × Session) :
    (told outcome).1 ≠ .error .panic := by
  simp [told]

/-- Builds the request and sends it; one that cannot be built is not sent. -/
def send (around : Surroundings) (draft : Draft) (session : Session) :
    Except Setback Response × Session :=
  match draft.build with
  | .error setback => (.error setback, session)
  | .ok request => told (Exchange.run around draft.handle request session)

/-- What cannot be built leaves no trace. -/
theorem send_of_build_error {around : Surroundings} {draft : Draft} {session : Session}
    {setback : Setback} (h : draft.build = .error setback) :
    draft.send around session = (.error setback, session) := by
  simp [send, h]

theorem send_of_build_ok {around : Surroundings} {draft : Draft} {session : Session}
    {request : Request} (h : draft.build = .ok request) :
    draft.send around session = told (Exchange.run around draft.handle request session) := by
  simp [send, h]

/-- A program breaks down over a draft before anything is sent. -/
theorem send_snd_of_panic {around : Surroundings} {draft : Draft} {session : Session}
    (h : (draft.send around session).1 = .error .panic) :
    (draft.send around session).2 = session := by
  cases hBuild : draft.build with
  | error setback => rw [send_of_build_error hBuild]
  | ok request =>
      rw [send_of_build_ok hBuild] at h
      exact absurd h (told_ne_panic _)

end Draft
end Wiretap
