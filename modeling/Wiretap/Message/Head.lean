import Wiretap.Header.Map
import Wiretap.Method
import Wiretap.Status
import Wiretap.Version
import Wiretap.Url.Basic

/-!
# Heads and bodies as records

What a dump shows of a message: its head, line by line as it would travel in
version 1.1, and its body with a line end behind it.

* `Head.request` (`request_head`) writes the request line, a `Host` line unless the headers name
  a host, the headers, and an empty line.
* `Head.response` (`response_head`) writes the status line, the headers, and an empty line.
* `Head.fieldLines` (`write_headers`) writes the headers and the empty line.
* `Body.record` (`body`) writes a body.
-/

namespace Wiretap
namespace Head

/-- A header line. -/
def fieldLine (field : Header.Name × Header.Value) : Bytes :=
  field.1.bytes ++ Bytes.ofString ": " ++ field.2.bytes ++ Bytes.crlf

/-- The header lines and the empty line behind them. -/
def fieldLines (headers : Header.Map) : Bytes :=
  headers.fields.flatMap fieldLine ++ Bytes.crlf

/-- The method, the path with its query, and the version. -/
def requestLine (method : Method) (url : Url) (version : Version) : Bytes :=
  method.bytes ++ Bytes.space ++ Bytes.ofChars url.target ++ Bytes.space
    ++ Bytes.ofString version.text ++ Bytes.crlf

/-- The line that names the host of the address, with the port unless the scheme implies it. -/
def hostLine (url : Url) : Bytes :=
  match url.hostText? with
  | some host =>
    Bytes.ofString "Host: " ++ Bytes.ofString host ++ Bytes.ofChars url.portPart ++ Bytes.crlf
  | none => []

/-- The head of a request. -/
def request (method : Method) (url : Url) (version : Version) (headers : Header.Map) : Bytes :=
  requestLine method url version
    ++ (if headers.contains .host then [] else hostLine url)
    ++ fieldLines headers

/-- The version, the number and, if there is one, the registered phrase. -/
def statusLine (version : Version) (status : Status) : Bytes :=
  Bytes.ofString version.text ++ Bytes.space ++ Bytes.ofString (toString status.code)
    ++ (match status.phrase? with
      | some phrase => Bytes.space ++ Bytes.ofString phrase
      | none => [])
    ++ Bytes.crlf

/-- The head of a response. -/
def response (version : Version) (status : Status) (headers : Header.Map) : Bytes :=
  statusLine version status ++ fieldLines headers

end Head

/-- A body with a line end that sets it apart from the next record. -/
def Body.record (bytes : Bytes) : Bytes := bytes ++ Bytes.crlf

end Wiretap
