import Wiretap.Message.Request

/-!
# Requests on the wire

The bytes of a request in version 1.1.  A proxy is told the whole address, a
server only path and query.

* `Wire.request` writes a request.
-/

namespace Wiretap
namespace Wire

/-- The address as the first line shows it. -/
def target (proxied : Bool) (url : Url) : Bytes :=
  Bytes.ofChars (if proxied then Url.chars { url with fragment := none } else url.target)

/-- The headers, with the host and the length of the body unless they are given. -/
def headers (request : Request) : Header.Map :=
  let host := (request.url.hostText?.getD "") ++ String.ofList request.url.portPart
  let withHost :=
    match request.headers.contains .host, Header.Value.ofString? host with
    | false, some value => request.headers.insert .host value
    | _, _ => request.headers
  let length := (request.body.getD []).length
  match length, Header.Value.ofString? (toString length) with
  | 0, _ => withHost
  | _, some value =>
    if withHost.contains .contentLength then withHost
    else withHost.insert .contentLength value
  | _, none => withHost

/-- A header as a line. -/
def line (field : Header.Name × Header.Value) : Bytes :=
  field.1.bytes ++ Bytes.ofString ": " ++ field.2.bytes ++ Bytes.crlf

/-- A request, after which the connection is to be closed. -/
def request (proxied : Bool) (request : Request) : Bytes :=
  let fields := ((headers request).insert .connection (.known "close")).fields
  request.method.bytes ++ Bytes.space ++ target proxied request.url ++ Bytes.space
    ++ Bytes.ofString request.version.text ++ Bytes.crlf
    ++ fields.flatMap line ++ Bytes.crlf ++ request.body.getD []

end Wire
end Wiretap
