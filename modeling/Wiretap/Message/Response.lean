import Wiretap.Header.Map
import Wiretap.Json.Reading
import Wiretap.Status
import Wiretap.Text.Utf8
import Wiretap.Url.Basic
import Wiretap.Version

/-!
# Responses

A response with its whole body, or without it if the body has been dropped.
-/

namespace Wiretap

/-- A response. -/
structure Response where
  /-- How the request went. -/
  status : Status
  /-- The version of the protocol. -/
  version : Version
  /-- The headers. -/
  headers : Header.Map
  /-- The address that answered; it differs from the one asked for after a redirect. -/
  url : Url
  /-- The body; it is empty if it has been dropped. -/
  body : Bytes
  /-- Whether the body has been dropped. -/
  isDiscarded : Bool
deriving DecidableEq

namespace Response

/-- The first value of a name of any letter case, if it is visible text. -/
def header? (response : Response) (name : String) : Option String := do
  let name ← Header.Name.ofString? name
  let value ← response.headers.get? name
  value.visible?

/-- The body as text, with U+FFFD for what is not UTF-8. -/
def text (response : Response) : String := Utf8.textLossy response.body

/-- The body as a document. -/
def json? (response : Response) : Option Json := Json.ofBytes? response.body

end Response
end Wiretap
