import Wiretap.Text.Ascii
import Wiretap.Text.Blank

/-!
# Media types

The part of a content type in front of its parameters says whether a body is
text.

* `isText` (`is_text_content`) is the class of media types whose bodies are text.
-/

namespace Wiretap
namespace MediaType

/-- The media type without parameters, trimmed and in lowercase. -/
def essence (contentType : String) : String :=
  Ascii.lower (Blank.trim (String.ofList (contentType.toList.takeWhile (· != ';'))))

/-- Whether a body of a content type is text. -/
def isText (contentType : String) : Bool :=
  let kind := (essence contentType).toList
  "text/".toList.isPrefixOf kind || "json".toList.isSuffixOf kind
    || "xml".toList.isSuffixOf kind || "javascript".toList.isSuffixOf kind
    || kind == "application/x-www-form-urlencoded".toList

end MediaType
end Wiretap
