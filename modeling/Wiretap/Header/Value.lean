import Wiretap.Bytes

/-!
# Header values

A header value is any sequence of bytes other than control characters; the
horizontal tab is allowed.  Bytes above 127 are allowed too and have no fixed
meaning, so a value is text only if all of it is visible ASCII.

* `Value.ofBytes?` accepts exactly the legal values.
* `Value.visible?` is the text of a value without bytes above 126.
-/

namespace Wiretap
namespace Header

/-- Whether a byte may stand in a header value. -/
def isValueByte (b : UInt8) : Bool :=
  b == 9 || (32 ≤ b && b != 127)

/-- A header value. -/
structure Value where
  /-- The bytes of the value. -/
  bytes : Bytes
  /-- Only legal values exist. -/
  legal : bytes.all isValueByte = true
deriving DecidableEq

namespace Value

/-- Reads a header value. -/
def ofBytes? (raw : Bytes) : Option Value :=
  if h : raw.all isValueByte = true then some ⟨raw, h⟩ else none

/-- Reads a header value given as text. -/
def ofString? (raw : String) : Option Value :=
  ofBytes? (Bytes.ofString raw)

/-- The value that a text stands for. -/
def known (text : String) (legal : (Bytes.ofString text).all isValueByte = true := by decide) :
    Value :=
  ⟨Bytes.ofString text, legal⟩

/-- The text of a value of visible ASCII characters, spaces and tabs. -/
def visible? (value : Value) : Option String :=
  if value.bytes.all (· < 127) then
    some (String.ofList (value.bytes.map fun b => Char.ofNat b.toNat))
  else none

/-- A value is accepted as it is or not at all. -/
theorem ofBytes?_eq_some_iff {raw : Bytes} {value : Value} :
    ofBytes? raw = some value ↔ value.bytes = raw := by
  unfold ofBytes?
  constructor
  · intro h
    split at h
    · cases h; rfl
    · cases h
  · rintro rfl
    simp [value.legal]

end Value

/-- What is said of a header value that is not legal. -/
def illegalValueReason : String := "failed to parse header value"

end Header
end Wiretap
