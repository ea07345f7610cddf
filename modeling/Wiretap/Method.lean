import Wiretap.Header.Name

/-!
# Request methods

A method is a non-empty token.  Case matters: `get` and `GET` are two methods.
-/

namespace Wiretap

/-- A request method. -/
structure Method where
  /-- The bytes of the method. -/
  bytes : Bytes
  /-- Only tokens are methods. -/
  legal : (!bytes.isEmpty && bytes.all isTokenByte) = true
deriving DecidableEq

namespace Method

/-- Reads a method. -/
def ofBytes? (raw : Bytes) : Option Method :=
  if h : (!raw.isEmpty && raw.all isTokenByte) = true then some ⟨raw, h⟩ else none

/-- Reads a method given as text. -/
def ofString? (raw : String) : Option Method :=
  ofBytes? (Bytes.ofString raw)

/-- Retrieves a resource. -/
def get : Method := ⟨[71, 69, 84], by decide⟩

/-- Hands a body to a resource. -/
def post : Method := ⟨[80, 79, 83, 84], by decide⟩

/-- Replaces a resource. -/
def put : Method := ⟨[80, 85, 84], by decide⟩

/-- Changes a resource in part. -/
def patch : Method := ⟨[80, 65, 84, 67, 72], by decide⟩

/-- Removes a resource. -/
def delete : Method := ⟨[68, 69, 76, 69, 84, 69], by decide⟩

/-- Retrieves the head of a response only. -/
def head : Method := ⟨[72, 69, 65, 68], by decide⟩

/-- What is said of a method that is no token. -/
def illegalReason : String := "invalid HTTP method"

end Method
end Wiretap
