import Wiretap.Json.Token
import Wiretap.Text.Utf8

/-!
# Reading documents

Tokens are put together by a machine with a stack of open lists and objects.

* `Json.ofString?` and `Json.ofBytes?` read a document; at most 127 lists and
  objects may be open at a time.
* The members of an object come out in the order of their names; of several
  members with one name the last counts.
-/

namespace Wiretap
namespace Json

/-- An open list or object; what it holds so far is in reverse. -/
inductive Frame where
  | list (items : List Json)
  | object (members : List (String × Json)) (name : String)

/-- What may come next. -/
inductive Expect where
  /-- A value. -/
  | value
  /-- A value or the end of the list. -/
  | firstItem
  /-- A name or the end of the object. -/
  | firstName
  /-- A name. -/
  | name
  /-- A colon. -/
  | colon
  /-- A comma or the end of the list or object. -/
  | more
  /-- Nothing: the document is complete. -/
  | done (document : Json)

/-- The state of the machine. -/
structure Reader where
  /-- The open lists and objects, innermost first. -/
  stack : List Frame
  /-- What may come next. -/
  expect : Expect

/-- The members of an object without repetition, in the order of their names. -/
def orderMembers (reversed : List (String × Json)) : List (String × Json) :=
  (reversed.foldl (fun (kept : List (String × Json)) m =>
    if kept.any fun k => k.1 == m.1 then kept else m :: kept) []).mergeSort
    fun a b => a.1 ≤ b.1

/-- Puts a finished value where it belongs. -/
def Reader.place (value : Json) : List Frame → Reader
  | [] => ⟨[], .done value⟩
  | .list items :: stack => ⟨.list (value :: items) :: stack, .more⟩
  | .object members name :: stack => ⟨.object ((name, value) :: members) "" :: stack, .more⟩

/-- How many lists and objects may be open at a time. -/
def depthLimit : Nat := 127

/-- Reads the first token of a value. -/
def Reader.beginValue? (stack : List Frame) (token : Token) : Option Reader :=
  match token with
  | .listOpen =>
    if stack.length < depthLimit then some ⟨.list [] :: stack, .firstItem⟩ else none
  | .objectOpen =>
    if stack.length < depthLimit then some ⟨.object [] "" :: stack, .firstName⟩ else none
  | .text value => some (Reader.place (.text value) stack)
  | .leaf value => some (Reader.place value stack)
  | _ => none

/-- Closes the innermost list or object. -/
def Reader.close? (stack : List Frame) (token : Token) : Option Reader :=
  match token, stack with
  | .listClose, .list items :: rest => some (Reader.place (.list items.reverse) rest)
  | .objectClose, .object members _ :: rest =>
    some (Reader.place (.object (orderMembers members)) rest)
  | _, _ => none

/-- Reads one token. -/
def Reader.step? (r : Reader) (token : Token) : Option Reader :=
  match r.expect with
  | .value => Reader.beginValue? r.stack token
  | .firstItem =>
    match token with
    | .listClose => Reader.close? r.stack token
    | _ => Reader.beginValue? r.stack token
  | .firstName | .name =>
    match token, r.expect, r.stack with
    | .text name, _, .object members _ :: stack => some ⟨.object members name :: stack, .colon⟩
    | .objectClose, .firstName, _ => Reader.close? r.stack token
    | _, _, _ => none
  | .colon =>
    match token with
    | .colon => some ⟨r.stack, .value⟩
    | _ => none
  | .more =>
    match token, r.stack with
    | .comma, .list _ :: _ => some ⟨r.stack, .value⟩
    | .comma, .object _ _ :: _ => some ⟨r.stack, .name⟩
    | _, _ => Reader.close? r.stack token
  | .done _ => none

/-- Reads all tokens. -/
def Reader.run? : List Token → Reader → Option Reader
  | [], r => some r
  | token :: rest, r => (r.step? token).bind (Reader.run? rest)

/-- Reads a document. -/
def ofChars? (chars : List Char) : Option Json := do
  let tokens ← Token.ofChars? chars
  match (← Reader.run? tokens ⟨[], .value⟩).expect with
  | .done document => some document
  | _ => none

/-- Reads a document given as text. -/
def ofString? (text : String) : Option Json := ofChars? text.toList

/-- Reads a document given as UTF-8. -/
def ofBytes? (bytes : Bytes) : Option Json := (Utf8.decode? bytes).bind ofChars?

end Json
end Wiretap
