import Wiretap.Json.Basic
import Wiretap.Toml.Value

/-!
# Settings

Configurations come as JSON documents and as TOML files.  Both are first brought
into one form, in which the few differences between them are spelled out.

* A list is closed if it may not be longer than the section that it describes has
  fields: so are the lists of JSON.
* A table stands for a name among several in the way of its format: in JSON its
  one member is null, in TOML its first entry is empty.
-/

namespace Wiretap
namespace Config

/-- A value that a configuration is read from. -/
inductive Setting where
  /-- No value. -/
  | null
  /-- A truth value. -/
  | truth (value : Bool)
  /-- A whole number of 64 bits. -/
  | count (value : UInt64)
  /-- A text. -/
  | text (value : String)
  /-- A list. -/
  | list (closed : Bool) (items : List Setting)
  /-- A table with the name that it stands for, if any. -/
  | table (choice : Option String) (entries : List (String × Setting))
  /-- A value of another kind. -/
  | other

namespace Setting

/-- The number of a size, if it fits. -/
def ofNat (n : Nat) : Setting :=
  if n < Nat.pow 2 64 then .count (UInt64.ofNat n) else .other

/-- The name that an object stands for. -/
def choiceOfObject : List (String × Json) → Option String
  | [(name, .null)] => some name
  | _ => none

mutual

/-- The setting of a document. -/
def ofJson : Json → Setting
  | .null => .null
  | .bool value => .truth value
  | .number (.whole n) => ofNat n
  | .number _ => .other
  | .text value => .text value
  | .list items => .list true (ofJsonItems items)
  | .object members => .table (choiceOfObject members) (ofJsonMembers members)

/-- The settings of the items of a list. -/
def ofJsonItems : List Json → List Setting
  | [] => []
  | item :: rest => ofJson item :: ofJsonItems rest

/-- The settings of the members of an object. -/
def ofJsonMembers : List (String × Json) → List (String × Setting)
  | [] => []
  | (name, value) :: rest => (name, ofJson value) :: ofJsonMembers rest

end

/-- Whether a value is a list or table without items. -/
def isEmptyToml : Toml.Value → Bool
  | .list items => items.isEmpty
  | .table _ entries => entries.isEmpty
  | _ => false

/-- The name that a table stands for; between braces it must be the only entry. -/
def choiceOfTable (isInline : Bool) : List (String × Toml.Value) → Option String
  | [] => none
  | (name, value) :: rest =>
    if isEmptyToml value && (!isInline || rest.isEmpty) then some name else none

/-- The name under which a date or time stands in a table of its own. -/
def instantKey : String := "$__toml_private_datetime"

mutual

/-- The setting of a value of a file. -/
def ofToml : Toml.Value → Setting
  | .text value => .text value
  | .integer value => if 0 ≤ value then ofNat value.toNat else .other
  | .real _ => .other
  | .bool value => .truth value
  | .instant value => .table none [(instantKey, .text value)]
  | .list items => .list false (ofTomlItems items)
  | .table isInline entries => .table (choiceOfTable isInline entries) (ofTomlEntries entries)

/-- The settings of the items of a list. -/
def ofTomlItems : List Toml.Value → List Setting
  | [] => []
  | item :: rest => ofToml item :: ofTomlItems rest

/-- The settings of the entries of a table. -/
def ofTomlEntries : List (String × Toml.Value) → List (String × Setting)
  | [] => []
  | (name, value) :: rest => (name, ofToml value) :: ofTomlEntries rest

end

end Setting
end Config
end Wiretap
