/-!
# Values of settings files

The values that a TOML text assigns to its keys.
-/

namespace Wiretap
namespace Toml

/-- A value. -/
inductive Value where
  /-- A string. -/
  | text (value : String)
  /-- An integer of 64 bits. -/
  | integer (value : Int)
  /-- A floating-point number, as it is written. -/
  | real (digits : String)
  /-- A truth value. -/
  | bool (value : Bool)
  /-- A date, a time or both, in normal form. -/
  | instant (value : String)
  /-- A list. -/
  | list (items : List Value)
  /-- A table with its entries in order; an inline one stands between braces. -/
  | table (isInline : Bool) (entries : List (String × Value))

end Toml
end Wiretap
