import Wiretap.Header.Name
import Wiretap.Header.Value

/-!
# Header maps

The headers of one message.  A name may have several values; they are listed
together, at the place where the name first occurred.

* `Map.withCapacity?` is an empty map with room for a number of headers.
* `Map.append` adds a value to a name and keeps the earlier ones.
* `Map.insert` makes a value the only one of its name and keeps the place of the name.
* `Map.fields` lists every name with every value, in order.
-/

namespace Wiretap
namespace Header

/-- The headers of a message: each name with its values, in order of first occurrence. -/
structure Map where
  /-- The names with their values. -/
  groups : List (Name × List Value)
deriving DecidableEq

namespace Map

/-- No headers. -/
def empty : Map := ⟨[]⟩

/-- The number of places in the largest table that a map can have. -/
def placeLimit : Nat := 32768

/-- Whether there is a table with room for a number of headers; of each table a quarter stays
free. -/
def hasRoomFor (count : Nat) : Bool := count + count / 3 ≤ placeLimit

/-- The most headers that there can be room for. -/
def countLimit : Nat := 24576

theorem hasRoomFor_iff {count : Nat} : hasRoomFor count = true ↔ count ≤ countLimit := by
  rw [hasRoomFor, decide_eq_true_iff, placeLimit, countLimit]
  omega

/-- A map without headers, but with room for a number of them, if there can be so much. -/
def withCapacity? (count : Nat) : Option Map := if hasRoomFor count then some empty else none

theorem withCapacity?_of_le {count : Nat} (h : count ≤ countLimit) :
    withCapacity? count = some empty := if_pos (hasRoomFor_iff.mpr h)

theorem withCapacity?_of_lt {count : Nat} (h : countLimit < count) : withCapacity? count = none :=
  if_neg fun hRoom => Nat.not_le.mpr h (hasRoomFor_iff.mp hRoom)

/-- Adds a value to the values of a name in a list of groups. -/
def appendTo (name : Name) (value : Value) : List (Name × List Value) → List (Name × List Value)
  | [] => [(name, [value])]
  | (other, values) :: rest =>
    if other = name then (other, values ++ [value]) :: rest
    else (other, values) :: appendTo name value rest

/-- Makes a value the only one of a name in a list of groups. -/
def insertIn (name : Name) (value : Value) : List (Name × List Value) → List (Name × List Value)
  | [] => [(name, [value])]
  | (other, values) :: rest =>
    if other = name then (other, [value]) :: rest
    else (other, values) :: insertIn name value rest

/-- Adds a value to the values of a name. -/
def append (map : Map) (name : Name) (value : Value) : Map :=
  ⟨appendTo name value map.groups⟩

/-- Makes a value the only one of a name. -/
def insert (map : Map) (name : Name) (value : Value) : Map :=
  ⟨insertIn name value map.groups⟩

/-- Drops a name with all its values. -/
def erase (map : Map) (name : Name) : Map :=
  ⟨map.groups.filter fun group => group.1 ≠ name⟩

/-- All values of a name, in order. -/
def getAll (map : Map) (name : Name) : List Value :=
  match map.groups.find? fun group => group.1 = name with
  | some group => group.2
  | none => []

/-- The first value of a name. -/
def get? (map : Map) (name : Name) : Option Value :=
  (map.getAll name).head?

/-- Whether a name occurs. -/
def contains (map : Map) (name : Name) : Bool :=
  map.groups.any fun group => group.1 = name

/-- The names in order. -/
def names (map : Map) : List Name :=
  map.groups.map Prod.fst

/-- Every name with every value, in order. -/
def fields (map : Map) : List (Name × Value) :=
  map.groups.flatMap fun group => group.2.map fun value => (group.1, value)

@[simp]
theorem fields_empty : fields empty = [] := rfl

theorem getAll_insert_self (map : Map) (name : Name) (value : Value) :
    (map.insert name value).getAll name = [value] := by
  obtain ⟨groups⟩ := map
  induction groups with
  | nil => simp [insert, insertIn, getAll]
  | cons group rest ih =>
    obtain ⟨other, values⟩ := group
    by_cases h : other = name
    · simp [insert, insertIn, getAll, h]
    · simpa [insert, insertIn, getAll, h] using ih

theorem getAll_insert_of_ne (map : Map) {name other : Name} (value : Value) (h : other ≠ name) :
    (map.insert name value).getAll other = map.getAll other := by
  obtain ⟨groups⟩ := map
  induction groups with
  | nil => simp [insert, insertIn, getAll, h.symm]
  | cons group rest ih =>
    obtain ⟨found, values⟩ := group
    by_cases hf : found = name
    · subst hf
      simp [insert, insertIn, getAll, h.symm]
    · by_cases ho : found = other
      · subst ho
        simp [insert, insertIn, getAll, hf]
      · simpa [insert, insertIn, getAll, hf, ho] using ih

/-- Inserting keeps the order of the names and puts a new name last. -/
theorem names_insert (map : Map) (name : Name) (value : Value) :
    (map.insert name value).names =
      if name ∈ map.names then map.names else map.names ++ [name] := by
  obtain ⟨groups⟩ := map
  induction groups with
  | nil => simp [insert, insertIn, names]
  | cons group rest ih =>
    obtain ⟨other, values⟩ := group
    by_cases h : other = name
    · simp [insert, insertIn, names, h]
    · simp only [insert, insertIn, names] at ih ⊢
      rw [if_neg h]
      simp only [List.map_cons, ih, List.mem_cons, Ne.symm h, false_or]
      by_cases hm : name ∈ rest.map Prod.fst <;> simp only [hm, if_true, if_false, List.cons_append]

end Map
end Header
end Wiretap
