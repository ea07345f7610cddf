import Wiretap.Toml.Value

/-!
# Tables under construction

A settings file states its tables piece by piece: under headings, and under keys
with dots, which make tables on their way.  Each table keeps in mind how it came
about, because not every table may be added to.

* `Node.atTable?` goes down a path and acts on the table at its end.
* `Node.assign?` gives a value to a key; a table that has a heading, or came about
  on the way to one, is not reached by dots.
* `Node.value` is the finished value.
-/

namespace Wiretap
namespace Toml

/-- How a table came about. -/
inductive Origin where
  /-- By a heading, between braces, or as the whole file. -/
  | stated
  /-- On the way to a heading. -/
  | implied
  /-- On the way to a key. -/
  | dotted
deriving DecidableEq

/-- A value, a table that may still grow, or a list of such tables with the last one first. -/
inductive Node where
  | value (value : Value)
  | table (origin : Origin) (entries : List (String × Node))
  | tables (latestFirst : List (List (String × Node)))

namespace Node

/-- The entries of a table in order. -/
abbrev Entries : Type := List (String × Node)

/-- Changes what a key stands for; a new key comes last. -/
def alter? (key : String) (change : Option Node → Option Node) : Entries → Option Entries
  | [] => (change none).map fun node => [(key, node)]
  | (other, node) :: rest =>
    if other = key then (change (some node)).map fun changed => (other, changed) :: rest
    else (alter? key change rest).map ((other, node) :: ·)

/-- Goes down a path, by dots or on the way to a heading, and acts on the table at its end.
Missing tables are made; of a list of tables the last one is meant. -/
def atTable? (byDots : Bool) (act : Origin → Entries → Option Entries) :
    List String → Origin → Entries → Option Entries
  | [], origin, entries => act origin entries
  | key :: path, _, entries =>
    alter? key (fun
      | none =>
        let origin : Origin := if byDots then .dotted else .implied
        (atTable? byDots act path origin []).map (.table origin ·)
      | some (.value _) => none
      | some (.tables []) => none
      | some (.tables (latest :: earlier)) =>
        (atTable? byDots act path .stated latest).map fun changed => .tables (changed :: earlier)
      | some (.table origin inner) =>
        -- A table with a heading of its own is complete as far as dots are concerned.
        if byDots && origin = .stated then none
        else (atTable? byDots act path origin inner).map (.table origin ·)) entries

/-- Adds a new key. -/
def insertNew? (key : String) (node : Node) (entries : Entries) : Option Entries :=
  alter? key (fun
    | none => some node
    | some _ => none) entries

/-- Splits the last part off a key. -/
def splitLast? (key : List String) : Option (List String × String) :=
  key.getLast?.map fun last => (key.dropLast, last)

/-- Gives a value to a key with dots in a stated table. -/
def assign? (key : List String) (value : Value) (entries : Entries) : Option Entries := do
  let (path, last) ← splitLast? key
  let put : Origin → Entries → Option Entries := fun origin inner =>
    if (origin = .dotted) = (path = []) then none else insertNew? last (.value value) inner
  atTable? true put path .stated entries

mutual

/-- The finished value of a node. -/
def toValue (isInline : Bool) : Node → Value
  | .value leaf => leaf
  | .table _ entries => .table isInline (valuesOf isInline entries)
  | .tables latestFirst => .list (tablesOf isInline latestFirst).reverse

/-- The finished values of entries. -/
def valuesOf (isInline : Bool) : List (String × Node) → List (String × Value)
  | [] => []
  | (key, node) :: rest => (key, toValue isInline node) :: valuesOf isInline rest

/-- The finished values of a list of tables. -/
def tablesOf (isInline : Bool) : List (List (String × Node)) → List Value
  | [] => []
  | entries :: rest => .table isInline (valuesOf isInline entries) :: tablesOf isInline rest

end

end Node
end Toml
end Wiretap
