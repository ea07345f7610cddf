import Std.Data.HashMap
import Wiretap.Cookie.Suffix.Table

/-!
# Public suffixes

Names under a public suffix belong to different owners, so no cookie may be
shared by all of them.

* `Suffixes.Rule` is a rule, and `Suffixes.listedRules` are those of the list.
* `Suffixes.ofRules` takes in rules.
* `Suffixes.isPublic` tells whether a name is a public suffix by an explicit rule.

The labels of a name are looked up from the last one on.  Each label is looked up
by itself first and as an asterisk only if it does not occur; a rule with an
exclamation mark ends the search, and the suffix is then the part before it.
-/

namespace Wiretap
namespace Cookie

/-- What a rule says of a suffix. -/
inductive SuffixRule where
  /-- It is public. -/
  | listed
  /-- It is taken out again. -/
  | exempt
deriving DecidableEq

/-- A list of suffixes: the endings of its rules, with what a rule says of each.  The labels of an
ending stand with the last one first. -/
structure Suffixes where
  /-- The endings of rules; an ending without a rule of its own has none. -/
  endings : Std.HashMap (List String) (Option SuffixRule)

namespace Suffixes

/-- The labels of a name, the last one first. -/
def labels (name : String) : List String :=
  ((name.toList.splitOn '.').map String.ofList).reverse

/-- A rule. -/
structure Rule where
  /-- The labels, the last one first; an asterisk stands for any label. -/
  labels : List String
  /-- What it says of a suffix with these labels. -/
  verdict : SuffixRule
deriving DecidableEq

/-- The words of a text. -/
def words (text : String) : List (List Char) :=
  (text.toList.splitOnP Char.isWhitespace).filter fun word => !word.isEmpty

/-- The rule of a last label and what stands before it. -/
def Rule.under (last : String) (front : List Char) : Rule :=
  match front with
  | ['@'] => ⟨[last], .listed⟩
  | '!' :: rest => ⟨last :: Suffixes.labels (String.ofList rest), .exempt⟩
  | _ => ⟨last :: Suffixes.labels (String.ofList front), .listed⟩

/-- The rules of a group. -/
def rulesOf (group : String × String) : List Rule := (words group.2).map (Rule.under group.1)

/-- The rules of the list. -/
def listedRules : List Rule := listedSuffixes.flatMap rulesOf

/-- Adds the endings of a rule behind one that is there. -/
def addEndings (verdict : SuffixRule) :
    List String → List String → Suffixes → Suffixes
  | _, [], suffixes => suffixes
  | ending, label :: rest, suffixes =>
    let next := ending ++ [label]
    let known := (suffixes.endings[next]?).getD none
    let said := if rest.isEmpty then some verdict else known
    addEndings verdict next rest ⟨suffixes.endings.insert next said⟩

/-- Adds a rule. -/
def addRule (suffixes : Suffixes) (rule : Rule) : Suffixes :=
  addEndings rule.verdict [] rule.labels suffixes

/-- Takes in rules. -/
def ofRules (rules : List Rule) : Suffixes := rules.foldl addRule ⟨∅⟩

/-- The ending of a label before an ending: by itself, or as an asterisk. -/
def step? (suffixes : Suffixes) (ending : List String) (label : String) :
    Option (List String × Option SuffixRule) :=
  match suffixes.endings[ending ++ [label]]? with
  | some rule => some (ending ++ [label], rule)
  | none => (suffixes.endings[ending ++ ["*"]]?).map fun rule => (ending ++ ["*"], rule)

/-- How many labels the longest suffix has, if a rule lists it; `seen` labels have been looked at
already, and `best` of them are a suffix. -/
def longest (suffixes : Suffixes) (ending : List String) (seen : Nat) (best : Option Nat) :
    List String → Option Nat
  | [] => best
  | label :: rest =>
    match suffixes.step? ending label with
    | none => best
    | some (_, some .exempt) => some seen
    | some (next, some .listed) => longest suffixes next (seen + 1) (some (seen + 1)) rest
    | some (next, none) => longest suffixes next (seen + 1) best rest

/-- The labels of a name without the empty one behind a final dot, the last one first. -/
def properLabels (name : String) : List String :=
  match labels name with
  | "" :: rest => rest
  | all => all

/-- How many labels the public suffix of a name has, if an explicit rule lists it.  The last
label is looked up by itself only. -/
def suffixLength? (suffixes : Suffixes) (name : String) : Option Nat :=
  match properLabels name with
  | [] => none
  | last :: rest =>
    match suffixes.endings[[last]]? with
    | none => none
    | some rule => suffixes.longest [last] 1 (if rule = some .listed then some 1 else none) rest

/-- Whether a name is a public suffix. -/
def isPublic (suffixes : Suffixes) (name : String) : Bool :=
  suffixes.suffixLength? name == some (properLabels name).length

/-- The suffixes of the list. -/
def standard : Suffixes := ofRules listedRules

end Suffixes
end Cookie
end Wiretap
