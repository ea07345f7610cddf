import Wiretap.Toml.Reading

/-!
# Settings files

A settings file is a list of assignments under headings.

* `Toml.ofString?` reads a whole file; nothing comes out if it is ill-formed.
* `Draft` holds what has been read so far: the finished part, and the table
  under the present heading, which joins the rest when the next heading comes.
-/

namespace Wiretap
namespace Toml

/-- What the present table is. -/
inductive Heading where
  /-- The whole file. -/
  | top
  /-- The table of a path. -/
  | table (path : List String)
  /-- One more table of the list of a path. -/
  | item (path : List String)

/-- A settings file of which a part has been read. -/
structure Draft where
  /-- The finished part. -/
  root : Node.Entries
  /-- What the present table is. -/
  heading : Heading
  /-- The entries of the present table. -/
  present : Node.Entries

namespace Draft

/-- A file of which nothing has been read. -/
def start : Draft := ⟨[], .top, []⟩

/-- The finished part with the present table. -/
def closed? (draft : Draft) : Option Node.Entries :=
  match draft.heading with
  | .top => some draft.present
  | .table path => do
    let (parent, key) ← Node.splitLast? path
    Node.atTable? false (fun _ => Node.insertNew? key (.table .stated draft.present)) parent
      .stated draft.root
  | .item path => do
    let (parent, key) ← Node.splitLast? path
    let push : Option Node → Option Node := fun
      | some (.tables earlier) => some (.tables (draft.present :: earlier))
      | _ => none
    Node.atTable? false (fun _ => Node.alter? key push) parent .stated draft.root

/-- The entries that a heading finds under its path: a table that came about on the way to
another heading is continued, anything else is refused. -/
def continued? (path : List String) (root : Node.Entries) : Option Node.Entries :=
  match path with
  | [] => some []
  | [key] =>
    match root.find? fun entry => entry.1 = key with
    | none => some []
    | some (_, .table .implied entries) => some entries
    | some _ => none
  | key :: rest =>
    match root.find? fun entry => entry.1 = key with
    | some (_, .table _ entries) => continued? rest entries
    | some (_, .tables (latest :: _)) => continued? rest latest
    | _ => some []

/-- Takes a heading of a table. -/
def openTable? (path : List String) (draft : Draft) : Option Draft := do
  let root ← draft.closed?
  let (parent, key) ← Node.splitLast? path
  let present ← continued? path root
  -- The entries move to the present table and come back when it is closed.
  let root ← Node.atTable? false (fun _ entries =>
    some (entries.filter fun entry => entry.1 ≠ key)) parent .stated root
  some ⟨root, .table path, present⟩

/-- Takes a heading of a list of tables. -/
def openItem? (path : List String) (draft : Draft) : Option Draft := do
  let root ← draft.closed?
  let (parent, key) ← Node.splitLast? path
  let ensure : Option Node → Option Node := fun
    | none => some (.tables [])
    | some (.tables earlier) => some (.tables earlier)
    | some _ => none
  let root ← Node.atTable? false (fun _ => Node.alter? key ensure) parent .stated root
  some ⟨root, .item path, []⟩

/-- Takes an assignment. -/
def assign? (key : List String) (value : Value) (draft : Draft) : Option Draft :=
  (Node.assign? key value draft.present).map fun present => { draft with present := present }

end Draft

/-- Reads one statement behind the blanks in front of it. -/
def readStatement (fuel : Nat) (draft : Draft) (chars : List Char) :
    Option (Draft × List Char) :=
  match chars with
  | '[' :: '[' :: rest => do
    let (path, rest) ← readKey rest
    match rest with
    | ']' :: ']' :: rest =>
      let rest ← statementEnd? rest
      let draft ← draft.openItem? path
      some (draft, rest)
    | _ => none
  | '[' :: rest => do
    let (path, rest) ← readKey rest
    match rest with
    | ']' :: rest =>
      let rest ← statementEnd? rest
      let draft ← draft.openTable? path
      some (draft, rest)
    | _ => none
  | _ =>
    match statementEnd? chars with
    | some rest => some (draft, rest)
    | none => do
      let (key, rest) ← readKey chars
      match rest with
      | '=' :: rest =>
        let (value, rest) ← readValue fuel depthLimit (skipSpaces rest)
        let rest ← statementEnd? rest
        let draft ← draft.assign? key value
        some (draft, rest)
      | _ => none

/-- Reads statements up to the end; there are fewer statements than `fuel`. -/
def readStatements (size : Nat) : Nat → Draft → List Char → Option Draft
  | 0, _, _ => none
  | fuel + 1, draft, chars =>
    match skipSpaces chars with
    | [] => some draft
    | start => (readStatement size draft start).bind fun found =>
      readStatements size fuel found.1 found.2

/-- Drops the mark that may stand in front of a file. -/
def dropMark : List Char → List Char
  | '\uFEFF' :: rest => rest
  | chars => chars

/-- Reads a settings file: the table of its entries. -/
def ofChars? (chars : List Char) : Option Value := do
  let size := chars.length + 1
  let draft ← readStatements size size .start (dropMark chars)
  let entries ← draft.closed?
  some (.table false (Node.valuesOf false entries))

/-- Reads a settings file given as text. -/
def ofString? (text : String) : Option Value := ofChars? text.toList

end Toml
end Wiretap
