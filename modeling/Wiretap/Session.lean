import Wiretap.Cookie.Jar
import Wiretap.Dump.Hook
import Wiretap.Network

/-!
# Sessions

A session holds what outlives a single client and may be shared by several: the
outputs, the dump options, the hooks that read them, the cookie jars, and what
has been sent.  Clients and requests refer to these by number.

* `Session.options?` reads the dump options of a cell; `Session.setOptions` replaces them.
* `Session.policy?` reads the options of a hook (`snapshot`).
* `Session.attachHook` makes a hook that reads a cell.
* `Session.dump` writes a record through a hook.
* `Session.work` is one step of a worker.
* `Session.settle` lets every worker finish.
-/

namespace Wiretap

/-- What the client finds around itself. -/
structure Surroundings where
  /-- The network. -/
  network : Network
  /-- The list of public suffixes. -/
  suffixes : Cookie.Suffixes
  /-- The present moment, in seconds since 1970. -/
  now : Int

/-- What may be shared by several clients. -/
structure Session where
  /-- Everything that has been written. -/
  outputs : Dump.Outputs
  /-- The dump options, one cell for each client; a cell is empty until it is needed. -/
  cells : List (Option Dump.Options)
  /-- The hooks. -/
  hooks : List Dump.Hook
  /-- The cookie jars. -/
  jars : List Cookie.Jar
  /-- What has been sent, latest last. -/
  contacts : List Contact

namespace Session

/-- A session in which nothing has happened. -/
def onDisk (disk : Disk) : Session := ⟨.onDisk disk, [], [], [], []⟩

/-- The dump options in a cell. -/
def options? (session : Session) (cell : Nat) : Option Dump.Options :=
  (session.cells[cell]?).join

/-- Replaces the dump options in a cell. -/
def setOptions (session : Session) (cell : Nat) (options : Dump.Options) : Session :=
  { session with cells := session.cells.set cell (some options) }

/-- Adds a cell. -/
def addCell (session : Session) (content : Option Dump.Options) : Session × Nat :=
  ({ session with cells := session.cells ++ [content] }, session.cells.length)

/-- Adds an empty jar. -/
def addJar (session : Session) : Session × Nat :=
  ({ session with jars := session.jars ++ [.empty] }, session.jars.length)

/-- Makes a hook that reads a cell. -/
def attachHook (session : Session) (cell : Nat) : Session × Nat :=
  ({ session with hooks := session.hooks ++ [.onCell cell] }, session.hooks.length)

/-- A hook with the options that have been read through it. -/
abbrev Policy : Type := Nat × Dump.Options

/-- The dump options that a hook reads at this moment, with the hook. -/
def policy? (session : Session) (hook : Option Nat) : Option Policy := do
  let number ← hook
  let found ← session.hooks[number]?
  let options ← session.options? found.cell
  return (number, options)

/-- Does something with a hook and the outputs, if there is such a hook. -/
def onHook (session : Session) (number : Nat)
    (act : Dump.Hook → Dump.Outputs → Dump.Hook × Dump.Outputs) : Session :=
  match session.hooks[number]? with
  | none => session
  | some found =>
    let (next, outputs) := act found session.outputs
    { session with hooks := session.hooks.set number next, outputs := outputs }

section onHook

variable (session : Session) (number : Nat)
  (act : Dump.Hook → Dump.Outputs → Dump.Hook × Dump.Outputs)

@[simp]
theorem cells_onHook : (session.onHook number act).cells = session.cells := by
  unfold onHook
  split <;> rfl

@[simp]
theorem jars_onHook : (session.onHook number act).jars = session.jars := by
  unfold onHook
  split <;> rfl

@[simp]
theorem contacts_onHook : (session.onHook number act).contacts = session.contacts := by
  unfold onHook
  split <;> rfl

end onHook

/-- Writes a record through a hook, as options say. -/
def dump (session : Session) (hook : Nat) (options : Dump.Options) (record : Bytes) : Session :=
  session.onHook hook fun found outputs => found.write options record outputs

/-- The worker of a hook takes its next step. -/
def work (session : Session) (hook : Nat) : Session := session.onHook hook Dump.Hook.step

/-- The worker of a hook writes everything that has been accepted. -/
def drain (session : Session) (hook : Nat) : Session := session.onHook hook Dump.Hook.drain

/-- All workers write everything that has been accepted. -/
def settle (session : Session) : Session :=
  (List.range session.hooks.length).foldl drain session

/-- The jar of a number. -/
def jar? (session : Session) (jar : Option Nat) : Option Cookie.Jar :=
  jar.bind fun number => session.jars[number]?

/-- Replaces a jar, if there is one. -/
def setJar (session : Session) (number : Option Nat) (jar : Option Cookie.Jar) : Session :=
  match number, jar with
  | some number, some jar => { session with jars := session.jars.set number jar }
  | _, _ => session

/-- Adds a warning. -/
def warn (session : Session) (warning : Dump.Warning) : Session :=
  { session with outputs := session.outputs.warn warning }

@[simp]
theorem options?_setOptions_self (session : Session) {cell : Nat} (options : Dump.Options)
    (h : cell < session.cells.length) :
    (session.setOptions cell options).options? cell = some options := by
  simp [options?, setOptions, h]

@[simp]
theorem options?_setOptions_of_ne (session : Session) {cell other : Nat} (options : Dump.Options)
    (h : cell ≠ other) :
    (session.setOptions cell options).options? other = session.options? other := by
  simp [options?, setOptions, List.getElem?_set_ne h]

end Session
end Wiretap
