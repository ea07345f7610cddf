import Wiretap.Disk
import Wiretap.Text.Inspect

/-!
# Outputs

Records go to outputs: standard output, standard error, a buffer in memory, a
file, or a writer of the caller, which may refuse what it is given.

* `Output` (`DumpOutput`) is a handle; copies of it lead to the same sink.
* `Sink` is what a handle leads to.  Its rule says how much of a record it takes,
  and whether that counts as success, given all records before.
* `Outputs` holds everything that has been written, and the warnings that came up.
* `Outputs.write` (`write_record`) hands a record to a sink, and `Outputs.record` warns of a
  record that could not be written.
* `Outputs.openFile` (`create_file`) opens a file.
* `Target` (`OutputTarget`) names an output; `Target.ofText` (`parse`) reads it, and
  `Target.openIn` (`open`) opens it.
-/

namespace Wiretap
namespace Dump

/-- Where bytes end up. -/
inductive Place where
  | stdout
  | stderr
  | buffer (name : String)
  | file (location : Disk.Location)
deriving DecidableEq

/-- What becomes of a record. -/
structure Verdict where
  /-- How many of its bytes are taken. -/
  count : Nat
  /-- Whether it has been written and flushed. -/
  ok : Bool

/-- How a sink treats a record, given the records before, latest first. -/
abbrev Rule : Type := List Bytes → Bytes → Verdict

/-- Takes everything. -/
def Rule.takeAll : Rule := fun _ record => ⟨record.length, true⟩

/-- Takes a number of bytes in all and then fails; flushing may fail too. -/
def Rule.limited (limit : Nat) (flushFails : Bool) : Rule := fun before record =>
  let left := limit - before.flatten.length
  ⟨min left record.length, record.length ≤ left && !flushFails⟩

/-- What a handle leads to. -/
structure Sink where
  /-- Where the bytes end up. -/
  place : Place
  /-- How records are treated. -/
  rule : Rule
  /-- The records so far, latest first. -/
  before : List Bytes
  /-- How many bytes have been taken so far. -/
  offset : Nat

/-- A handle to a sink. -/
structure Output where
  /-- The name of the output in messages. -/
  label : String
  /-- The number of the sink. -/
  sink : Nat
deriving DecidableEq

/-- The handle to standard output, which is always open. -/
def Output.stdout : Output := ⟨"stdout", 0⟩

/-- The handle to standard error, which is always open. -/
def Output.stderr : Output := ⟨"stderr", 1⟩

/-- The handle as shown for inspection. -/
def Output.inspect (output : Output) : String :=
  "DumpOutput(" ++ Inspect.quoted output.label ++ ")"

/-- Something worth a warning. -/
inductive Warning where
  /-- An output did not take a record. -/
  | writeFailed
  /-- A record found the queue full. -/
  | queueFull
  /-- A proxy is of no use. -/
  | proxyRejected
  /-- A file could not be created. -/
  | fileNotCreated
  /-- An output could not be opened. -/
  | outputNotOpened
  /-- A copy of a transport shares the pool of its source. -/
  | poolShared
  /-- A message of a logger. -/
  | message (text : String)
deriving DecidableEq

/-- The text of a warning. -/
def Warning.text : Warning → String
  | .writeFailed => "Failed to write dump record"
  | .queueFull => "Dump queue full, dropping record"
  | .proxyRejected => "Proxy change rejected"
  | .fileNotCreated => "Failed to create dump file"
  | .outputNotOpened => "Failed to open dump output"
  | .poolShared => "Failed to build independent pool, sharing the source pool"
  | .message text => text

/-- Everything that has been written. -/
structure Outputs where
  /-- What standard output has received. -/
  stdout : Bytes
  /-- What standard error has received. -/
  stderr : Bytes
  /-- The buffers by name. -/
  buffers : List (String × Bytes)
  /-- The files. -/
  disk : Disk
  /-- The sinks that have been opened. -/
  sinks : List Sink
  /-- The warnings, in order. -/
  warnings : List Warning

namespace Outputs

/-- Nothing written yet; only the two standard outputs are open. -/
def onDisk (disk : Disk) : Outputs :=
  ⟨[], [], [], disk, [⟨.stdout, .takeAll, [], 0⟩, ⟨.stderr, .takeAll, [], 0⟩], []⟩

/-- What a buffer holds. -/
def buffer (outputs : Outputs) (name : String) : Bytes :=
  ((outputs.buffers.find? fun b => b.1 = name).map Prod.snd).getD []

/-- Sets what a buffer holds. -/
def setBuffer (outputs : Outputs) (name : String) (bytes : Bytes) : Outputs :=
  if outputs.buffers.any fun b => b.1 = name then
    { outputs with buffers := outputs.buffers.map fun b =>
        if b.1 = name then (name, bytes) else b }
  else { outputs with buffers := outputs.buffers ++ [(name, bytes)] }

/-- What a place holds. -/
def contents (outputs : Outputs) : Place → Bytes
  | .stdout => outputs.stdout
  | .stderr => outputs.stderr
  | .buffer name => outputs.buffer name
  | .file location => (outputs.disk.contents? location).getD []

/-- Puts bytes into a place: into a file at an offset, elsewhere at the end. -/
def deposit (outputs : Outputs) (place : Place) (offset : Nat) (bytes : Bytes) : Outputs :=
  match place with
  | .stdout => { outputs with stdout := outputs.stdout ++ bytes }
  | .stderr => { outputs with stderr := outputs.stderr ++ bytes }
  | .buffer name => outputs.setBuffer name (outputs.buffer name ++ bytes)
  | .file location => { outputs with disk := outputs.disk.writeAt location offset bytes }

/-- Adds a warning. -/
def warn (outputs : Outputs) (warning : Warning) : Outputs :=
  { outputs with warnings := outputs.warnings ++ [warning] }

/-- Opens a sink. -/
def openSink (outputs : Outputs) (label : String) (place : Place) (rule : Rule) :
    Outputs × Output :=
  ({ outputs with sinks := outputs.sinks ++ [⟨place, rule, [], 0⟩] },
    ⟨label, outputs.sinks.length⟩)

/-- Opens a buffer. -/
def openBuffer (outputs : Outputs) (name : String) : Outputs × Output :=
  outputs.openSink "memory" (.buffer name) .takeAll

/-- Creates a file, or empties it, and opens it under a label. -/
def openFileAs (outputs : Outputs) (label path : String) :
    Except Disk.Fault (Outputs × Output) := do
  let (disk, location) ← outputs.disk.create path
  .ok ({ outputs with disk := disk }.openSink label (.file location) .takeAll)

/-- Creates a file, or empties it, and opens it. -/
def openFile (outputs : Outputs) (path : String) : Except Disk.Fault (Outputs × Output) :=
  outputs.openFileAs path path

/-- Hands a record to a sink; the flag tells whether it succeeded. -/
def write (outputs : Outputs) (output : Output) (record : Bytes) : Outputs × Bool :=
  match outputs.sinks[output.sink]? with
  | none => (outputs, false)
  | some sink =>
    let verdict := sink.rule sink.before record
    let taken := record.take verdict.count
    let next : Sink :=
      { sink with before := record :: sink.before, offset := sink.offset + taken.length }
    ({ outputs.deposit sink.place sink.offset taken with
        sinks := outputs.sinks.set output.sink next },
      verdict.ok)

/-- Hands a record to a sink; a failure is worth a warning and nothing else. -/
def record (outputs : Outputs) (output : Output) (bytes : Bytes) : Outputs :=
  let result := outputs.write output bytes
  if result.2 then result.1 else result.1.warn .writeFailed

end Outputs

/-- Where an output is asked for by name. -/
inductive Target where
  | stdout
  | stderr
  | file (path : String)
deriving DecidableEq

namespace Target

/-- Reads the name of an output; a hyphen is standard output. -/
def ofText (raw : String) : Target :=
  match raw with
  | "stdout" => .stdout
  | "-" => .stdout
  | "stderr" => .stderr
  | _ => .file raw

/-- Opens a target; only files can fail. -/
def openIn (target : Target) (outputs : Outputs) : Except Disk.Fault (Outputs × Output) :=
  match target with
  | .stdout => .ok (outputs, .stdout)
  | .stderr => .ok (outputs, .stderr)
  | .file path => outputs.openFile path

end Target
end Dump
end Wiretap
