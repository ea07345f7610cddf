import Wiretap.Dump.Options

/-!
# Dump hooks

A hook (`Dumper`) writes the records of exchanges.  A record is written at once, or put
into a queue from which a worker takes one record after the other.  The queue is
bounded, so that a slow output costs records and never time.

* `Hook.write` (`write`) writes or enqueues a record.  `Hook.count`, `Hook.offer?` and
  `Hook.uncount` are what `Hook.enqueue` (`enqueue`) consists of.
* `Hook.take` and `Hook.deliver` are the two steps of the worker that `spawn_worker` starts;
  `Hook.step` is the one that is due.  `Hook.put` and `Hook.release` are what delivering
  consists of.
* `Hook.drain` runs the worker until nothing is left to do, for which `flush` waits;
  `Hook.isFlushed` is what `flush` looks at.
* `Hook.pending` (`pending`) counts the records that have been accepted and not yet written.
-/

namespace Wiretap
namespace Dump

/-- How many records may wait in a queue. -/
def queueLimit : Nat := 1024

/-- A record on its way to an output. -/
structure Job where
  /-- The output. -/
  output : Output
  /-- The record. -/
  record : Bytes
deriving DecidableEq

/-- A hook. -/
structure Hook where
  /-- The number of the cell that holds its options. -/
  cell : Nat
  /-- The records that wait, first one first. -/
  queue : List Job
  /-- The record that the worker has in its hands. -/
  inHand : Option Job
  /-- How many records have been accepted and not yet written. -/
  pending : Nat
deriving DecidableEq

/-- The record as it goes to the output of the options; there is nothing to do for an empty record,
or without an output. -/
def Options.job? (options : Options) (record : Bytes) : Option Job :=
  if record.isEmpty then none else options.output.map fun output => ⟨output, record⟩

theorem Options.job?_eq_some_iff {options : Options} {record : Bytes} {job : Job} :
    options.job? record = some job ↔
      record ≠ [] ∧ options.output = some job.output ∧ record = job.record := by
  obtain ⟨output, bytes⟩ := job
  cases record with
  | nil => simp [job?]
  | cons byte rest =>
      cases hOutput : options.output with
      | none => simp [job?, hOutput]
      | some target => simp [job?, hOutput]

namespace Hook

/-- A hook that reads its options from a cell. -/
def onCell (cell : Nat) : Hook := ⟨cell, [], none, 0⟩

/-- Counts a record that is to be put into the queue. -/
def count (hook : Hook) : Hook := { hook with pending := hook.pending + 1 }

/-- Takes the count of a record back. -/
def uncount (hook : Hook) : Hook := { hook with pending := hook.pending - 1 }

/-- Puts a record into the queue, if there is room. -/
def offer? (hook : Hook) (job : Job) : Option Hook :=
  if hook.queue.length < queueLimit then some { hook with queue := hook.queue ++ [job] } else none

/-- Puts a record into the queue, unless it is full.  It is counted before that is known, so that
no record is ever in the queue without being counted. -/
def enqueue (hook : Hook) (job : Job) (outputs : Outputs) : Hook × Outputs :=
  let counted := hook.count
  match counted.offer? job with
  | some next => (next, outputs)
  | none => (counted.uncount, outputs.warn .queueFull)

@[simp]
theorem uncount_count (hook : Hook) : hook.count.uncount = hook := rfl

theorem offer?_of_lt {hook : Hook} (h : hook.queue.length < queueLimit) (job : Job) :
    hook.offer? job = some { hook with queue := hook.queue ++ [job] } := if_pos h

theorem offer?_of_le {hook : Hook} (h : queueLimit ≤ hook.queue.length) (job : Job) :
    hook.offer? job = none := if_neg (Nat.not_lt.2 h)

/-- A record that finds room is put behind the others. -/
theorem enqueue_of_lt {hook : Hook} (h : hook.queue.length < queueLimit) (job : Job)
    (outputs : Outputs) :
    hook.enqueue job outputs =
      ({ hook with queue := hook.queue ++ [job], pending := hook.pending + 1 }, outputs) := by
  have hCounted : hook.count.queue.length < queueLimit := h
  rw [enqueue, offer?_of_lt hCounted job]
  rfl

/-- A record that finds no room costs a warning and nothing else. -/
theorem enqueue_of_le {hook : Hook} (h : queueLimit ≤ hook.queue.length) (job : Job)
    (outputs : Outputs) : hook.enqueue job outputs = (hook, outputs.warn .queueFull) := by
  have hCounted : queueLimit ≤ hook.count.queue.length := h
  rw [enqueue, offer?_of_le hCounted job]
  rfl

/-- Writes a record as options say; an empty record, or one without an output, is dropped. -/
def write (hook : Hook) (options : Options) (record : Bytes) (outputs : Outputs) :
    Hook × Outputs :=
  match options.job? record with
  | none => (hook, outputs)
  | some job =>
    if options.isAsync then hook.enqueue job outputs
    else (hook, outputs.record job.output job.record)

/-- The worker takes the next record into its hands. -/
def take (hook : Hook) : Hook :=
  match hook.inHand, hook.queue with
  | none, job :: rest => { hook with queue := rest, inHand := some job }
  | _, _ => hook

/-- The worker writes the record in its hands, whether that succeeds or not. -/
def put (hook : Hook) (outputs : Outputs) : Outputs :=
  match hook.inHand with
  | some job => outputs.record job.output job.record
  | none => outputs

/-- The worker lets go of the record in its hands and takes its count back. -/
def release (hook : Hook) : Hook :=
  match hook.inHand with
  | some _ => { hook with inHand := none }.uncount
  | none => hook

/-- The worker writes the record in its hands and is done with it. -/
def deliver (hook : Hook) (outputs : Outputs) : Hook × Outputs :=
  (hook.release, hook.put outputs)

/-- The worker takes its next step: it writes what it has in its hands, or else takes a record. -/
def step (hook : Hook) (outputs : Outputs) : Hook × Outputs :=
  if hook.inHand.isSome then hook.deliver outputs else (hook.take, outputs)

/-- The worker does its two steps a number of times, as long as a test on the record in its hands
is passed. -/
def work (passes : Job → Bool) : Nat → Hook → Outputs → Hook × Outputs
  | 0, hook, outputs => (hook, outputs)
  | times + 1, hook, outputs =>
    let ready := hook.take
    match ready.inHand with
    | some job =>
      -- A record that does not pass stays in hand and is still pending.
      if passes job then
        let (next, outputs) := ready.deliver outputs
        work passes times next outputs
      else (ready, outputs)
    | none => (ready, outputs)

/-- The worker writes everything that has been accepted. -/
def drain (hook : Hook) (outputs : Outputs) : Hook × Outputs :=
  work (fun _ => true) (hook.queue.length + 1) hook outputs

/-- Whether nothing is left to be written. -/
def isFlushed (hook : Hook) : Bool := hook.pending == 0

/-- Whether the worker may stop, given how many handles lead to the hook. -/
def mayStop (hook : Hook) (handles : Nat) : Bool :=
  handles == 0 && hook.queue.isEmpty && hook.inHand.isNone

/-- The hook as shown for inspection. -/
def inspect (hook : Hook) (options : Options) : String :=
  Inspect.record "Dumper" [("options", options.inspect), ("pending", toString hook.pending)]

end Hook
end Dump
end Wiretap
