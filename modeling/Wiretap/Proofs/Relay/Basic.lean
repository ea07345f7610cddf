import Wiretap.Dump.Hook

/-!
# Callers, a queue and a worker

Several callers write records through handles to one hook, and its worker writes
what they have left in the queue.  Nobody waits for anybody: between two steps of
one of them the others may take any number of steps.

* `Dump.Relay` is a hook with its outputs, its callers, its worker, and a log of what has
  happened.
* `Relay.Move` is what may happen next; `Relay.step` lets it happen, and `Relay.run` lets one
  thing happen after the other.  A call takes several moves: the record is counted, then
  offered to the queue, and its count is taken back if the queue is full.  The worker
  takes a record, puts it into its output, and then lets go of it.
* `Relay.Change` lists what a move can do.  What holds of all changes holds of all moves.
-/

namespace Wiretap
namespace Dump

/-- A call that is under way. -/
structure Call where
  /-- What is to be written. -/
  job : Job
  /-- Whether the queue was found full. -/
  isRefused : Bool
deriving DecidableEq

/-- Something that has happened. -/
inductive Event where
  /-- A caller began to write a record, as the options of a snapshot say. -/
  | called (caller : Nat) (options : Options) (record : Bytes)
  /-- The record of a caller found room in the queue. -/
  | accepted (caller : Nat) (job : Job)
  /-- The record of a caller found the queue full. -/
  | refused (caller : Nat) (job : Job)
  /-- A caller warned that its record was dropped. -/
  | warned
  /-- The worker wrote a record to its output. -/
  | written (job : Job)
  /-- The worker was done with a record. -/
  | released (job : Job)
deriving DecidableEq

namespace Event

/-- The record that a caller begins to write, with the options. -/
def called? : Event → Option (Nat × Options × Bytes)
  | called caller options record => some (caller, options, record)
  | _ => none

/-- The record that a caller wants to be written in the background. -/
def asked? (caller : Nat) : Event → Option Job
  | called number options record =>
    if number = caller ∧ options.isAsync = true then options.job? record else none
  | _ => none

/-- The record of a caller of which it is settled whether it is accepted. -/
def settled? (caller : Nat) : Event → Option Job
  | accepted number job => if number = caller then some job else none
  | refused number job => if number = caller then some job else none
  | _ => none

/-- The record of a caller that is accepted. -/
def acceptedOf? (caller : Nat) : Event → Option Job
  | accepted number job => if number = caller then some job else none
  | _ => none

/-- The record that is accepted. -/
def accepted? : Event → Option Job
  | accepted _ job => some job
  | _ => none

/-- The record that is refused. -/
def refused? : Event → Option Job
  | refused _ job => some job
  | _ => none

/-- The record that the worker writes. -/
def written? : Event → Option Job
  | written job => some job
  | _ => none

/-- The record with which the worker is done. -/
def released? : Event → Option Job
  | released job => some job
  | _ => none

/-- What an event does to the outputs.  A caller whose options say so writes at once, and not in
the background. -/
def effect (outputs : Outputs) : Event → Outputs
  | called _ options record =>
    match options.job? record with
    | some job => if options.isAsync then outputs else outputs.record job.output job.record
    | none => outputs
  | warned => outputs.warn .queueFull
  | written job => outputs.record job.output job.record
  | _ => outputs

end Event

/-- A hook with those who write to it and its worker. -/
structure Relay where
  /-- The hook. -/
  hook : Hook
  /-- The outputs. -/
  outputs : Outputs
  /-- The call that each caller is in the midst of. -/
  callers : List (Option Call)
  /-- Whether the record in the hands of the worker has been written. -/
  isPut : Bool
  /-- How many handles lead to the hook. -/
  handles : Nat
  /-- Whether the worker has stopped. -/
  hasStopped : Bool
  /-- What has happened, latest last. -/
  log : List Event

namespace Relay

/-- A hook with one handle, a number of callers, and a worker that waits for records. -/
def start (cell callers : Nat) (outputs : Outputs) : Relay :=
  ⟨.onCell cell, outputs, List.replicate callers none, false, 1, false, []⟩

section Observations

variable (relay : Relay)

/-- How many calls are under way. -/
def underWay : Nat := relay.callers.countP Option.isSome

/-- How many callers have found the queue full and are about to give up. -/
def givingUp : Nat := relay.callers.countP fun call => call.any Call.isRefused

/-- The record of a caller of which it is not settled yet whether it is accepted. -/
def unsettled (caller : Nat) : List Job :=
  match relay.callers[caller]? with
  | some (some ⟨job, false⟩) => [job]
  | _ => []

/-- The record that the worker has written and not let go of yet. -/
def unreleased : List Job :=
  match relay.isPut with
  | true => relay.hook.inHand.toList
  | false => []

/-- The records that callers have begun to write, with the options. -/
def called : List (Nat × Options × Bytes) := relay.log.filterMap Event.called?

/-- The records that a caller wanted to be written in the background. -/
def asked (caller : Nat) : List Job := relay.log.filterMap (Event.asked? caller)

/-- The records of a caller of which it is settled whether they are accepted. -/
def settled (caller : Nat) : List Job := relay.log.filterMap (Event.settled? caller)

/-- The records of a caller that have been accepted. -/
def acceptedOf (caller : Nat) : List Job := relay.log.filterMap (Event.acceptedOf? caller)

/-- The records that have been accepted. -/
def accepted : List Job := relay.log.filterMap Event.accepted?

/-- The records that have been refused. -/
def refused : List Job := relay.log.filterMap Event.refused?

/-- The records that the worker has written. -/
def written : List Job := relay.log.filterMap Event.written?

/-- The records with which the worker is done. -/
def released : List Job := relay.log.filterMap Event.released?

end Observations

/-- What may happen next. -/
inductive Move where
  /-- A caller begins to write a record, as the options of a snapshot say. -/
  | call (caller : Nat) (options : Options) (record : Bytes)
  /-- A caller offers its record to the queue. -/
  | offer (caller : Nat)
  /-- A caller whose record was refused gives up. -/
  | giveUp (caller : Nat)
  /-- The worker takes a record. -/
  | take
  /-- The worker writes the record in its hands. -/
  | put
  /-- The worker lets go of the record that it has written. -/
  | release
  /-- A handle is copied. -/
  | copy
  /-- A handle is dropped. -/
  | drop
  /-- The worker stops. -/
  | stop

/-- Adds an event to the log. -/
def note (relay : Relay) (event : Event) : Relay := { relay with log := relay.log ++ [event] }

/-- Puts a caller into the midst of a call, or at rest. -/
def setCall (relay : Relay) (caller : Nat) (call : Option Call) : Relay :=
  { relay with callers := relay.callers.set caller call }

/-- A caller begins to write a record.  Only a record that is to be queued takes further moves. -/
def call (relay : Relay) (caller : Nat) (options : Options) (record : Bytes) : Relay :=
  let relay := relay.note (.called caller options record)
  match options.job? record with
  | none => relay
  | some job =>
    if options.isAsync then
      { relay.setCall caller (some ⟨job, false⟩) with hook := relay.hook.count }
    else { relay with outputs := relay.outputs.record job.output job.record }

/-- A caller offers its record to the queue. -/
def offer (relay : Relay) (caller : Nat) (job : Job) : Relay :=
  match relay.hook.offer? job with
  | some hook => { (relay.setCall caller none).note (.accepted caller job) with hook := hook }
  | none => (relay.setCall caller (some ⟨job, true⟩)).note (.refused caller job)

/-- A caller whose record was refused takes its count back and warns. -/
def giveUp (relay : Relay) (caller : Nat) : Relay :=
  { (relay.setCall caller none).note .warned with
    hook := relay.hook.uncount
    outputs := relay.outputs.warn .queueFull }

/-- Lets something happen.  What cannot happen changes nothing: a caller makes one call at a time
and needs a handle, the last handle is not dropped in the midst of a call, and the worker stops
only when it may. -/
def step (relay : Relay) : Move → Relay
  | .call caller options record =>
    if relay.callers[caller]? = some none ∧ 0 < relay.handles then
      relay.call caller options record
    else relay
  | .offer caller =>
    match relay.callers[caller]? with
    | some (some ⟨job, false⟩) => relay.offer caller job
    | _ => relay
  | .giveUp caller =>
    match relay.callers[caller]? with
    | some (some ⟨_, true⟩) => relay.giveUp caller
    | _ => relay
  | .take => if relay.hasStopped then relay else { relay with hook := relay.hook.take }
  | .put =>
    match relay.hook.inHand, relay.isPut with
    | some job, false =>
      { relay.note (.written job) with outputs := relay.hook.put relay.outputs, isPut := true }
    | _, _ => relay
  | .release =>
    match relay.hook.inHand, relay.isPut with
    | some job, true =>
      { relay.note (.released job) with hook := relay.hook.release, isPut := false }
    | _, _ => relay
  | .copy => if 0 < relay.handles then { relay with handles := relay.handles + 1 } else relay
  | .drop =>
    if 1 < relay.handles ∨ relay.underWay = 0 then { relay with handles := relay.handles - 1 }
    else relay
  | .stop => if relay.hook.mayStop relay.handles then { relay with hasStopped := true } else relay

/-- Lets one thing happen after the other. -/
def run (relay : Relay) (moves : List Move) : Relay := moves.foldl step relay

@[simp]
theorem run_nil (relay : Relay) : relay.run [] = relay := rfl

@[simp]
theorem run_cons (relay : Relay) (move : Move) (moves : List Move) :
    relay.run (move :: moves) = (relay.step move).run moves := rfl

/-- What a move can do. -/
inductive Change (relay : Relay) : Relay → Prop where
  /-- It cannot happen, or there is nothing to do. -/
  | rest : Change relay relay
  /-- A record is written at once, or there is nothing to write. -/
  | direct {caller : Nat} {options : Options} {record : Bytes} {outputs : Outputs}
      (hHandle : 0 < relay.handles)
      (hNone : ∀ number, Event.asked? number (.called caller options record) = none)
      (hOutputs : outputs = Event.effect relay.outputs (.called caller options record)) :
      Change relay { relay.note (.called caller options record) with outputs := outputs }
  /-- A record is counted. -/
  | counted {caller : Nat} {options : Options} {record : Bytes} {job : Job}
      (hHandle : 0 < relay.handles) (hIdle : relay.callers[caller]? = some none)
      (hAsync : options.isAsync = true) (hJob : options.job? record = some job) :
      Change relay { (relay.setCall caller (some ⟨job, false⟩)).note
          (.called caller options record) with
        hook := relay.hook.count }
  /-- A record is put into the queue. -/
  | accepted {caller : Nat} {job : Job} (hCall : relay.callers[caller]? = some (some ⟨job, false⟩))
      (hRoom : relay.hook.queue.length < queueLimit) :
      Change relay { (relay.setCall caller none).note (.accepted caller job) with
        hook := { relay.hook with queue := relay.hook.queue ++ [job] } }
  /-- A record finds the queue full. -/
  | refused {caller : Nat} {job : Job} (hCall : relay.callers[caller]? = some (some ⟨job, false⟩))
      (hFull : queueLimit ≤ relay.hook.queue.length) :
      Change relay ((relay.setCall caller (some ⟨job, true⟩)).note (.refused caller job))
  /-- A caller gives up. -/
  | gaveUp {caller : Nat} {job : Job} (hCall : relay.callers[caller]? = some (some ⟨job, true⟩)) :
      Change relay (relay.giveUp caller)
  /-- The worker takes a record. -/
  | taken {job : Job} {rest : List Job} (hRunning : relay.hasStopped = false)
      (hHand : relay.hook.inHand = none) (hQueue : relay.hook.queue = job :: rest) :
      Change relay { relay with hook := { relay.hook with queue := rest, inHand := some job } }
  /-- The worker writes the record in its hands. -/
  | written {job : Job} (hHand : relay.hook.inHand = some job) (hPut : relay.isPut = false) :
      Change relay { relay.note (.written job) with
        outputs := relay.outputs.record job.output job.record
        isPut := true }
  /-- The worker lets go of the record in its hands. -/
  | released {job : Job} (hHand : relay.hook.inHand = some job) (hPut : relay.isPut = true) :
      Change relay { relay.note (.released job) with
        hook := { relay.hook with inHand := none, pending := relay.hook.pending - 1 }
        isPut := false }
  /-- There are more or fewer handles. -/
  | handles {handles : Nat} (hOpen : relay.handles = 0 → handles = 0)
      (hQuiet : handles = 0 → relay.handles = 0 ∨ relay.underWay = 0) :
      Change relay { relay with handles := handles }
  /-- The worker stops. -/
  | stopped (hHandles : relay.handles = 0) (hQueue : relay.hook.queue = [])
      (hHand : relay.hook.inHand = none) : Change relay { relay with hasStopped := true }

section Moves

variable (relay : Relay)

theorem change_call {caller : Nat} (hHandle : 0 < relay.handles)
    (hIdle : relay.callers[caller]? = some none) (options : Options) (record : Bytes) :
    relay.Change (relay.call caller options record) := by
  cases hJob : options.job? record with
  | none =>
      simp only [call, hJob]
      exact .direct hHandle (by simp [Event.asked?, hJob]) (by simp [Event.effect, hJob])
  | some job =>
      simp only [call, hJob]
      split
      next hAsync => exact .counted hHandle hIdle hAsync hJob
      next hSync =>
        exact .direct hHandle (by simp [Event.asked?, hSync])
          (by simp [Event.effect, hJob, hSync, note])

theorem change_offer {caller : Nat} {job : Job}
    (hCall : relay.callers[caller]? = some (some ⟨job, false⟩)) :
    relay.Change (relay.offer caller job) := by
  rcases Nat.lt_or_ge relay.hook.queue.length queueLimit with hRoom | hFull
  · rw [offer, Hook.offer?_of_lt hRoom]
    exact .accepted hCall hRoom
  · rw [offer, Hook.offer?_of_le hFull]
    exact .refused hCall hFull

theorem change_take (hRunning : relay.hasStopped = false) :
    relay.Change { relay with hook := relay.hook.take } := by
  unfold Hook.take
  split
  next job rest hHand hQueue => exact .taken hRunning hHand hQueue
  · exact .rest

/-- Every move is one of the changes. -/
theorem change_step (move : Move) : relay.Change (relay.step move) := by
  cases move with
  | call caller options record =>
      rw [step]
      split
      next h => exact relay.change_call h.2 h.1 options record
      · exact .rest
  | offer caller =>
      rw [step]
      split
      next job hCall => exact relay.change_offer hCall
      · exact .rest
  | giveUp caller =>
      rw [step]
      split
      next job hCall => exact .gaveUp hCall
      · exact .rest
  | take =>
      rw [step]
      split
      · exact .rest
      next hRunning => exact relay.change_take (by simpa using hRunning)
  | put =>
      rw [step]
      split
      next job hHand hPut =>
        rw [Hook.put, hHand]
        exact .written hHand hPut
      · exact .rest
  | release =>
      rw [step]
      split
      next job hHand hPut =>
        rw [Hook.release, hHand]
        exact .released hHand hPut
      · exact .rest
  | copy =>
      rw [step]
      split
      next hHandle =>
        exact .handles (by omega) (by omega)
      · exact .rest
  | drop =>
      rw [step]
      split
      next hMay =>
        exact .handles (by omega) (by omega)
      · exact .rest
  | stop =>
      rw [step]
      split
      next hMay =>
        simp only [Hook.mayStop, Bool.and_eq_true, beq_iff_eq, List.isEmpty_iff,
          Option.isNone_iff_eq_none] at hMay
        exact .stopped hMay.1.1 hMay.1.2 hMay.2
      · exact .rest

end Moves

end Relay
end Dump
end Wiretap
