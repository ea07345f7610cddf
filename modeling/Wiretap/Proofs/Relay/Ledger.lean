import Mathlib.Data.List.Induction
import Wiretap.Proofs.Relay.Synchrony

/-!
# Whose records reach the outputs

A worker does not know whose record it has in its hands.  A ledger knows: it follows the log
of a relay and puts down for each record in the queue, and for each one that has reached
its output, which caller it comes from.

* `Ledger.ofLog` is the ledger of a log.
* `Ledger.queuedOf_ofLog` and `Ledger.directOf_ofLog` say what a ledger puts down for one
  caller: what was accepted of it, and what it has written at once.
* `Relay.ledger_run` says that the records in a ledger are those that wait and those that have
  been written.
* `Relay.Sound.outputs_of_done` says that nothing but what is put down as written has reached
  the outputs.
-/

namespace Wiretap
namespace Dump

/-- A record with its caller. -/
structure Delivery where
  /-- The caller. -/
  caller : Nat
  /-- The record with its output. -/
  job : Job
  /-- Whether it goes through the queue. -/
  isQueued : Bool
deriving DecidableEq

/-- Whose records wait, first one first, and whose have reached their output, latest last. -/
structure Ledger where
  /-- The records in the queue, behind the one that the worker is about to write. -/
  waiting : List Delivery
  /-- The records that have reached their output. -/
  done : List Delivery

/-- The records of a caller that went through the queue. -/
def queuedOf (caller : Nat) (deliveries : List Delivery) : List Job :=
  (deliveries.filter fun delivery => delivery.caller = caller ∧ delivery.isQueued = true).map
    Delivery.job

/-- The records of a caller that were written at once. -/
def directOf (caller : Nat) (deliveries : List Delivery) : List Job :=
  (deliveries.filter fun delivery => delivery.caller = caller ∧ delivery.isQueued = false).map
    Delivery.job

/-- The records of a caller. -/
def jobsOf (caller : Nat) (deliveries : List Delivery) : List Job :=
  (deliveries.filter fun delivery => delivery.caller = caller).map Delivery.job

section Columns

variable (caller : Nat) (first second : List Delivery)

@[simp]
theorem queuedOf_append :
    queuedOf caller (first ++ second) = queuedOf caller first ++ queuedOf caller second := by
  simp [queuedOf]

@[simp]
theorem directOf_append :
    directOf caller (first ++ second) = directOf caller first ++ directOf caller second := by
  simp [directOf]

end Columns

namespace Event

/-- The record that a caller writes at once. -/
def direct? (caller : Nat) : Event → Option Job
  | called number options record =>
    if number = caller ∧ options.isAsync = false then options.job? record else none
  | _ => none

/-- The record of a caller that is refused. -/
def refusedOf? (caller : Nat) : Event → Option Job
  | refused number job => if number = caller then some job else none
  | _ => none

/-- The record that reaches its output. -/
def delivered? : Event → Option Job
  | called _ options record => if options.isAsync then none else options.job? record
  | written job => some job
  | _ => none

end Event

namespace Ledger

/-- Follows one event. -/
def note (ledger : Ledger) : Event → Ledger
  | .called caller options record =>
    if options.isAsync then ledger
    else
      { ledger with
        done := ledger.done ++ (options.job? record).toList.map (⟨caller, ·, false⟩) }
  | .accepted caller job => { ledger with waiting := ledger.waiting ++ [⟨caller, job, true⟩] }
  | .written _ =>
    match ledger.waiting with
    | first :: rest => ⟨rest, ledger.done ++ [first]⟩
    | [] => ledger
  | _ => ledger

/-- The ledger of a log. -/
def ofLog (log : List Event) : Ledger := log.foldl note ⟨[], []⟩

@[simp]
theorem ofLog_append_singleton (log : List Event) (event : Event) :
    ofLog (log ++ [event]) = (ofLog log).note event := by
  simp [ofLog]

section Note

variable (ledger : Ledger)

/-- A call adds what it writes at once, and nothing else. -/
theorem note_called (caller : Nat) (options : Options) (record : Bytes) :
    ledger.note (.called caller options record) =
      { ledger with done := ledger.done ++
          (Event.called caller options record).delivered?.toList.map (⟨caller, ·, false⟩) } := by
  cases hAsync : options.isAsync <;> simp [note, Event.delivered?, hAsync]

/-- What is written has waited first in line. -/
theorem note_written (job : Job) :
    (ledger.note (.written job)).waiting = ledger.waiting.tail ∧
      (ledger.note (.written job)).done = ledger.done ++ ledger.waiting.head?.toList := by
  cases hWaiting : ledger.waiting <;> simp [note, hWaiting]

end Note

theorem isQueued_note {ledger : Ledger} (h : ∀ delivery ∈ ledger.waiting, delivery.isQueued = true)
    (event : Event) : ∀ delivery ∈ (ledger.note event).waiting, delivery.isQueued = true := by
  intro delivery hMem
  cases event with
  | called caller options record =>
      rw [note_called] at hMem
      exact h delivery hMem
  | accepted caller job =>
      rcases List.mem_append.mp hMem with hOld | hNew
      · exact h delivery hOld
      · rw [List.mem_singleton.mp hNew]
  | written job =>
      rw [(note_written _ _).1] at hMem
      exact h delivery (List.mem_of_mem_tail hMem)
  | _ => exact h delivery hMem

/-- All that waits goes through the queue. -/
theorem isQueued_of_waiting (log : List Event) :
    ∀ delivery ∈ (ofLog log).waiting, delivery.isQueued = true := by
  induction log using List.reverseRecOn with
  | nil => simp [ofLog]
  | append_singleton log event ih =>
      rw [ofLog_append_singleton]
      exact isQueued_note ih event

/-- What is put down for a caller as queued, written or not, is what was accepted of it. -/
theorem queuedOf_ofLog (caller : Nat) (log : List Event) :
    queuedOf caller (ofLog log).done ++ queuedOf caller (ofLog log).waiting =
      log.filterMap (Event.acceptedOf? caller) := by
  induction log using List.reverseRecOn with
  | nil => rfl
  | append_singleton log event ih =>
      rw [ofLog_append_singleton, List.filterMap_append, ← ih]
      cases event with
      | called number options record =>
          rw [note_called]
          have hNone (jobs : List Job) :
              queuedOf caller (jobs.map (⟨number, ·, false⟩)) = [] := by
            simp [queuedOf]
          simp [queuedOf_append, hNone, Event.acceptedOf?]
      | accepted number job =>
          by_cases hCaller : number = caller <;>
            simp [note, queuedOf, Event.acceptedOf?, hCaller]
      | written job =>
          -- The first in line goes from one list to the other; together they stay as they are.
          obtain ⟨hWaiting, hDone⟩ := note_written (ofLog log) job
          rw [hWaiting, hDone, queuedOf_append, List.append_assoc, ← queuedOf_append]
          cases (ofLog log).waiting <;> simp [Event.acceptedOf?]
      | _ => simp [note, Event.acceptedOf?]

/-- What is put down for a caller as written at once is what it has written at once. -/
theorem directOf_ofLog (caller : Nat) (log : List Event) :
    directOf caller (ofLog log).done = log.filterMap (Event.direct? caller) := by
  induction log using List.reverseRecOn with
  | nil => rfl
  | append_singleton log event ih =>
      rw [ofLog_append_singleton, List.filterMap_append, ← ih]
      cases event with
      | called number options record =>
          rw [note_called, directOf_append]
          by_cases hCaller : number = caller
          · cases hAsync : options.isAsync <;> cases hJob : options.job? record <;>
              simp [directOf, Event.delivered?, Event.direct?, hCaller, hAsync, hJob]
          · have hNone (jobs : List Job) :
                directOf caller (jobs.map (⟨number, ·, false⟩)) = [] := by
              simp [directOf, hCaller]
            simp [hNone, Event.direct?, hCaller]
      | written job =>
          rw [(note_written _ _).2, directOf_append]
          have hNone : directOf caller (ofLog log).waiting.head?.toList = [] := by
            cases hWaiting : (ofLog log).waiting with
            | nil => rfl
            | cons first rest =>
                have hFirst : first.isQueued = true :=
                  isQueued_of_waiting log first (by simp [hWaiting])
                simp [directOf, hFirst]
          simp [hNone, Event.direct?]
      | _ => simp [note, Event.direct?]

end Ledger

section Columns

variable {caller : Nat} {deliveries : List Delivery}

/-- A caller that writes nothing at once has all its records queued. -/
theorem jobsOf_eq_queuedOf (h : directOf caller deliveries = []) :
    jobsOf caller deliveries = queuedOf caller deliveries := by
  unfold jobsOf queuedOf directOf at *
  rw [List.map_eq_nil_iff, List.filter_eq_nil_iff] at h
  congr 1
  refine List.filter_congr fun delivery hMem => ?_
  have hNot := h delivery hMem
  cases hQueued : delivery.isQueued <;> simp_all

/-- A caller that has nothing queued writes all its records at once. -/
theorem jobsOf_eq_directOf (h : queuedOf caller deliveries = []) :
    jobsOf caller deliveries = directOf caller deliveries := by
  unfold jobsOf queuedOf directOf at *
  rw [List.map_eq_nil_iff, List.filter_eq_nil_iff] at h
  congr 1
  refine List.filter_congr fun delivery hMem => ?_
  have hNot := h delivery hMem
  cases hQueued : delivery.isQueued <;> simp_all

end Columns

namespace Relay

/-- The ledger of a relay. -/
def ledger (relay : Relay) : Ledger := .ofLog relay.log

/-- The records of a caller that have been refused. -/
def refusedOf (relay : Relay) (caller : Nat) : List Job :=
  relay.log.filterMap (Event.refusedOf? caller)

/-- The record in the hands of the worker that it has not written yet. -/
def unwritten (relay : Relay) : List Job :=
  match relay.isPut with
  | true => []
  | false => relay.hook.inHand.toList

/-- What is put down for a caller as queued is what was accepted of it. -/
theorem queuedOf_ledger (relay : Relay) (caller : Nat) :
    queuedOf caller relay.ledger.done ++ queuedOf caller relay.ledger.waiting =
      relay.acceptedOf caller :=
  Ledger.queuedOf_ofLog caller relay.log

/-- Nothing that waits is written at once. -/
theorem directOf_waiting (relay : Relay) (caller : Nat) :
    directOf caller relay.ledger.waiting = [] := by
  unfold directOf
  rw [List.map_eq_nil_iff, List.filter_eq_nil_iff]
  intro delivery hMem
  simp [Ledger.isQueued_of_waiting _ delivery hMem]

section Change

variable {outputs : Outputs} {relay next : Relay}

/-- Every change keeps the records that are put down as waiting those that wait. -/
theorem waiting_change (hChange : relay.Change next)
    (hPut : relay.isPut = true → relay.hook.inHand.isSome = true)
    (h : relay.ledger.waiting.map Delivery.job = relay.unwritten ++ relay.hook.queue) :
    next.ledger.waiting.map Delivery.job = next.unwritten ++ next.hook.queue := by
  unfold ledger unwritten at h ⊢
  cases hChange with
  | direct hHandle hNone hOutputs => simpa [note, Ledger.note_called] using h
  | counted hHandle hIdle hAsync hJob =>
      simpa [note, setCall, Ledger.note_called, Hook.count] using h
  | accepted hCall hRoom => simp [note, setCall, Ledger.note, h]
  | taken hRunning hHand hQueue =>
      have hNot : relay.isPut = false := by simpa [hHand] using hPut
      simpa [hHand, hNot, hQueue] using h
  | written hHand hNot =>
      rw [hNot, hHand] at h
      simp [note, (Ledger.note_written _ _).1, List.map_tail, h]
  | released hHand hIs => simpa [note, Ledger.note, hIs] using h
  | _ => simpa [note, setCall, giveUp, Ledger.note, Hook.uncount] using h

/-- Every change keeps the records that are put down as written those that have reached their
output. -/
theorem done_change (hChange : relay.Change next)
    (hWaiting : relay.ledger.waiting.map Delivery.job = relay.unwritten ++ relay.hook.queue)
    (h : relay.ledger.done.map Delivery.job = relay.log.filterMap Event.delivered?) :
    next.ledger.done.map Delivery.job = next.log.filterMap Event.delivered? := by
  unfold ledger unwritten at *
  cases hChange with
  | @direct caller options record outputs hHandle hNone hOutputs =>
      cases hSaid : (Event.called caller options record).delivered? <;>
        simp [note, Ledger.note_called, hSaid, h]
  | @counted caller options record job hHandle hIdle hAsync hJob =>
      cases hSaid : (Event.called caller options record).delivered? <;>
        simp [note, setCall, Ledger.note_called, hSaid, h]
  | @written job hHand hNot =>
      rw [hNot, hHand] at hWaiting
      have hFirst : (Ledger.ofLog relay.log).waiting.head?.toList.map Delivery.job = [job] := by
        cases hList : (Ledger.ofLog relay.log).waiting with
        | nil => simp [hList] at hWaiting
        | cons first rest =>
            rw [hList] at hWaiting
            simpa using (List.cons.inj hWaiting).1
      simp [note, (Ledger.note_written _ _).2, h, hFirst, Event.delivered?]
  | _ =>
      simpa [note, setCall, giveUp, Ledger.note, List.filterMap_cons, Event.delivered?] using h

/-- A record is refused only when the queue is full. -/
theorem Sound.full_of_refused (h : Sound outputs relay) (hChange : relay.Change next)
    (hRefused : next.refused ≠ relay.refused) : relay.hook.queue.length = queueLimit := by
  cases hChange with
  | refused hCall hFull => exact Nat.le_antisymm h.room hFull
  | _ =>
      refine absurd ?_ hRefused
      simp [refused, note, setCall, giveUp, List.filterMap_cons, Event.refused?]

/-- What a caller wants to be queued is accepted or refused, except for the record that it is in
the midst of offering. -/
theorem Sound.length_asked (h : Sound outputs relay) (caller : Nat) :
    (relay.asked caller).length =
      (relay.acceptedOf caller).length + (relay.refusedOf caller).length +
        (relay.unsettled caller).length := by
  have hSettled : (relay.settled caller).length =
      (relay.acceptedOf caller).length + (relay.refusedOf caller).length := by
    unfold settled acceptedOf refusedOf
    induction relay.log with
    | nil => rfl
    | cons event rest ih =>
        cases event with
        | accepted number job =>
            by_cases hEq : number = caller <;>
              simp [List.filterMap_cons, Event.settled?, Event.acceptedOf?, Event.refusedOf?, hEq,
                ih]
            omega
        | refused number job =>
            by_cases hEq : number = caller <;>
              simp [List.filterMap_cons, Event.settled?, Event.acceptedOf?, Event.refusedOf?, hEq,
                ih]
            omega
        | _ =>
            simpa [List.filterMap_cons, Event.settled?, Event.acceptedOf?, Event.refusedOf?]
              using ih
  rw [h.callers, List.length_append, hSettled]

/-- The records in a ledger are those that wait and those that have been written. -/
theorem ledger_run (h : Sound outputs relay)
    (hWaiting : relay.ledger.waiting.map Delivery.job = relay.unwritten ++ relay.hook.queue)
    (hDone : relay.ledger.done.map Delivery.job = relay.log.filterMap Event.delivered?)
    (moves : List Move) :
    let after := relay.run moves
    after.ledger.waiting.map Delivery.job = after.unwritten ++ after.hook.queue ∧
      after.ledger.done.map Delivery.job = after.log.filterMap Event.delivered? := by
  induction moves generalizing relay with
  | nil => exact ⟨hWaiting, hDone⟩
  | cons move rest ih =>
      have hChange := relay.change_step move
      exact ih (h.change hChange) (waiting_change hChange h.isPut hWaiting)
        (done_change hChange hWaiting hDone)

end Change

end Relay

namespace Outputs

/-- The outputs without the warnings. -/
def hushed (outputs : Outputs) : Outputs := { outputs with warnings := [] }

/-- Hands over a record, whether it is taken or not. -/
def handOver (outputs : Outputs) (job : Job) : Outputs :=
  (outputs.write job.output job.record).1

theorem hushed_deposit (outputs : Outputs) (place : Place) (offset : Nat) (bytes : Bytes) :
    (outputs.deposit place offset bytes).hushed = outputs.hushed.deposit place offset bytes := by
  cases place with
  | buffer name =>
      show (outputs.setBuffer name _).hushed = outputs.hushed.setBuffer name _
      unfold setBuffer
      change _ = if (outputs.buffers.any fun b => decide (b.1 = name)) = true then _ else _
      split <;> rfl
  | _ => rfl

/-- Warnings do not decide on what is written. -/
theorem hushed_handOver (outputs : Outputs) (job : Job) :
    (outputs.handOver job).hushed = outputs.hushed.handOver job := by
  have hSinks : outputs.hushed.sinks = outputs.sinks := rfl
  unfold handOver write
  rw [hSinks]
  cases outputs.sinks[job.output.sink]? with
  | none => rfl
  | some sink =>
      dsimp only
      rw [← hushed_deposit]
      rfl

theorem hushed_record (outputs : Outputs) (job : Job) :
    (outputs.record job.output job.record).hushed = outputs.hushed.handOver job := by
  rw [← hushed_handOver]
  unfold record
  dsimp only
  split <;> rfl

end Outputs

/-- What an event does to the outputs is that a record reaches one of them, or it is a warning. -/
theorem Event.hushed_effect (event : Event) (outputs : Outputs) :
    (event.effect outputs).hushed =
      event.delivered?.toList.foldl Outputs.handOver outputs.hushed := by
  cases event with
  | called caller options record =>
      cases hJob : options.job? record <;> cases hAsync : options.isAsync <;>
        simp [effect, delivered?, hJob, hAsync, Outputs.hushed_record]
  | written job => exact outputs.hushed_record job
  | _ => rfl

namespace Relay

/-- Nothing but what is put down as written has reached the outputs. -/
theorem Sound.outputs_of_done {outputs : Outputs} {relay : Relay} (h : Sound outputs relay)
    (hDone : relay.ledger.done.map Delivery.job = relay.log.filterMap Event.delivered?) :
    relay.outputs.hushed =
      (relay.ledger.done.map Delivery.job).foldl Outputs.handOver outputs.hushed := by
  rw [hDone, h.outputs]
  clear hDone h
  induction relay.log using List.reverseRecOn with
  | nil => rfl
  | append_singleton log event ih =>
      have hLast : [event].filterMap Event.delivered? = event.delivered?.toList := by
        cases hSaid : event.delivered? <;> simp [hSaid]
      rw [List.foldl_append, List.filterMap_append, List.foldl_append, ← ih, hLast]
      exact event.hushed_effect _

end Relay
end Dump
end Wiretap
