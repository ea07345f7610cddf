import Mathlib.Data.List.Basic
import Wiretap.Proofs.Relay.Conservation

/-!
# Writing in the background and at once

A caller that writes its records in the background gets what it would get by writing
them at once, as long as the queue is never full: once all of them have been
written, the outputs are the same, and so are the warnings.  This does not
depend on when the worker takes its moves, nor on what the outputs do with the
records.

* `Relay.Sound.accepted_of_called` says that all records of a caller are accepted, in order.
* `Relay.Sound.outputs_of_called` says that the outputs have been given these, and nothing else.
* `Relay.background_agrees` puts both together.
-/

namespace Wiretap
namespace Dump

/-- The options with another choice between writing in the background and at once. -/
def Options.inBackground (options : Options) (isAsync : Bool) : Options :=
  { options with isAsync := isAsync }

@[simp]
theorem Options.job?_inBackground (options : Options) (isAsync : Bool) (record : Bytes) :
    (options.inBackground isAsync).job? record = options.job? record := rfl

/-- Writes records one after the other, each as its options say. -/
def Hook.writeAll (hook : Hook) (outputs : Outputs) (pairs : List (Options × Bytes)) :
    Hook × Outputs :=
  pairs.foldl (fun state pair => state.1.write pair.1 pair.2 state.2) (hook, outputs)

/-- Writes a record that is on its way. -/
def Outputs.receive (outputs : Outputs) (job : Job) : Outputs :=
  outputs.record job.output job.record

/-- What is written at once leaves the hook alone. -/
theorem Hook.write_at_once (hook : Hook) (options : Options) (record : Bytes) (outputs : Outputs) :
    hook.write (options.inBackground false) record outputs =
      (hook, match options.job? record with
        | some job => outputs.receive job
        | none => outputs) := by
  unfold write
  rw [Options.job?_inBackground]
  cases options.job? record <;> rfl

theorem Hook.writeAll_at_once (hook : Hook) (outputs : Outputs) (pairs : List (Options × Bytes)) :
    hook.writeAll outputs (pairs.map fun pair => (pair.1.inBackground false, pair.2)) =
      (hook, (pairs.filterMap fun pair => pair.1.job? pair.2).foldl Outputs.receive outputs) := by
  rw [List.foldl_filterMap]
  unfold writeAll
  induction pairs generalizing outputs with
  | nil => rfl
  | cons pair rest ih =>
      rw [List.map_cons, List.foldl_cons, write_at_once, ih, List.foldl_cons]
      dsimp only
      cases pair.1.job? pair.2 <;> rfl

namespace Relay

section Drained

variable {outputs : Outputs} {relay : Relay} {caller : Nat} {pairs : List (Options × Bytes)}

/-- What a caller asks for, given all that has been called for. -/
theorem asked_of_called
    (hCalled : relay.called = pairs.map fun pair => (caller, pair.1.inBackground true, pair.2))
    (number : Nat) :
    relay.asked number =
      if number = caller then pairs.filterMap fun pair => pair.1.job? pair.2 else [] := by
  have hAsked : relay.asked number = relay.called.filterMap fun call =>
      Event.asked? number (.called call.1 call.2.1 call.2.2) := by
    unfold asked called
    rw [List.filterMap_filterMap]
    congr 1
    funext event
    cases event <;> rfl
  rw [hAsked, hCalled, List.filterMap_map]
  split
  next hEq =>
    subst hEq
    congr 1
    funext pair
    simp [Event.asked?, Options.inBackground]
    rfl
  next hNe =>
    rw [List.filterMap_eq_nil_iff]
    intro pair _
    simp [Event.asked?, Ne.symm hNe]

/-- When nothing is pending, it is settled of every record whether it is accepted. -/
theorem Sound.settled_of_flushed (h : Sound outputs relay)
    (hFlushed : relay.hook.isFlushed = true) (number : Nat) :
    relay.settled number = relay.asked number := by
  have hPending := h.pending
  rw [beq_iff_eq.1 hFlushed] at hPending
  have hQuiet : relay.underWay = 0 := by omega
  have hNone : relay.unsettled number = [] := by
    unfold unsettled
    split
    next job hCall =>
      have hSome := List.countP_eq_zero.1 hQuiet _ (List.mem_of_getElem? hCall)
      exact absurd rfl hSome
    · rfl
  rw [h.callers number, hNone, List.append_nil]

/-- If the queue is never full, all records of a caller are accepted, one after the other. -/
theorem Sound.accepted_of_called (h : Sound outputs relay)
    (hCalled : relay.called = pairs.map fun pair => (caller, pair.1.inBackground true, pair.2))
    (hRefused : relay.refused = []) (hFlushed : relay.hook.isFlushed = true) :
    relay.accepted = pairs.filterMap fun pair => pair.1.job? pair.2 := by
  have hAsked := asked_of_called hCalled
  have hSettled : relay.settled caller = pairs.filterMap fun pair => pair.1.job? pair.2 := by
    rw [h.settled_of_flushed hFlushed, hAsked, if_pos rfl]
  rw [← hSettled]
  refine List.filterMap_congr fun event hEvent => ?_
  cases event with
  | accepted number job =>
      by_cases hEq : number = caller
      · simp [Event.accepted?, Event.settled?, hEq]
      · -- Nobody else has asked for anything.
        have hMem : job ∈ relay.settled number := List.mem_filterMap.2 ⟨_, hEvent, if_pos rfl⟩
        rw [h.settled_of_flushed hFlushed, hAsked, if_neg hEq] at hMem
        exact absurd hMem List.not_mem_nil
  | refused number job =>
      have hMem : job ∈ relay.refused := List.mem_filterMap.2 ⟨_, hEvent, rfl⟩
      rw [hRefused] at hMem
      exact absurd hMem List.not_mem_nil
  | _ => rfl

/-- If all records are written in the background and none is refused, the outputs are given what
the worker writes, and nothing else. -/
theorem Sound.outputs_of_called (h : Sound outputs relay)
    (hCalled : relay.called = pairs.map fun pair => (caller, pair.1.inBackground true, pair.2))
    (hRefused : relay.refused = []) :
    relay.outputs = relay.written.foldl Outputs.receive outputs := by
  -- Without refusals and writes at once, only the worker does something to the outputs.
  have hWarned : Event.warned ∉ relay.log := by
    have hCount := h.warned
    rw [hRefused, List.length_nil] at hCount
    exact List.count_eq_zero.1 (by omega)
  have hAsync (number : Nat) (options : Options) (record : Bytes)
      (hMem : Event.called number options record ∈ relay.log) : options.isAsync = true := by
    have hIn : (number, options, record) ∈ relay.called := List.mem_filterMap.2 ⟨_, hMem, rfl⟩
    rw [hCalled] at hIn
    obtain ⟨pair, -, hPair⟩ := List.mem_map.1 hIn
    cases hPair
    rfl
  rw [h.outputs, Relay.written, List.foldl_filterMap]
  refine List.foldl_ext _ _ _ fun outputs event hEvent => ?_
  cases event with
  | called number options record =>
      rw [Event.effect, hAsync number options record hEvent]
      cases options.job? record <;> rfl
  | warned => exact absurd hEvent hWarned
  | _ => rfl

end Drained

/-- Records are written in the background by one caller, and the queue is never found full.
Whatever moves the worker has taken in between, once nothing is pending the outputs are those that
come of writing the same records at once.  That goes for what has been written to each of them
and for the warnings. -/
theorem background_agrees (cell callers caller : Nat) (outputs : Outputs)
    (pairs : List (Options × Bytes)) (moves : List Move)
    (hCalled : ((start cell callers outputs).run moves).called =
      pairs.map fun pair => (caller, pair.1.inBackground true, pair.2))
    (hRefused : ((start cell callers outputs).run moves).refused = [])
    (hFlushed : ((start cell callers outputs).run moves).hook.isFlushed = true) :
    ((start cell callers outputs).run moves).outputs =
      ((Hook.onCell cell).writeAll outputs
        (pairs.map fun pair => (pair.1.inBackground false, pair.2))).2 := by
  have hSound : Sound outputs ((start cell callers outputs).run moves) :=
    sound_run (sound_start cell callers outputs) moves
  obtain ⟨hQueue, hHand⟩ := hSound.idle_of_flushed hFlushed
  rw [Hook.writeAll_at_once, hSound.outputs_of_called hCalled hRefused,
    hSound.written_of_idle hQueue hHand, hSound.accepted_of_called hCalled hRefused hFlushed]

/-- Two records go to a writer that takes three bytes in all; between them one record has no
output, and one is empty.  The worker is late, and both ways the writer is given the same. -/
theorem background_agrees_of_limited :
    let opened := (Outputs.onDisk (.ofHome [])).openSink "writer" (.buffer "log") (.limited 3 false)
    let writer : Options := ⟨.all, true, some opened.2⟩
    let pairs : List (Options × Bytes) :=
      [(writer, [97, 98]), (.empty, [99]), (writer, []), (writer, [100, 101])]
    let relay := (start 0 1 opened.1).run
      [.call 0 writer [97, 98], .offer 0, .call 0 (Options.empty.inBackground true) [99], .take,
        .call 0 writer [], .put, .call 0 writer [100, 101], .release, .offer 0, .take, .put,
        .release]
    relay.refused = [] ∧ relay.hook.isFlushed = true ∧
      relay.outputs = ((Hook.onCell 0).writeAll opened.1
        (pairs.map fun pair => (pair.1.inBackground false, pair.2))).2 ∧
      relay.outputs.contents (.buffer "log") = [97, 98, 100] ∧
      relay.outputs.warnings = [.writeFailed] := by
  intro opened writer pairs relay
  have hAgrees := background_agrees 0 1 0 opened.1 pairs
    [.call 0 writer [97, 98], .offer 0, .call 0 (Options.empty.inBackground true) [99], .take,
      .call 0 writer [], .put, .call 0 writer [100, 101], .release, .offer 0, .take, .put,
      .release] (by decide) (by decide) (by decide)
  exact ⟨by decide, by decide, hAgrees, by decide, by decide⟩

end Relay
end Dump
end Wiretap
