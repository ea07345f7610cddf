import Wiretap.Proofs.Relay.Basic

/-!
# Records are neither lost nor doubled

Whatever callers and worker do, and in whatever order, the records that have been
accepted are those with which the worker is done, then the one in its hands, then
the queue.

* `Relay.Sound` says this and what goes with it: in which order the records of a caller are
  settled, what the worker has written, and what the count of pending records is.
* Each part of it has a lemma which says that every change keeps it; `Relay.sound_run` says that
  all moves do.
* `Sound.run_call` and `Relay.run_deliver` say what a call or a worker does that nobody comes in
  between; `Sound.stops_after_rounds` says that the worker can always finish.
* `Relay.run_is_faithful` draws the conclusions.
-/

namespace Wiretap

section Replacing

variable {α : Type} {list : List α} {n : Nat} {old : α}

theorem getElem?_set_of_some (h : list[n]? = some old) (new : α) :
    (list.set n new)[n]? = some new :=
  List.getElem?_set_self (List.getElem?_eq_some_iff.1 h).1

/-- A list is as before once the old element is back in its place. -/
theorem set_of_some (h : list[n]? = some old) : list.set n old = list := by
  obtain ⟨hLt, rfl⟩ := List.getElem?_eq_some_iff.1 h
  exact List.set_getElem_self hLt

/-- How a count changes with one element. -/
theorem countP_set_of_some (p : α → Bool) (h : list[n]? = some old) (new : α) :
    (list.set n new).countP p + (p old).toNat = list.countP p + (p new).toNat := by
  induction list generalizing n with
  | nil => cases h
  | cons head rest ih =>
      cases n with
      | zero =>
          obtain rfl : head = old := Option.some.inj h
          rw [List.set_cons_zero, List.countP_cons, List.countP_cons]
          cases p head <;> cases p new <;> simp
      | succ n =>
          have hRest := ih (n := n) h
          rw [List.set_cons_succ, List.countP_cons, List.countP_cons]
          omega

end Replacing

namespace Dump
namespace Relay

/-- The bookkeeping of a hook is right. -/
structure Sound (outputs : Outputs) (relay : Relay) : Prop where
  /-- No accepted record is lost, doubled, or moved. -/
  accepted : relay.accepted =
    relay.released ++ relay.hook.inHand.toList ++ relay.hook.queue
  /-- The worker writes each record once, and before it lets go of it. -/
  written : relay.written = relay.released ++ relay.unreleased
  /-- The records of a caller are settled one after the other, as it asks for them to be written. -/
  callers : ∀ caller, relay.asked caller = relay.settled caller ++ relay.unsettled caller
  /-- Nothing happens to the outputs but what the log says. -/
  outputs : relay.outputs = relay.log.foldl Event.effect outputs
  /-- There is never more in the queue than it may hold. -/
  room : relay.hook.queue.length ≤ queueLimit
  /-- What is pending is in the queue, in the hands of the worker, or in a call under way. -/
  pending : relay.hook.pending =
    relay.hook.queue.length + relay.hook.inHand.toList.length + relay.underWay
  /-- For every record that is refused there is one warning, as soon as its caller gives up. -/
  warned : relay.refused.length = relay.log.count .warned + relay.givingUp
  /-- What is marked as written is in the hands of the worker. -/
  isPut : relay.isPut = true → relay.hook.inHand.isSome = true
  /-- Nobody is in the midst of a call without a handle. -/
  handles : relay.handles = 0 → relay.underWay = 0
  /-- A worker that has stopped has nothing left to do, and nothing will come. -/
  stopped : relay.hasStopped = true →
    relay.handles = 0 ∧ relay.hook.queue = [] ∧ relay.hook.inHand = none

section Change

variable {outputs : Outputs} {relay next : Relay}

theorem accepted_change (hChange : relay.Change next)
    (h : relay.accepted = relay.released ++ relay.hook.inHand.toList ++ relay.hook.queue) :
    next.accepted = next.released ++ next.hook.inHand.toList ++ next.hook.queue := by
  unfold accepted released at h ⊢
  cases hChange with
  | taken hRunning hHand hQueue => simp [h, hHand, hQueue]
  | released hHand hPut =>
      simp [note, List.filterMap_cons, Event.accepted?, Event.released?, h, hHand]
  | _ =>
      simp [note, setCall, giveUp, Hook.count, Hook.uncount, List.filterMap_cons, Event.accepted?,
        Event.released?, h]

theorem written_change (hChange : relay.Change next)
    (h : relay.written = relay.released ++ relay.unreleased)
    (hPut : relay.isPut = true → relay.hook.inHand.isSome = true) :
    next.written = next.released ++ next.unreleased := by
  unfold written released unreleased at h ⊢
  cases hChange with
  | taken hRunning hHand hQueue =>
      -- With nothing in hand, nothing in hand was written.
      have hNot : relay.isPut = false := by simpa [hHand] using hPut
      simpa [hHand, hNot] using h
  | written hHand hNot =>
      simp [note, List.filterMap_cons, Event.written?, Event.released?, h, hHand, hNot]
  | released hHand hIs =>
      simp [note, List.filterMap_cons, Event.written?, Event.released?, h, hHand, hIs]
  | _ =>
      simp [note, setCall, giveUp, Hook.count, Hook.uncount, List.filterMap_cons, Event.written?,
        Event.released?, h]

theorem callers_change (hChange : relay.Change next)
    (h : ∀ number, relay.asked number = relay.settled number ++ relay.unsettled number)
    (number : Nat) : next.asked number = next.settled number ++ next.unsettled number := by
  -- A move is one of a single caller; to all others it neither adds nor settles anything.
  have hBefore := h number
  unfold asked settled unsettled at hBefore ⊢
  cases hChange with
  | direct hHandle hNone hOutputs =>
      simpa [note, List.filterMap_cons, hNone, Event.settled?] using hBefore
  | @counted caller options record job hHandle hIdle hAsync hJob =>
      by_cases hEq : caller = number
      · subst hEq
        rw [hIdle, List.append_nil] at hBefore
        simp [note, setCall, List.filterMap_cons, Event.asked?, Event.settled?, hBefore, hAsync,
          hJob, getElem?_set_of_some hIdle]
      · simp [note, setCall, List.filterMap_cons, Event.asked?, Event.settled?, hBefore, hEq]
  | @accepted caller job hCall hRoom =>
      by_cases hEq : caller = number
      · subst hEq
        rw [hCall] at hBefore
        simp [note, setCall, List.filterMap_cons, Event.asked?, Event.settled?, hBefore,
          getElem?_set_of_some hCall]
      · simp [note, setCall, List.filterMap_cons, Event.asked?, Event.settled?, hBefore, hEq]
  | @refused caller job hCall hFull =>
      by_cases hEq : caller = number
      · subst hEq
        rw [hCall] at hBefore
        simp [note, setCall, List.filterMap_cons, Event.asked?, Event.settled?, hBefore,
          getElem?_set_of_some hCall]
      · simp [note, setCall, List.filterMap_cons, Event.asked?, Event.settled?, hBefore, hEq]
  | @gaveUp caller job hCall =>
      by_cases hEq : caller = number
      · subst hEq
        rw [hCall] at hBefore
        simpa [note, setCall, giveUp, List.filterMap_cons, Event.asked?, Event.settled?,
          getElem?_set_of_some hCall] using hBefore
      · simp [note, setCall, giveUp, List.filterMap_cons, Event.asked?, Event.settled?, hBefore,
          hEq]
  | _ => simp [note, List.filterMap_cons, Event.asked?, Event.settled?, hBefore]

theorem outputs_change (hChange : relay.Change next)
    (h : relay.outputs = relay.log.foldl Event.effect outputs) :
    next.outputs = next.log.foldl Event.effect outputs := by
  cases hChange with
  | direct hHandle hNone hOutputs => simp [note, hOutputs, h]
  | counted hHandle hIdle hAsync hJob =>
      simp [note, setCall, Event.effect, hAsync, hJob, h]
  | _ => simp [note, setCall, giveUp, Event.effect, h]

theorem room_change (hChange : relay.Change next) (h : relay.hook.queue.length ≤ queueLimit) :
    next.hook.queue.length ≤ queueLimit := by
  cases hChange with
  | accepted hCall hRoom => simpa [note, setCall] using Nat.succ_le_of_lt hRoom
  | taken hRunning hHand hQueue =>
      rw [hQueue, List.length_cons] at h
      exact Nat.le_of_succ_le h
  | _ => exact h

theorem pending_change (hChange : relay.Change next)
    (h : relay.hook.pending =
      relay.hook.queue.length + relay.hook.inHand.toList.length + relay.underWay) :
    next.hook.pending =
      next.hook.queue.length + next.hook.inHand.toList.length + next.underWay := by
  unfold underWay at h ⊢
  cases hChange with
  | @counted caller options record job hHandle hIdle hAsync hJob =>
      have hCount := countP_set_of_some Option.isSome hIdle (some ⟨job, false⟩)
      simp [note, setCall, Hook.count] at hCount ⊢
      omega
  | accepted hCall hRoom =>
      have hCount := countP_set_of_some Option.isSome hCall none
      simp [note, setCall] at hCount ⊢
      omega
  | @refused caller job hCall hFull =>
      have hCount := countP_set_of_some Option.isSome hCall (some ⟨job, true⟩)
      simp [note, setCall] at hCount ⊢
      omega
  | gaveUp hCall =>
      have hCount := countP_set_of_some Option.isSome hCall none
      simp [note, setCall, giveUp, Hook.uncount] at hCount ⊢
      omega
  | taken hRunning hHand hQueue =>
      simp [hHand, hQueue] at h ⊢
      omega
  | released hHand hPut =>
      simp [note, hHand] at h ⊢
      omega
  | _ => exact h

theorem warned_change (hChange : relay.Change next)
    (h : relay.refused.length = relay.log.count .warned + relay.givingUp) :
    next.refused.length = next.log.count .warned + next.givingUp := by
  unfold refused givingUp at h ⊢
  cases hChange with
  | @counted caller options record job hHandle hIdle hAsync hJob =>
      have hCount := countP_set_of_some (fun call => call.any Call.isRefused) hIdle
        (some ⟨job, false⟩)
      simp [note, setCall, List.filterMap_cons, Event.refused?] at hCount ⊢
      omega
  | accepted hCall hRoom =>
      have hCount := countP_set_of_some (fun call => call.any Call.isRefused) hCall none
      simp [note, setCall, List.filterMap_cons, Event.refused?] at hCount ⊢
      omega
  | @refused caller job hCall hFull =>
      have hCount := countP_set_of_some (fun call => call.any Call.isRefused) hCall
        (some ⟨job, true⟩)
      simp [note, setCall, Event.refused?] at hCount ⊢
      omega
  | gaveUp hCall =>
      have hCount := countP_set_of_some (fun call => call.any Call.isRefused) hCall none
      simp [note, setCall, giveUp, List.filterMap_cons, Event.refused?] at hCount ⊢
      omega
  | _ => simp [note, List.filterMap_cons, Event.refused?, h]

theorem isPut_change (hChange : relay.Change next)
    (h : relay.isPut = true → relay.hook.inHand.isSome = true) :
    next.isPut = true → next.hook.inHand.isSome = true := by
  cases hChange with
  | taken hRunning hHand hQueue => exact fun _ => rfl
  | written hHand hPut => exact fun _ => by rw [note, hHand]; rfl
  | released hHand hPut =>
      intro hIs
      cases hIs
  | _ => exact h

/-- A caller in the midst of a call has a handle. -/
theorem handles_pos_of_call (h : relay.handles = 0 → relay.underWay = 0) {caller : Nat}
    {call : Call} (hCall : relay.callers[caller]? = some (some call)) : 0 < relay.handles := by
  refine Nat.pos_of_ne_zero fun hZero => ?_
  have hNone := List.countP_eq_zero.1 (h hZero) (some call) (List.mem_of_getElem? hCall)
  exact hNone rfl

theorem handles_change (hChange : relay.Change next)
    (h : relay.handles = 0 → relay.underWay = 0) : next.handles = 0 → next.underWay = 0 := by
  cases hChange with
  | counted hHandle hIdle hAsync hJob =>
      exact fun hZero => absurd hZero (Nat.ne_of_gt hHandle)
  | accepted hCall hRoom =>
      have hPos := handles_pos_of_call h hCall
      exact fun hZero => absurd hZero (Nat.ne_of_gt hPos)
  | refused hCall hFull =>
      have hPos := handles_pos_of_call h hCall
      exact fun hZero => absurd hZero (Nat.ne_of_gt hPos)
  | gaveUp hCall =>
      have hPos := handles_pos_of_call h hCall
      exact fun hZero => absurd hZero (Nat.ne_of_gt hPos)
  | handles hOpen hQuiet => exact fun hZero => (hQuiet hZero).elim h id
  | _ => exact h

theorem stopped_change (hChange : relay.Change next)
    (hHandles : relay.handles = 0 → relay.underWay = 0)
    (h : relay.hasStopped = true →
      relay.handles = 0 ∧ relay.hook.queue = [] ∧ relay.hook.inHand = none) :
    next.hasStopped = true → next.handles = 0 ∧ next.hook.queue = [] ∧ next.hook.inHand = none := by
  intro hStopped
  cases hChange with
  | accepted hCall hRoom =>
      -- Only a call could fill the queue again, and a call has a handle.
      have hPos := handles_pos_of_call hHandles hCall
      exact absurd (h hStopped).1 (Nat.ne_of_gt hPos)
  | taken hRunning hHand hQueue => exact absurd hStopped (Bool.eq_false_iff.1 hRunning)
  | written hHand hPut => cases hHand.symm.trans (h hStopped).2.2
  | released hHand hPut => cases hHand.symm.trans (h hStopped).2.2
  | handles hOpen hQuiet => exact ⟨hOpen (h hStopped).1, (h hStopped).2⟩
  | stopped hNone hQueue hHand => exact ⟨hNone, hQueue, hHand⟩
  | _ => exact h hStopped

/-- Every change keeps the bookkeeping right. -/
theorem Sound.change (h : Sound outputs relay) (hChange : relay.Change next) :
    Sound outputs next where
  accepted := accepted_change hChange h.accepted
  written := written_change hChange h.written h.isPut
  callers := callers_change hChange h.callers
  outputs := outputs_change hChange h.outputs
  room := room_change hChange h.room
  pending := pending_change hChange h.pending
  warned := warned_change hChange h.warned
  isPut := isPut_change hChange h.isPut
  handles := handles_change hChange h.handles
  stopped := stopped_change hChange h.handles h.stopped

end Change

theorem sound_start (cell callers : Nat) (outputs : Outputs) :
    Sound outputs (start cell callers outputs) where
  accepted := rfl
  written := rfl
  callers caller := by
    by_cases hLt : caller < callers <;> simp [asked, settled, unsettled, start, hLt]
  outputs := rfl
  room := Nat.zero_le _
  pending := by simp [start, Hook.onCell, underWay, List.countP_replicate]
  warned := by simp [start, refused, givingUp, List.countP_replicate]
  isPut h := by cases h
  handles h := by cases h
  stopped h := by cases h

theorem sound_run {outputs : Outputs} {relay : Relay} (h : Sound outputs relay)
    (moves : List Move) : Sound outputs (relay.run moves) := by
  induction moves generalizing relay with
  | nil => exact h
  | cons move rest ih => exact ih (h.change (relay.change_step move))

section Conclusions

variable {outputs : Outputs} {relay : Relay}

/-- The accepted records of a caller stand in the order in which it asks for them to be written. -/
theorem Sound.acceptedOf_sublist (h : Sound outputs relay) (caller : Nat) :
    (relay.acceptedOf caller).Sublist (relay.asked caller) := by
  rw [h.callers caller]
  refine List.Sublist.trans ?_ (List.sublist_append_left _ _)
  unfold acceptedOf settled
  induction relay.log with
  | nil => exact .slnil
  | cons event rest ih =>
      cases event with
      | accepted number job =>
          by_cases hEq : number = caller
          · simpa [List.filterMap_cons, Event.acceptedOf?, Event.settled?, hEq] using ih
          · simpa [List.filterMap_cons, Event.acceptedOf?, Event.settled?, hEq] using ih
      | refused number job =>
          by_cases hEq : number = caller
          · simpa [List.filterMap_cons, Event.acceptedOf?, Event.settled?, hEq] using ih.cons job
          · simpa [List.filterMap_cons, Event.acceptedOf?, Event.settled?, hEq] using ih
      | _ => simpa [List.filterMap_cons, Event.acceptedOf?, Event.settled?] using ih

/-- An accepted record is not empty, and goes to the output of the options with which it was
called for. -/
theorem Sound.called_of_accepted (h : Sound outputs relay) {job : Job}
    (hJob : job ∈ relay.accepted) :
    ∃ caller options, Event.called caller options job.record ∈ relay.log ∧
      options.isAsync = true ∧ options.output = some job.output ∧ job.record ≠ [] := by
  obtain ⟨event, hEvent, hAccepted⟩ := List.mem_filterMap.1 hJob
  cases event with
  | accepted caller job' =>
      obtain rfl : job' = job := Option.some.inj hAccepted
      have hOf : job' ∈ relay.acceptedOf caller :=
        List.mem_filterMap.2 ⟨_, hEvent, if_pos rfl⟩
      obtain ⟨call, hCall, hAsked⟩ :=
        List.mem_filterMap.1 ((h.acceptedOf_sublist caller).subset hOf)
      cases call with
      | called number options record =>
          simp only [Event.asked?, Option.ite_none_right_eq_some] at hAsked
          obtain ⟨⟨rfl, hAsync⟩, hRecord⟩ := hAsked
          obtain ⟨hNonempty, hOutput, rfl⟩ := Options.job?_eq_some_iff.1 hRecord
          exact ⟨number, options, hCall, hAsync, hOutput, hNonempty⟩
      | _ => cases hAsked
  | _ => cases hAccepted

/-- Between calls, what is pending is in the queue or in the hands of the worker. -/
theorem Sound.pending_of_quiet (h : Sound outputs relay) (hQuiet : relay.underWay = 0) :
    relay.hook.pending = relay.hook.queue.length + relay.hook.inHand.toList.length ∧
      relay.hook.pending ≤ queueLimit + 1 := by
  have hPending := h.pending
  have hRoom := h.room
  have hHand : relay.hook.inHand.toList.length ≤ 1 := by cases relay.hook.inHand <;> simp
  omega

/-- When nothing waits, the worker has written all that has been accepted. -/
theorem Sound.written_of_idle (h : Sound outputs relay) (hQueue : relay.hook.queue = [])
    (hHand : relay.hook.inHand = none) : relay.written = relay.accepted := by
  have hPut : relay.isPut = false := by simpa [hHand] using h.isPut
  simp [h.accepted, h.written, unreleased, hQueue, hHand, hPut]

/-- When nothing is pending, nothing waits. -/
theorem Sound.idle_of_flushed (h : Sound outputs relay) (hFlushed : relay.hook.isFlushed = true) :
    relay.hook.queue = [] ∧ relay.hook.inHand = none := by
  have hPending := h.pending
  rw [beq_iff_eq.1 hFlushed] at hPending
  constructor
  · exact List.eq_nil_of_length_eq_zero (by omega)
  · cases hHand : relay.hook.inHand with
    | none => rfl
    | some job =>
        rw [hHand, Option.toList_some, List.length_singleton] at hPending
        omega

/-- A record is refused just when the queue is full, and then nothing changes but that its caller
is about to give up. -/
theorem Sound.step_offer (h : Sound outputs relay) {caller : Nat} {job : Job}
    (hCall : relay.callers[caller]? = some (some ⟨job, false⟩)) :
    relay.step (.offer caller) =
      if relay.hook.queue.length = queueLimit then
        (relay.setCall caller (some ⟨job, true⟩)).note (.refused caller job)
      else
        { (relay.setCall caller none).note (.accepted caller job) with
          hook := { relay.hook with queue := relay.hook.queue ++ [job] } } := by
  simp only [step, hCall, offer]
  by_cases hFull : relay.hook.queue.length = queueLimit
  · rw [if_pos hFull, Hook.offer?_of_le (Nat.le_of_eq hFull.symm)]
  · rw [if_neg hFull, Hook.offer?_of_lt (Nat.lt_of_le_of_ne h.room hFull)]

/-- A call in which nothing else happens. -/
theorem Sound.run_call (h : Sound outputs relay) {caller : Nat}
    (hIdle : relay.callers[caller]? = some none) (hHandle : 0 < relay.handles) {options : Options}
    (hAsync : options.isAsync = true) {record : Bytes} {job : Job}
    (hJob : options.job? record = some job) :
    relay.run [.call caller options record, .offer caller, .giveUp caller] =
      if relay.hook.queue.length = queueLimit then
        { relay with
          outputs := relay.outputs.warn .queueFull
          log := relay.log ++
            [.called caller options record, .refused caller job, .warned] }
      else
        { relay with
          hook := { relay.hook with
            queue := relay.hook.queue ++ [job]
            pending := relay.hook.pending + 1 }
          log := relay.log ++ [.called caller options record, .accepted caller job] } := by
  have hCall := getElem?_set_of_some hIdle
  by_cases hFull : relay.hook.queue.length = queueLimit
  · -- Counting leaves the queue as it is, so the record is refused and its count taken back.
    have hLe : queueLimit ≤ relay.hook.count.queue.length := Nat.le_of_eq hFull.symm
    simp [hFull, step, call, offer, giveUp, note, setCall, hIdle, hHandle, hAsync, hJob, hCall,
      Hook.offer?_of_le hLe, set_of_some hIdle]
  · have hLt : relay.hook.count.queue.length < queueLimit := Nat.lt_of_le_of_ne h.room hFull
    simp [hFull, step, call, offer, note, setCall, hIdle, hHandle, hAsync, hJob, hCall,
      Hook.offer?_of_lt hLt, set_of_some hIdle]
    exact ⟨rfl, rfl, rfl, rfl⟩

/-- A worker that writes and lets go, and nothing happens in between. -/
theorem run_deliver {job : Job} (hHand : relay.hook.inHand = some job)
    (hPut : relay.isPut = false) :
    let after := relay.run [.put, .release]
    (after.hook, after.outputs) = relay.hook.deliver relay.outputs := by
  simp [step, hHand, hPut, note, Hook.deliver]

/-- What has happened is never taken back. -/
theorem log_change {next : Relay} (hChange : relay.Change next) : relay.log <+: next.log := by
  cases hChange with
  | taken hRunning hHand hQueue => exact List.prefix_rfl
  | rest => exact List.prefix_rfl
  | handles hOpen hQuiet => exact List.prefix_rfl
  | stopped hHandles hQueue hHand => exact List.prefix_rfl
  | _ => exact List.prefix_append _ _

theorem log_run (relay : Relay) (moves : List Move) : relay.log <+: (relay.run moves).log := by
  induction moves generalizing relay with
  | nil => exact List.prefix_rfl
  | cons move rest ih => exact (log_change (relay.change_step move)).trans (ih (relay.step move))

end Conclusions

section Rounds

variable {relay : Relay}

/-- The moves of a worker that finishes the record in its hands and takes the next one, a number of
times. -/
def rounds : Nat → List Move
  | 0 => []
  | times + 1 => .put :: .release :: .take :: rounds times

/-- What one round leaves. -/
theorem run_round (hRunning : relay.hasStopped = false) :
    let after := relay.run (rounds 1)
    after.hook.queue = relay.hook.queue.tail ∧ after.hook.inHand = relay.hook.queue.head? ∧
      after.hasStopped = false ∧ after.handles = relay.handles ∧
        after.accepted = relay.accepted := by
  obtain ⟨⟨cell, queue, inHand, pending⟩, outputs, callers, isPut, handles, hasStopped, log⟩ := relay
  obtain rfl : hasStopped = false := hRunning
  cases inHand <;> cases isPut <;> cases queue <;>
    simp [rounds, step, note, accepted, Hook.release, Hook.uncount, Hook.take,
      List.filterMap_cons, Event.accepted?]

/-- A worker that goes on for long enough has nothing left to do. -/
theorem run_rounds (hRunning : relay.hasStopped = false) {times : Nat}
    (hTimes : relay.hook.queue.length < times) :
    let after := relay.run (rounds times)
    after.hook.queue = [] ∧ after.hook.inHand = none ∧ after.handles = relay.handles ∧
      after.accepted = relay.accepted := by
  induction times generalizing relay with
  | zero => exact absurd hTimes (Nat.not_lt_zero _)
  | succ times ih =>
      obtain ⟨hQueue, hHand, hStill, hHandles, hAccepted⟩ := run_round hRunning
      cases times with
      | zero =>
          have hNil : relay.hook.queue = [] := List.eq_nil_of_length_eq_zero (by omega)
          rw [hNil] at hQueue hHand
          exact ⟨hQueue, hHand, hHandles, hAccepted⟩
      | succ times =>
          have hLeft : (relay.run (rounds 1)).hook.queue.length < times + 1 := by
            rw [hQueue, List.length_tail]
            omega
          obtain ⟨hNil, hNone, hSame, hAll⟩ := ih hStill hLeft
          exact ⟨hNil, hNone, hSame.trans hHandles, hAll.trans hAccepted⟩

/-- Once the last handle is gone, a worker that goes on may stop, and has then written all that was
accepted. -/
theorem Sound.stops_after_rounds {outputs : Outputs} (h : Sound outputs relay)
    (hRunning : relay.hasStopped = false) (hHandles : relay.handles = 0) {times : Nat}
    (hTimes : relay.hook.queue.length < times) :
    let after := (relay.run (rounds times)).step .stop
    after.hasStopped = true ∧ after.written = relay.accepted := by
  obtain ⟨hQueue, hHand, hSame, hAccepted⟩ := run_rounds hRunning hTimes
  have hMay : (relay.run (rounds times)).hook.mayStop (relay.run (rounds times)).handles = true := by
    simp [Hook.mayStop, hQueue, hHand, hSame, hHandles]
  have hWritten := (sound_run h (rounds times)).written_of_idle hQueue hHand
  dsimp only
  rw [step, if_pos hMay]
  exact ⟨rfl, hWritten.trans hAccepted⟩

end Rounds

/-- Callers, queue and worker may take their moves in any order.  At each moment the bookkeeping is
right, and this has the following consequences.

* The accepted records of a caller stand in the order in which it asked for them.
* An accepted record is not empty and goes to the output of its own snapshot.
* Between calls, the count of pending records is what is in the queue or in the hands of the
  worker, and so it has a bound.
* Once nothing is pending, everything that has been accepted so far has been written.
* A worker that has stopped has written everything; there is no handle left.
* A record is refused just when the queue is full, and a call then changes nothing but the warnings.
* What has been accepted stays so, and what is accepted later stands behind it. -/
theorem run_is_faithful (cell callers : Nat) (outputs : Outputs) (moves : List Move) :
    let relay := (start cell callers outputs).run moves
    Sound outputs relay ∧
      (∀ caller, (relay.acceptedOf caller).Sublist (relay.asked caller)) ∧
      (∀ job ∈ relay.accepted, ∃ caller options,
        Event.called caller options job.record ∈ relay.log ∧ options.isAsync = true ∧
          options.output = some job.output ∧ job.record ≠ []) ∧
      (relay.underWay = 0 →
        relay.hook.pending = relay.hook.queue.length + relay.hook.inHand.toList.length ∧
          relay.hook.pending ≤ queueLimit + 1) ∧
      (relay.hook.isFlushed = true → relay.written = relay.accepted) ∧
      (relay.hasStopped = true →
        relay.handles = 0 ∧ relay.hook.queue = [] ∧ relay.written = relay.accepted) ∧
      (∀ caller job, relay.callers[caller]? = some (some ⟨job, false⟩) →
        relay.step (.offer caller) =
          if relay.hook.queue.length = queueLimit then
            (relay.setCall caller (some ⟨job, true⟩)).note (.refused caller job)
          else
            { (relay.setCall caller none).note (.accepted caller job) with
              hook := { relay.hook with queue := relay.hook.queue ++ [job] } }) ∧
      (∀ caller options record job, relay.callers[caller]? = some none → 0 < relay.handles →
        options.isAsync = true → options.job? record = some job →
        let after := relay.run [.call caller options record, .offer caller, .giveUp caller]
        (after.hook, after.outputs) = relay.hook.write options record relay.outputs ∧
          if relay.hook.queue.length = queueLimit then
            (after.hook, after.outputs) = (relay.hook, relay.outputs.warn .queueFull)
          else
            (after.hook, after.outputs) =
              ({ relay.hook with
                  queue := relay.hook.queue ++ [job]
                  pending := relay.hook.pending + 1 },
                relay.outputs)) ∧
      ∀ later, relay.accepted <+: (relay.run later).accepted := by
  intro relay
  have hSound : Sound outputs relay := sound_run (sound_start cell callers outputs) moves
  refine ⟨hSound, hSound.acceptedOf_sublist, fun job hJob => hSound.called_of_accepted hJob,
    hSound.pending_of_quiet, ?_, ?_, fun caller job hCall => hSound.step_offer hCall, ?_, ?_⟩
  · intro hFlushed
    obtain ⟨hQueue, hHand⟩ := hSound.idle_of_flushed hFlushed
    exact hSound.written_of_idle hQueue hHand
  · intro hStopped
    obtain ⟨hHandles, hQueue, hHand⟩ := hSound.stopped hStopped
    exact ⟨hHandles, hQueue, hSound.written_of_idle hQueue hHand⟩
  · intro caller options record job hIdle hHandle hAsync hJob after
    have hAfter : after = _ := hSound.run_call hIdle hHandle hAsync hJob
    by_cases hFull : relay.hook.queue.length = queueLimit
    · rw [if_pos hFull] at hAfter ⊢
      simp [hAfter, Hook.write, hJob, hAsync, Hook.enqueue_of_le (Nat.le_of_eq hFull.symm)]
    · rw [if_neg hFull] at hAfter ⊢
      have hRoom := Nat.lt_of_le_of_ne hSound.room hFull
      simp [hAfter, Hook.write, hJob, hAsync, Hook.enqueue_of_lt hRoom]
  · intro later
    exact (log_run relay later).filterMap _

end Relay
end Dump
end Wiretap
