import Wiretap.Proofs.Exchange.Undisturbed
import Wiretap.Proofs.Relay.Ledger

/-!
# One exchange, one policy

Of exchanges that go through one hook side by side, each keeps to the options that it read at its
start.  This joins what the exchanges have begun to write with what the ledger of the hook
says has become of it.

* `Traffic.asked_of_callsOf` and `Traffic.directOf_of_callsOf` say that an exchange either wants
  all its records to be queued or writes all of them at once.
* `Traffic.Serves` says what a hook does with the records of an exchange.
* `Traffic.exchanges_keep_policies` says so of all exchanges, whatever happens in between, and that
  one during which nothing happens is an exchange of a session.
-/

namespace Wiretap

open Dump

namespace Traffic

section Settled

variable {outputs : Outputs} {traffic : Traffic} {exchange : Nat} {options : Options}
  {begun : List Bytes}

/-- Of the records of an exchange, all or none take the one of two ways that its options say. -/
theorem filterMap_log (hCalls : traffic.callsOf exchange = begun.map (options, ·)) (way : Bool)
    {seen : Event → Option Job}
    (hCalled : ∀ number options record, seen (.called number options record) =
      if number = exchange ∧ options.isAsync = way then options.job? record else none)
    (hOther : ∀ event, event.called? = none → seen event = none) :
    traffic.relay.log.filterMap seen =
      if options.isAsync = way then begun.filterMap options.job? else [] := by
  have hSeen : traffic.relay.log.filterMap seen = (traffic.callsOf exchange).filterMap
      fun call => if call.1.isAsync = way then call.1.job? call.2 else none := by
    unfold callsOf Relay.called
    rw [List.filterMap_filterMap, List.filterMap_filterMap]
    congr 1
    funext event
    cases event with
    | called number options record =>
        rw [hCalled]
        by_cases hEq : number = exchange <;> simp [Event.called?, hEq]
    | _ => rw [hOther _ rfl]; rfl
  rw [hSeen, hCalls, List.filterMap_map]
  by_cases hWay : options.isAsync = way <;> simp [hWay]

/-- What an exchange wants to be queued. -/
theorem asked_of_callsOf (hCalls : traffic.callsOf exchange = begun.map (options, ·)) :
    traffic.relay.asked exchange =
      if options.isAsync = true then begun.filterMap options.job? else [] :=
  filterMap_log hCalls true (fun _ _ _ => rfl) fun event hNone => by
    cases event <;> first | rfl | cases hNone

/-- What an exchange writes at once. -/
theorem directOf_of_callsOf (hCalls : traffic.callsOf exchange = begun.map (options, ·)) :
    directOf exchange traffic.relay.ledger.done =
      if options.isAsync = false then begun.filterMap options.job? else [] := by
  refine (Ledger.directOf_ofLog exchange _).trans ?_
  exact filterMap_log hCalls false (fun _ _ _ => rfl) fun event hNone => by
    cases event <;> first | rfl | cases hNone

/-- An exchange that writes at once has all its records written. -/
theorem jobsOf_at_once (hSound : Relay.Sound outputs traffic.relay)
    (hCalls : traffic.callsOf exchange = begun.map (options, ·))
    (hAtOnce : options.isAsync = false) :
    jobsOf exchange traffic.relay.ledger.done = begun.filterMap options.job? ∧
      jobsOf exchange traffic.relay.ledger.waiting = [] := by
  have hAsked : traffic.relay.asked exchange = [] := by
    rw [asked_of_callsOf hCalls, if_neg (by simp [hAtOnce])]
  have hAccepted := traffic.relay.queuedOf_ledger exchange
  have hNone := hSound.acceptedOf_sublist exchange
  rw [hAsked, List.sublist_nil] at hNone
  rw [hNone, List.append_eq_nil_iff] at hAccepted
  obtain ⟨hDone, hWaiting⟩ := hAccepted
  rw [jobsOf_eq_directOf hDone, directOf_of_callsOf hCalls, if_pos hAtOnce,
    jobsOf_eq_queuedOf (traffic.relay.directOf_waiting exchange)]
  exact ⟨rfl, hWaiting⟩

/-- Of an exchange that writes in the background, those records have been written, or wait in their
order behind them, that were not refused. -/
theorem jobsOf_in_background
    (hCalls : traffic.callsOf exchange = begun.map (options, ·))
    (hAsync : options.isAsync = true) :
    jobsOf exchange traffic.relay.ledger.done ++ jobsOf exchange traffic.relay.ledger.waiting =
        traffic.relay.acceptedOf exchange ∧
      traffic.relay.asked exchange = begun.filterMap options.job? := by
  have hDirect : directOf exchange traffic.relay.ledger.done = [] := by
    rw [directOf_of_callsOf hCalls, if_neg (by simp [hAsync])]
  rw [jobsOf_eq_queuedOf hDirect, jobsOf_eq_queuedOf (traffic.relay.directOf_waiting exchange),
    Relay.queuedOf_ledger, asked_of_callsOf hCalls, if_pos hAsync]
  exact ⟨rfl, rfl⟩

/-- What a hook does with the records that an exchange has begun to write. -/
structure Serves (relay : Relay) (exchange : Nat) (options : Options) (begun : List Bytes) :
    Prop where
  /-- None is written or waits twice, and none overtakes another. -/
  order : (jobsOf exchange relay.ledger.done ++ jobsOf exchange relay.ledger.waiting).Sublist
    (begun.filterMap options.job?)
  /-- Those that neither have been written nor wait have been refused, but for the one that the
  exchange is about to offer. -/
  missing : (begun.filterMap options.job?).length =
    (jobsOf exchange relay.ledger.done ++ jobsOf exchange relay.ledger.waiting).length +
      (relay.refusedOf exchange).length + (relay.unsettled exchange).length
  /-- All of them have been written, if the options ask for writing at once. -/
  atOnce : options.isAsync = false →
    jobsOf exchange relay.ledger.done = begun.filterMap options.job?

theorem serves_of_callsOf (hSound : Relay.Sound outputs traffic.relay)
    (hCalls : traffic.callsOf exchange = begun.map (options, ·)) :
    Serves traffic.relay exchange options begun := by
  have hLength := hSound.length_asked exchange
  have hSub := hSound.acceptedOf_sublist exchange
  cases hAsync : options.isAsync with
  | true =>
      obtain ⟨hKept, hAsked⟩ := jobsOf_in_background hCalls hAsync
      rw [hAsked] at hLength hSub
      exact ⟨by rwa [hKept], by rwa [hKept], by simp [hAsync]⟩
  | false =>
      obtain ⟨hDone, hWaiting⟩ := jobsOf_at_once hSound hCalls hAsync
      rw [asked_of_callsOf hCalls, if_neg (by simp [hAsync]), List.length_nil] at hLength
      refine ⟨by simp [hDone, hWaiting], ?_, fun _ => hDone⟩
      rw [hDone, hWaiting, List.append_nil]
      omega

/-- What is in the ledger has been called for, and takes the way that its options say. -/
theorem called_of_delivery (hSound : Relay.Sound outputs traffic.relay) {delivery : Delivery}
    (hMem : delivery ∈ traffic.relay.ledger.done ++ traffic.relay.ledger.waiting)
    (hCalls : traffic.callsOf delivery.caller = begun.map (options, ·)) :
    options.isAsync = delivery.isQueued ∧ delivery.job ∈ begun.filterMap options.job? := by
  cases hQueued : delivery.isQueued with
  | true =>
      have hJob : delivery.job ∈ queuedOf delivery.caller
          (traffic.relay.ledger.done ++ traffic.relay.ledger.waiting) :=
        List.mem_map.mpr ⟨delivery, List.mem_filter.mpr ⟨hMem, by simp [hQueued]⟩, rfl⟩
      rw [queuedOf_append, Relay.queuedOf_ledger] at hJob
      have hAsked := (hSound.acceptedOf_sublist delivery.caller).subset hJob
      rw [asked_of_callsOf hCalls] at hAsked
      split at hAsked
      next hAsync => exact ⟨hAsync, hAsked⟩
      · cases hAsked
  | false =>
      have hJob : delivery.job ∈ directOf delivery.caller
          (traffic.relay.ledger.done ++ traffic.relay.ledger.waiting) :=
        List.mem_map.mpr ⟨delivery, List.mem_filter.mpr ⟨hMem, by simp [hQueued]⟩, rfl⟩
      rw [directOf_append, Relay.directOf_waiting, List.append_nil,
        directOf_of_callsOf hCalls] at hJob
      split at hJob
      next hAtOnce => exact ⟨hAtOnce, hJob⟩
      · cases hJob

/-- What is in the ledger comes from an exchange, and goes where the options of this exchange
say. -/
theorem lane_of_delivery (hSound : Relay.Sound outputs traffic.relay) {delivery : Delivery}
    (hMem : delivery ∈ traffic.relay.ledger.done ++ traffic.relay.ledger.waiting)
    (hKept : traffic.Kept delivery.caller) :
    ∃ lane, traffic.lane? delivery.caller = some lane ∧
      lane.options.output = some delivery.job.output ∧
      delivery.isQueued = lane.options.isAsync := by
  cases hLane : traffic.lane? delivery.caller with
  | none =>
      have hCalls : traffic.callsOf delivery.caller = [].map (Options.empty, ·) :=
        (kept_of_none hLane).mp hKept
      exact absurd (called_of_delivery hSound hMem hCalls).2 List.not_mem_nil
  | some lane =>
      obtain ⟨begun, -, hCalls⟩ := (kept_of_some hLane).mp hKept
      obtain ⟨hWay, hJob⟩ := called_of_delivery hSound hMem hCalls
      obtain ⟨record, -, hRecord⟩ := List.mem_filterMap.mp hJob
      exact ⟨lane, rfl, (Options.job?_eq_some_iff.mp hRecord).2.1, hWay.symm⟩

end Settled

section Runs

variable {outputs : Outputs} {traffic next : Traffic} {move : Move}

theorem relay_change (hChange : traffic.Change move next) :
    next.relay = traffic.relay ∨ ∃ own, next.relay = traffic.relay.step own := by
  cases hChange with
  | moved own hCalled => exact .inr ⟨own, rfl⟩
  | began hLane hTodo hCalled => exact .inr ⟨.call _ _ _, rfl⟩
  | _ => exact .inl rfl

/-- Seen from its hook, a traffic is a run of the relay. -/
theorem relay_run (traffic : Traffic) (moves : List Move) :
    ∃ own, (traffic.run moves).relay = traffic.relay.run own := by
  induction moves using List.reverseRecOn with
  | nil => exact ⟨[], rfl⟩
  | append_singleton moves move ih =>
      obtain ⟨own, hOwn⟩ := ih
      rw [run_append_singleton]
      rcases relay_change ((traffic.run moves).change_step move) with hSame | ⟨last, hLast⟩
      · exact ⟨own, hSame.trans hOwn⟩
      · refine ⟨own ++ [last], ?_⟩
        rw [hLast, hOwn]
        simp [Relay.run]

theorem sound_run_start (cell exchanges : Nat) (options : Options) (outputs : Outputs)
    (moves : List Move) :
    Relay.Sound outputs ((start cell exchanges options outputs).run moves).relay := by
  obtain ⟨own, hOwn⟩ := (start cell exchanges options outputs).relay_run moves
  rw [hOwn]
  exact Relay.sound_run (Relay.sound_start cell exchanges outputs) own

end Runs

/-- A record is refused only when the queue is full. -/
theorem full_of_refused {outputs : Outputs} {traffic : Traffic}
    (hSound : Relay.Sound outputs traffic.relay) {move : Move}
    (hRefused : (traffic.step move).relay.refused ≠ traffic.relay.refused) :
    traffic.relay.hook.queue.length = queueLimit := by
  rcases relay_change (traffic.change_step move) with hSame | ⟨last, hLast⟩
  · exact absurd (congrArg Relay.refused hSame) hRefused
  · rw [hLast] at hRefused
    exact hSound.full_of_refused (traffic.relay.change_step last) hRefused

/-- Several exchanges go through one hook, in any order and with any changes of the options in
between.  At each moment the following holds.

* The outputs have been given the records in the ledger of the hook, one after the other, and
  nothing else; those that wait in the ledger are the ones that are still to come.
* Each of them comes from an exchange, goes to the output in the options of this exchange, and
  takes the way that they say.
* The options of an exchange are those that were in the cell at its start, and the records that it
  has begun to write are the first of its records: the request with its head and body, the
  head of the response, its body.
* An exchange that writes at once has all of these written, in this order.
* An exchange that writes in the background has them written or waiting, in this order.  Each that
  is missing was refused, if its caller is not about to offer it.
* A record is refused only when the queue is full.
* An exchange during which nothing else happens does to the hook and to the outputs what
  `Exchange.run` does to them in a session. -/
theorem exchanges_keep_policies (cell exchanges : Nat) (options : Options) (outputs : Outputs)
    (moves : List Move) :
    let begin := start cell exchanges options outputs
    let traffic := begin.run moves
    let relay := traffic.relay
    let done := relay.ledger.done
    let waiting := relay.ledger.waiting
    relay.outputs.hushed = (done.map Delivery.job).foldl Outputs.handOver outputs.hushed ∧
      waiting.map Delivery.job = relay.unwritten ++ relay.hook.queue ∧
      (∀ delivery ∈ done ++ waiting, ∃ lane, traffic.lane? delivery.caller = some lane ∧
        lane.options.output = some delivery.job.output ∧
        delivery.isQueued = lane.options.isAsync) ∧
      (∀ exchange lane, traffic.lane? exchange = some lane →
        (∃ earlier later, moves = earlier ++ .start exchange lane.request lane.treatment :: later ∧
          (begin.run earlier).lane? exchange = none ∧
          lane.options = (begin.run earlier).options) ∧
        ∃ begun, begun ++ lane.todo = lane.records ∧
          traffic.callsOf exchange = begun.map (lane.options, ·) ∧
          Serves relay exchange lane.options begun) ∧
      (∀ move, (traffic.step move).relay.refused ≠ relay.refused →
        relay.hook.queue.length = queueLimit) ∧
      ∀ exchange session number, traffic.isReady exchange = true →
        traffic.lanes[exchange]? = some none → traffic.StandsFor session number →
        ∀ handle : Transport.Handle,
          session.policy? handle.hook = some (number, traffic.options) →
          ∀ around request,
            let outcome := (fetch around handle.pool.config.proxy request
              (session.jar? handle.pool.jar) session.contacts).outcome
            let moves := alone exchange request handle.treatment traffic.options.flags outcome
            (traffic.run moves).StandsFor (Exchange.run around handle request session).2
              number := by
  intro begin traffic relay done waiting
  obtain ⟨own, hOwn⟩ := begin.relay_run moves
  have hBegin : Relay.Sound outputs begin.relay := Relay.sound_start cell exchanges outputs
  have hSound : Relay.Sound outputs traffic.relay :=
    sound_run_start cell exchanges options outputs moves
  obtain ⟨hWaiting, hDone⟩ := Relay.ledger_run hBegin rfl rfl own
  rw [← hOwn] at hWaiting hDone
  have hNew (exchange : Nat) : begin.lane? exchange = none := by
    simp only [begin, start, lane?, List.getElem?_replicate]
    split <;> rfl
  have hKept (exchange : Nat) : traffic.Kept exchange :=
    kept_run ((kept_of_none (hNew exchange)).mpr rfl) moves
  refine ⟨hSound.outputs_of_done hDone, hWaiting, fun delivery hMem => ?_,
    fun exchange lane hLane => ⟨lane_run hNew moves hLane, ?_⟩,
    fun move hRefused => full_of_refused hSound hRefused,
    fun exchange session number hReady hFree hStands handle hPolicy around request =>
      standsFor_run hStands hSound hReady hFree hPolicy around request⟩
  · exact lane_of_delivery hSound hMem (hKept delivery.caller)
  · obtain ⟨begun, hBegun, hCalls⟩ := (kept_of_some hLane).mp (hKept exchange)
    exact ⟨begun, hBegun, hCalls, serves_of_callsOf hSound hCalls⟩

/-- One exchange writes at once to a first output.  While it waits for its response, the options
are changed, and another exchange writes in the background to a second output.  The response goes
to the first output all the same. -/
example :
    let first := (Outputs.onDisk (.ofHome [])).openSink "writer" (.buffer "first") .takeAll
    let second := first.1.openSink "writer" (.buffer "second") .takeAll
    let atOnce : Options := ⟨.all, false, some first.2⟩
    let later : Options := ⟨.all, true, some second.2⟩
    let url : Url := ⟨"http", [], none, some (.domain "h"), none, .segments [[]], none, none⟩
    let request : Request := ⟨.get, url, .http11, .empty, none, none⟩
    let arrival : Arrival :=
      ⟨.http11, ⟨200, by decide, by decide⟩, .empty, [[97], [98]], .complete⟩
    let traffic := (start 0 2 atOnce second.1).run
      [.start 0 request ⟨false, true⟩, .write 0, .change fun _ => later,
        .start 1 request ⟨false, true⟩, .write 1, .relay (.offer 1),
        .answer 0 (.ok (url, arrival)), .relay .take, .write 0, .write 0, .relay .put,
        .relay .release, .write 0, .write 0]
    traffic.relay.ledger.done.map (fun delivery => (delivery.caller, delivery.job.output)) =
        [(0, first.2), (0, first.2), (0, first.2), (1, second.2), (0, first.2), (0, first.2)] ∧
      traffic.relay.outputs.contents (.buffer "first") =
        Head.request .get url .http11 .empty ++ Head.response .http11 arrival.status .empty ++
          [97, 98, 13, 10] ∧
      traffic.relay.outputs.contents (.buffer "second") =
        Head.request .get url .http11 .empty := by
  intro first second atOnce later url request arrival traffic
  decide +kernel

end Traffic
end Wiretap
