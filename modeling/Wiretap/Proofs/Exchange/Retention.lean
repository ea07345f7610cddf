import Wiretap.Proofs.Exchange.Fidelity
import Wiretap.Proofs.Exchange.Undisturbed

/-!
# Bodies that are kept and bodies that are dropped

Whether the body of a response is dropped decides on how it is read: in one piece or in
many, as text or as bytes.  It decides on nothing else.

* `Exchange.transcript` is what a dump shows of an exchange with a whole response, said by the
  response that has kept its body.
* `Traffic.Leaves` says which outputs an exchange may leave behind, when its hook has nothing
  else to write and all of its records have gone through.
* `Traffic.gained_of_leaves` says that they have gained the records, in whatever order callers
  and worker have moved.
* `Exchange.discarding_agrees_with_keeping` compares two runs that differ in what becomes of
  the body.
-/

namespace Wiretap

open Dump

namespace Dump.Outputs

variable {outputs before after : Outputs} {output : Output} {place : Place} {rule : Rule}

/-- Warnings are no part of what is gained. -/
theorem Gained.of_hushed {bytes : Bytes}
    (h : Gained output place bytes before.hushed after.hushed) :
    Gained output place bytes before after :=
  ⟨h.received, h.contents, h.atEnd, h.others⟩

/-- Records for one output are gained one behind the other. -/
theorem gained_foldl_handOver {jobs : List Job} (hJobs : ∀ job ∈ jobs, job.output = output)
    (hSink : outputs.natures[output.sink]? = some (place, rule)) (hRule : rule.TakesAll) :
    Gained output place (jobs.map Job.record).flatten outputs (jobs.foldl handOver outputs) := by
  induction jobs generalizing outputs with
  | nil => exact .refl output place outputs
  | cons job rest ih =>
      obtain ⟨hJob, hRest⟩ := List.forall_mem_cons.mp hJobs
      have hFirst : Gained output place job.record outputs (outputs.handOver job) := by
        rw [handOver, hJob]
        exact gained_write hSink hRule job.record
      have hLater := (outputs.lasts_write job.output job.record).nature hSink
      exact hFirst.trans (ih hRest hLater)

end Dump.Outputs

/-- Records that an output is named for go there, but for empty ones. -/
theorem Dump.Options.map_filterMap_job? {options : Options} {output : Output}
    (h : options.output = some output) (records : List Bytes) :
    (records.filterMap options.job?).map Job.record = records.filter (!·.isEmpty) := by
  induction records with
  | nil => rfl
  | cons record rest ih =>
      cases record with
      | nil => simp [job?, ih]
      | cons byte tail => simp [job?, h, ih]

/-- Nothing is lost with the empty ones. -/
theorem Dump.Options.flatten_filterMap_job? {options : Options} {output : Output}
    (h : options.output = some output) (records : List Bytes) :
    ((records.filterMap options.job?).map Job.record).flatten = records.flatten := by
  rw [Options.map_filterMap_job? h, List.flatten_filter_not_isEmpty]

theorem Dump.Relay.Sound.unsettled_of_flushed {outputs : Outputs} {relay : Relay}
    (h : Relay.Sound outputs relay) (hFlushed : relay.hook.isFlushed = true) (caller : Nat) :
    relay.unsettled caller = [] := by
  have hAsked := h.callers caller
  rw [h.settled_of_flushed hFlushed] at hAsked
  exact List.self_eq_append_right.mp hAsked

/-- If no record is refused, none of a caller is. -/
theorem Dump.Relay.refusedOf_of_refused {relay : Relay} (h : relay.refused = []) (caller : Nat) :
    relay.refusedOf caller = [] := by
  unfold refused at h
  unfold refusedOf
  rw [List.filterMap_eq_nil_iff] at h ⊢
  intro event hMem
  have hNone := h event hMem
  cases event with
  | refused number job => cases hNone
  | _ => rfl

deriving instance DecidableEq for Lane

namespace Traffic

variable {outputs : Outputs} {traffic : Traffic} {lane : Lane}

/-- If there is but one exchange, all of its records are on their way, and the worker is through,
then the outputs have been given these records but for those that have been refused, in their
order, and nothing else.  Of records that are written at once none is refused. -/
theorem served_of_flushed (hSound : Relay.Sound outputs traffic.relay)
    (hWaiting : traffic.relay.ledger.waiting.map Delivery.job =
      traffic.relay.unwritten ++ traffic.relay.hook.queue)
    (hKept : ∀ exchange, traffic.Kept exchange) (hLane : traffic.lane? 0 = some lane)
    (hOnly : traffic.lanes.length = 1) (hTodo : lane.todo = [])
    (hFlushed : traffic.relay.hook.isFlushed = true) :
    let done := traffic.relay.ledger.done.map Delivery.job
    let jobs := lane.records.filterMap lane.options.job?
    done.Sublist jobs ∧ jobs.length = done.length + (traffic.relay.refusedOf 0).length ∧
      (lane.options.isAsync = false → done = jobs) := by
  intro done jobs
  obtain ⟨begun, hBegun, hCalls⟩ := (kept_of_some hLane).mp (hKept 0)
  rw [hTodo, List.append_nil] at hBegun
  subst hBegun
  have hServes := serves_of_callsOf hSound hCalls
  -- Nothing waits, so the ledger holds nothing but what has been written.
  have hNone : traffic.relay.ledger.waiting = [] := by
    obtain ⟨hQueue, hHand⟩ := hSound.idle_of_flushed hFlushed
    have hUnwritten : traffic.relay.unwritten = [] := by
      unfold Relay.unwritten
      split <;> simp [hHand]
    rw [hUnwritten, hQueue] at hWaiting
    exact List.map_eq_nil_iff.mp hWaiting
  have hOwn : jobsOf 0 traffic.relay.ledger.done = done := by
    unfold jobsOf
    rw [List.filter_eq_self.mpr]
    intro delivery hMem
    obtain ⟨other, hOther, -⟩ :=
      lane_of_delivery hSound (List.mem_append_left _ hMem) (hKept delivery.caller)
    have hLt := lt_of_lane? hOther
    exact decide_eq_true (by omega)
  have hOrder := hServes.order
  have hMissing := hServes.missing
  rw [hNone, hSound.unsettled_of_flushed hFlushed, hOwn] at hMissing
  rw [hNone, hOwn] at hOrder
  simp only [jobsOf, List.filter_nil, List.map_nil, List.append_nil, List.length_nil,
    Nat.add_zero] at hOrder hMissing
  exact ⟨hOrder, hMissing, fun hAtOnce => hOwn.symm.trans (hServes.atOnce hAtOnce)⟩

theorem length_lanes_change {next : Traffic} {move : Move} (h : traffic.Change move next) :
    next.lanes.length = traffic.lanes.length := by
  cases h <;> simp [setLane, moveRelay]

theorem length_lanes_run (traffic : Traffic) (moves : List Move) :
    (traffic.run moves).lanes.length = traffic.lanes.length := by
  induction moves using List.reverseRecOn with
  | nil => rfl
  | append_singleton moves move ih =>
      rw [run_append_singleton, length_lanes_change ((traffic.run moves).change_step move), ih]

/-- Whether an exchange may leave outputs behind: it goes through a hook that has nothing else to
write, it has read the options at its start and got what came back, none of its records has been
refused, and all of them have been written.  The callers and the worker have taken their moves in
any order, and the options in the cell may have changed at any time. -/
def Leaves (outputs : Outputs) (request : Request) (treatment : Treatment) (options : Options)
    (outcome : Except Halt (Url × Arrival)) (after : Outputs) : Prop :=
  ∃ cell stored moves,
    let traffic := (start cell 1 stored outputs).run moves
    traffic.lane? 0 = some ⟨request, treatment, options, some outcome, []⟩ ∧
      traffic.relay.refused = [] ∧ traffic.relay.hook.isFlushed = true ∧
      traffic.relay.outputs = after

section Leaves

variable {request : Request} {treatment : Treatment} {options : Options}
  {outcome : Except Halt (Url × Arrival)} {after : Outputs}

/-- The records of the request and of what came back have been handed over in their order, but for
those that have been refused, and nothing else.  If they are written at once, all of them have
been. -/
theorem hushed_of_flushed {cell : Nat} {stored : Options} {moves : List Move}
    (hLane : ((start cell 1 stored outputs).run moves).lane? 0 =
      some ⟨request, treatment, options, some outcome, []⟩)
    (hFlushed : ((start cell 1 stored outputs).run moves).relay.hook.isFlushed = true) :
    let relay := ((start cell 1 stored outputs).run moves).relay
    let jobs := (Exchange.requestRecords options.flags request ++
      Exchange.outcomeRecords options.flags treatment outcome).filterMap options.job?
    ∃ done : List Job, done.Sublist jobs ∧
      jobs.length = done.length + (relay.refusedOf 0).length ∧
      (options.isAsync = false → done = jobs) ∧
      relay.outputs.hushed = done.foldl Outputs.handOver outputs.hushed := by
  intro relay jobs
  let begin := start cell 1 stored outputs
  obtain ⟨own, hOwn⟩ := begin.relay_run moves
  have hBegin : Relay.Sound outputs begin.relay := Relay.sound_start cell 1 outputs
  have hSound : Relay.Sound outputs (begin.run moves).relay :=
    sound_run_start cell 1 stored outputs moves
  obtain ⟨hWaiting, hDone⟩ := Relay.ledger_run hBegin rfl rfl own
  rw [← hOwn] at hWaiting hDone
  have hNew (exchange : Nat) : begin.lane? exchange = none := by
    simp only [begin, start, lane?, List.getElem?_replicate]
    split <;> rfl
  have hKept (exchange : Nat) : (begin.run moves).Kept exchange :=
    kept_run ((kept_of_none (hNew exchange)).mpr rfl) moves
  obtain ⟨hOrder, hMissing, hAtOnce⟩ := served_of_flushed hSound hWaiting hKept hLane
    (begin.length_lanes_run moves) rfl hFlushed
  exact ⟨_, hOrder, hMissing, hAtOnce, hSound.outputs_of_done hDone⟩

/-- If none has been refused, all records have been handed over. -/
theorem hushed_of_leaves (h : Leaves outputs request treatment options outcome after) :
    after.hushed = ((Exchange.requestRecords options.flags request ++
      Exchange.outcomeRecords options.flags treatment outcome).filterMap options.job?).foldl
        Outputs.handOver outputs.hushed := by
  obtain ⟨cell, stored, moves, hLane, hRefused, hFlushed, rfl⟩ := h
  obtain ⟨done, hOrder, hMissing, -, hOutputs⟩ := hushed_of_flushed hLane hFlushed
  rw [Relay.refusedOf_of_refused hRefused] at hMissing
  rw [hOutputs, hOrder.eq_of_length hMissing.symm]

/-- The records of the request and of what came back have been gained, and nothing else. -/
theorem gained_of_leaves {output : Output} {place : Place} {rule : Rule}
    (h : Leaves outputs request treatment options outcome after)
    (hOutput : options.output = some output)
    (hSink : outputs.natures[output.sink]? = some (place, rule)) (hRule : rule.TakesAll) :
    Outputs.Gained output place
      ((Exchange.requestRecords options.flags request).flatten ++
        (Exchange.outcomeRecords options.flags treatment outcome).flatten) outputs after := by
  let records := Exchange.requestRecords options.flags request ++
    Exchange.outcomeRecords options.flags treatment outcome
  have hTarget : ∀ job ∈ records.filterMap options.job?, job.output = output := by
    intro job hMem
    obtain ⟨record, -, hJob⟩ := List.mem_filterMap.mp hMem
    have hNamed := (Options.job?_eq_some_iff.mp hJob).2.1
    exact Option.some.inj (hNamed.symm.trans hOutput)
  have hNature : outputs.hushed.natures[output.sink]? = some (place, rule) := hSink
  have hGained := Outputs.gained_foldl_handOver hTarget hNature hRule
  rw [Options.flatten_filterMap_job? hOutput, ← hushed_of_leaves h, List.flatten_append] at hGained
  exact hGained.of_hushed

end Leaves

end Traffic

/-- What there is of a response besides its body. -/
def Response.frame (response : Response) : Status × Version × Header.Map × Url :=
  (response.status, response.version, response.headers, response.url)

namespace Exchange

/-- What a dump shows of an exchange whose response has kept its body. -/
def transcript (flags : Flags) (request : Request) (response : Response) : Bytes :=
  requestText flags request
    ++ (if flags.responseHead then
        Head.response response.version response.status response.headers
      else [])
    ++ (if flags.responseBody then Body.record response.body else [])

section Keeping

variable {around : Surroundings} {handle : Transport.Handle} {request : Request}
  {session : Session}

/-- What an exchange fetches: neither the treatment of the body nor the dump has a part in it. -/
def fetched (around : Surroundings) (handle : Transport.Handle) (request : Request)
    (session : Session) : Fetched :=
  fetch around handle.pool.config.proxy request (session.jar? handle.pool.jar) session.contacts

theorem run_fst (around : Surroundings) (handle : Transport.Handle) (request : Request)
    (session : Session) :
    (run around handle request session).1 =
      result handle.treatment request.timeout (fetched around handle request session).outcome := by
  rw [run, perform_eq]
  simp only [jar?_dumpAll, contacts_dumpAll]
  rfl

theorem contacts_run (around : Surroundings) (handle : Transport.Handle) (request : Request)
    (session : Session) :
    (run around handle request session).2.contacts =
      (fetched around handle request session).contacts := by
  rw [run, perform_eq]
  simp only [contacts_dumpAll, jar?_dumpAll, afterFetch]
  rfl

theorem jars_run (around : Surroundings) (handle : Transport.Handle) (request : Request)
    (session : Session) :
    (run around handle request session).2.jars =
      (session.setJar handle.pool.jar (fetched around handle request session).jar).jars := by
  rw [run, perform_eq]
  simp only [contacts_dumpAll, jar?_dumpAll, jars_dumpAll, afterFetch]
  exact jars_setJar_congr (jars_dumpAll _ _ session) _ _

/-- A response is there if all of it has come. -/
theorem result_eq_ok {treatment : Treatment} {timeout : Option Duration}
    {outcome : Except Halt (Url × Arrival)} {response : Response}
    (h : result treatment timeout outcome = .ok response) :
    ∃ url arrival, outcome = .ok (url, arrival) ∧ arrival.ending = .complete ∧
      response = arrival.response url
        (if treatment.discardBody then [] else arrival.shownBody treatment)
        treatment.discardBody := by
  unfold result at h
  split at h
  · cases h
  next url arrival =>
    unfold bodyResult at h
    split at h
    · cases h
    next hWhole =>
      cases h
      exact ⟨url, arrival, rfl, (halt?_eq_none_iff arrival).mp hWhole, rfl⟩

end Keeping

/-- What becomes of the body decides neither on success nor on anything besides the body. -/
theorem frame_result (treatment other : Treatment) (timeout : Option Duration)
    (outcome : Except Halt (Url × Arrival)) :
    (result treatment timeout outcome).map Response.frame =
      (result other timeout outcome).map Response.frame := by
  unfold result
  split
  · rfl
  next url arrival =>
    unfold bodyResult
    cases arrival.halt? <;> rfl

/-- However the body of a whole response is read, the dump shows what the response that keeps it
says. -/
theorem flatten_records {treatment other : Treatment} {timeout : Option Duration}
    {outcome : Except Halt (Url × Arrival)} {kept : Response}
    (hKept : result (treatment.apply .keep) timeout outcome = .ok kept)
    (hDecode : other.autoDecode = treatment.autoDecode) (flags : Flags) (request : Request) :
    (requestRecords flags request).flatten ++ (outcomeRecords flags other outcome).flatten =
      transcript flags request kept := by
  obtain ⟨url, arrival, rfl, hComplete, rfl⟩ := result_eq_ok hKept
  have hShown : arrival.shownBody other = arrival.shownBody treatment := by
    unfold Arrival.shownBody Arrival.isDecodedBy
    rw [hDecode]
  rw [outcomeRecords, flatten_requestRecords, flatten_responseRecords,
    flatten_bodyRecords_of_complete _ _ hComplete, hShown, ← List.append_assoc]
  rfl

/-- Two runs differ in nothing but in whether the body is kept.  Both succeed or both fail, and
then with the same failure; both send the same requests and leave the same cookies.  If they
succeed, the responses agree in all but the body: one is empty and marked as dropped, the other is
not marked and holds the body as it is shown, decoded if text is to be decoded and as received
otherwise.

An output that takes all records gains the same bytes in both runs, namely the transcript with the
body of the response that keeps it.  That goes for records that are written at once and, if none of
them is refused, for records that go through a hook beside a worker, in whatever order the moves of
both are taken. -/
theorem discarding_agrees_with_keeping (around : Surroundings) (handle : Transport.Handle)
    (request : Request) (session : Session) :
    let treatment := handle.treatment
    let keeping := run around { handle with treatment := treatment.apply .keep } request session
    let discarding :=
      run around { handle with treatment := treatment.apply .discard } request session
    let outcome := (fetched around handle request session).outcome
    keeping.1.map Response.frame = discarding.1.map Response.frame ∧
      keeping.2.contacts = discarding.2.contacts ∧ keeping.2.jars = discarding.2.jars ∧
      (∀ dropped, discarding.1 = .ok dropped → dropped.body = [] ∧ dropped.isDiscarded = true) ∧
      ∀ kept, keeping.1 = .ok kept →
        kept.isDiscarded = false ∧
        (∃ url arrival, outcome = .ok (url, arrival) ∧ arrival.ending = .complete ∧
          kept.body = arrival.shownBody treatment) ∧
        ∀ output place rule, session.outputs.natures[output.sink]? = some (place, rule) →
          rule.TakesAll →
          (∀ policy, session.policy? handle.hook = some policy → policy.2.isAsync = false →
            policy.2.output = some output →
            let shown := transcript policy.2.flags request kept
            Outputs.Gained output place shown session.outputs keeping.2.outputs ∧
              Outputs.Gained output place shown session.outputs discarding.2.outputs) ∧
          ∀ options, options.output = some output →
            let shown := transcript options.flags request kept
            (∀ after, Traffic.Leaves session.outputs request (treatment.apply .keep) options
                outcome after → Outputs.Gained output place shown session.outputs after) ∧
              ∀ after, Traffic.Leaves session.outputs request (treatment.apply .discard) options
                outcome after → Outputs.Gained output place shown session.outputs after := by
  intro treatment keeping discarding outcome
  have hKeeping : keeping.1 = result (treatment.apply .keep) request.timeout outcome :=
    run_fst around _ request session
  have hDiscarding : discarding.1 = result (treatment.apply .discard) request.timeout outcome :=
    run_fst around _ request session
  refine ⟨?_, ?_, ?_, ?_, ?_⟩
  · rw [hKeeping, hDiscarding]
    exact frame_result _ _ request.timeout outcome
  · rw [contacts_run, contacts_run]
    rfl
  · rw [jars_run, jars_run]
    rfl
  · intro dropped hDropped
    obtain ⟨url, arrival, -, -, rfl⟩ := result_eq_ok (hDiscarding.symm.trans hDropped)
    exact ⟨rfl, rfl⟩
  · intro kept hKept
    replace hKept := hKeeping.symm.trans hKept
    have hShown (other : Treatment) (hDecode : other.autoDecode = treatment.autoDecode)
        (flags : Flags) : (requestRecords flags request).flatten ++
          (outcomeRecords flags other outcome).flatten = transcript flags request kept :=
      flatten_records hKept hDecode flags request
    refine ⟨?_, ?_, fun output place rule hSink hRule => ⟨?_, ?_⟩⟩
    · obtain ⟨url, arrival, -, -, rfl⟩ := result_eq_ok hKept
      rfl
    · obtain ⟨url, arrival, hOutcome, hComplete, rfl⟩ := result_eq_ok hKept
      exact ⟨url, arrival, hOutcome, hComplete, rfl⟩
    · intro policy hPolicy hSync hOutput
      have hAtOnce : session.WritesAtOnce policy output place :=
        ⟨Session.lt_of_policy? hPolicy, hSync, hOutput, rule, hSink, hRule⟩
      have hGained (other : Treatment) (hDecode : other.autoDecode = treatment.autoDecode) :
          Outputs.Gained output place (transcript policy.2.flags request kept) session.outputs
            (run around { handle with treatment := other } request session).2.outputs := by
        rw [run, hPolicy, ← hShown other hDecode]
        exact gained_perform hAtOnce around handle.pool other request
      exact ⟨hGained _ rfl, hGained _ rfl⟩
    · intro options hOutput
      refine ⟨fun after hLeaves => ?_, fun after hLeaves => ?_⟩
      · rw [← hShown (treatment.apply .keep) rfl]
        exact Traffic.gained_of_leaves hLeaves hOutput hSink hRule
      · rw [← hShown (treatment.apply .discard) rfl]
        exact Traffic.gained_of_leaves hLeaves hOutput hSink hRule

/-- A body comes in three pieces, one of them empty.  Kept or dropped, written at once or in the
background, it is shown as a whole. -/
theorem discarding_agrees_with_keeping_in_pieces :
    let url : Url := ⟨"http", [], none, some (.domain "h"), none, .segments [[]], none, none⟩
    let request : Request := ⟨.get, url, .http11, .empty, none, none⟩
    let arrival : Arrival :=
      ⟨.http11, ⟨200, by decide, by decide⟩, .empty, [[97], [], [98]], .complete⟩
    let around : Surroundings := ⟨.replay [.answer arrival], ⟨∅⟩, 0⟩
    let pool : Pool := ⟨Config.standard.transport, Config.standard.timeouts, none⟩
    let options : Options := ⟨Preset.body.flags, false, some .stdout⟩
    let session : Session :=
      { Session.onDisk (.ofHome []) with cells := [some options], hooks := [.onCell 0] }
    let handle (change : Treatment.Change) : Transport.Handle :=
      ⟨pool, Treatment.standard.apply change, some 0⟩
    let relayed (change : Treatment.Change) (records : Nat) : Traffic :=
      (Traffic.start 0 1 (options.inBackground true) session.outputs).run
        (.start 0 request (Treatment.standard.apply change) ::
          .answer 0 (.ok (url, arrival)) :: Traffic.turns 0 records ++
          (List.replicate records [.relay .take, .relay .put, .relay .release]).flatten)
    (run around (handle .keep) request session).2.outputs.stdout = [97, 98, 13, 10] ∧
      (run around (handle .discard) request session).2.outputs.stdout = [97, 98, 13, 10] ∧
      (relayed .keep 1).relay.outputs.stdout = [97, 98, 13, 10] ∧
      (relayed .discard 4).relay.outputs.stdout = [97, 98, 13, 10] := by
  intro url request arrival around pool options session handle relayed
  have hAgree := discarding_agrees_with_keeping around (handle .keep) request session
  have hOutcome : (fetched around (handle .keep) request session).outcome = .ok (url, arrival) :=
    outcome_fetch_of_answer (by decide) (by decide) rfl (by decide)
  have hKept : (run around (handle .keep) request session).1 =
      .ok ⟨arrival.status, .http11, .empty, url, [97, 98], false⟩ := by
    rw [run_fst, hOutcome]
    rfl
  have hEnd : session.outputs.AtEnd .stdout := Dump.Outputs.atEnd_stdout _
  obtain ⟨-, -, -, -, hRest⟩ := hAgree
  obtain ⟨-, -, hDump⟩ := hRest _ hKept
  obtain ⟨hAtOnce, hLeaves⟩ := hDump .stdout .stdout .takeAll rfl Dump.Rule.takesAll_takeAll
  obtain ⟨hKeeping, hDiscarding⟩ := hAtOnce (0, options) rfl rfl rfl
  obtain ⟨hLeft, hRight⟩ := hLeaves (options.inBackground true) rfl
  rw [hOutcome] at hLeft hRight
  have hShown : session.outputs.contents .stdout ++
      transcript options.flags request ⟨arrival.status, .http11, .empty, url, [97, 98], false⟩ =
        [97, 98, 13, 10] := rfl
  have hKeptLeft := hLeft (relayed .keep 1).relay.outputs
    ⟨0, _, _, by decide +kernel, by decide +kernel, by decide +kernel, rfl⟩
  have hDroppedLeft := hRight (relayed .discard 4).relay.outputs
    ⟨0, _, _, by decide +kernel, by decide +kernel, by decide +kernel, rfl⟩
  exact ⟨(hKeeping.contents hEnd).trans hShown, (hDiscarding.contents hEnd).trans hShown,
    (hKeptLeft.contents hEnd).trans hShown, (hDroppedLeft.contents hEnd).trans hShown⟩

end Exchange
end Wiretap
