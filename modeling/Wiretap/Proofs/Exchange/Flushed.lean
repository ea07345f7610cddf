import Wiretap.Proofs.Exchange.Retention

/-!
# An exchange through a hook at rest

A hook that has nothing to write takes the records of one exchange and then lets its worker
finish.  What has reached the outputs by then does not depend on the way: records that are
written at once and records that have waited in the queue stand there alike, but for those that
found the queue full.

* `Dump.Options.accepted` are the records of which nothing is lost.
* `Exchange.hushed_flushed` says that the outputs have been given these, and nothing else.
* `Dump.Options.place?` is the place that records go to, and `Exchange.stdout_flushed` says what
  standard output has received.
-/

namespace Wiretap

open Dump

namespace Dump

/-- The records that a hook at rest accepts, on their way to the output of the options.  All of them
are written at once or, if they have to wait, as many as there is room for. -/
def Options.accepted (options : Options) (records : List Bytes) : List Job :=
  if options.isAsync then (records.filterMap options.job?).take queueLimit
  else records.filterMap options.job?

/-- A hook accepts records from the first one on. -/
theorem Options.accepted_prefix (options : Options) (records : List Bytes) :
    options.accepted records <+: records.filterMap options.job? := by
  unfold accepted
  split
  · exact List.take_prefix _ _
  · exact List.prefix_rfl

theorem Options.output_of_mem_accepted {options : Options} {records : List Bytes} {job : Job}
    (h : job ∈ options.accepted records) : options.output = some job.output := by
  have hMem := (options.accepted_prefix records).subset h
  obtain ⟨record, -, hJob⟩ := List.mem_filterMap.mp hMem
  exact (Options.job?_eq_some_iff.mp hJob).2.1

namespace Hook

variable {hook : Hook} {options : Options}

/-- Records that are written at once reach the outputs, and the hook is as it was. -/
theorem foldl_write_of_sync (hSync : options.isAsync = false) (records : List Bytes)
    (outputs : Outputs) :
    records.foldl (fun state record => state.1.write options record state.2) (hook, outputs) =
      (hook, (records.filterMap options.job?).foldl Outputs.receive outputs) := by
  induction records generalizing outputs with
  | nil => rfl
  | cons record rest ih =>
      cases hJob : options.job? record with
      | none =>
          have hWrite : hook.write options record outputs = (hook, outputs) := by
            simp only [write, hJob]
          rw [List.foldl_cons, hWrite, ih, List.filterMap_cons_none hJob]
      | some job =>
          have hWrite : hook.write options record outputs = (hook, outputs.receive job) := by
            simp only [write, hJob, hSync]
            rfl
          rw [List.foldl_cons, hWrite, ih, List.filterMap_cons_some hJob, List.foldl_cons]

/-- Records that have to wait stand in the queue as far as there is room, and the outputs get
nothing but warnings. -/
theorem foldl_write_of_async (hAsync : options.isAsync = true) (records : List Bytes)
    (outputs : Outputs) (hRoom : hook.queue.length ≤ queueLimit) :
    let written :=
      records.foldl (fun state record => state.1.write options record state.2) (hook, outputs)
    written.1.queue = (hook.queue ++ records.filterMap options.job?).take queueLimit ∧
      written.1.inHand = hook.inHand ∧ written.2.hushed = outputs.hushed := by
  induction records generalizing hook outputs with
  | nil =>
      refine ⟨?_, rfl, rfl⟩
      rw [List.filterMap_nil, List.append_nil, List.take_of_length_le hRoom]
      rfl
  | cons record rest ih =>
      rw [List.foldl_cons]
      cases hJob : options.job? record with
      | none =>
          have hWrite : hook.write options record outputs = (hook, outputs) := by
            simp only [write, hJob]
          rw [hWrite, List.filterMap_cons_none hJob]
          exact ih outputs hRoom
      | some job =>
          have hWrite : hook.write options record outputs = hook.enqueue job outputs := by
            simp only [write, hJob, hAsync, if_true]
          rw [hWrite, List.filterMap_cons_some hJob]
          rcases Nat.lt_or_ge hook.queue.length queueLimit with hLess | hFull
          · let next : Hook :=
              { hook with queue := hook.queue ++ [job], pending := hook.pending + 1 }
            have hNext : next.queue.length ≤ queueLimit := by
              rw [List.length_append, List.length_singleton]
              omega
            have hRest := ih outputs hNext
            rw [List.append_assoc, List.singleton_append] at hRest
            rwa [enqueue_of_lt hLess]
          · -- The queue stays full, so none of the rest finds room either.
            rw [enqueue_of_le hFull]
            obtain ⟨hQueue, hHand, hOutputs⟩ := ih (outputs.warn .queueFull) hRoom
            refine ⟨?_, hHand, hOutputs⟩
            rw [hQueue, List.take_append_of_le_length hFull, List.take_append_of_le_length hFull]

/-- A worker that finishes hands over what is in the queue, one record after the other. -/
theorem drain_of_idle (hHand : hook.inHand = none) (outputs : Outputs) :
    (hook.drain outputs).2 = hook.queue.foldl Outputs.receive outputs := by
  unfold drain
  obtain ⟨cell, queue, inHand, pending⟩ := hook
  obtain rfl : inHand = none := hHand
  induction queue generalizing pending outputs with
  | nil => rfl
  | cons job rest ih => exact ih _ _

end Hook

/-- What has been written at once or by the worker is, but for warnings, what has been handed
over. -/
theorem Outputs.hushed_foldl_receive (jobs : List Job) (outputs : Outputs) :
    (jobs.foldl receive outputs).hushed = jobs.foldl handOver outputs.hushed := by
  induction jobs generalizing outputs with
  | nil => rfl
  | cons job rest ih => rw [List.foldl_cons, ih, List.foldl_cons, receive, hushed_record]

/-- A hook at rest that takes records and finishes has handed over those that it accepts. -/
theorem Hook.hushed_drain_onCell (cell : Nat) (options : Options) (records : List Bytes)
    (outputs : Outputs) :
    let written := records.foldl (fun state record => state.1.write options record state.2)
      (Hook.onCell cell, outputs)
    (written.1.drain written.2).2.hushed =
      (options.accepted records).foldl Outputs.handOver outputs.hushed := by
  intro written
  cases hAsync : options.isAsync with
  | false =>
      have hWritten : written = _ := foldl_write_of_sync hAsync records outputs
      rw [hWritten, drain_of_idle rfl, Options.accepted, hAsync]
      exact Outputs.hushed_foldl_receive _ outputs
  | true =>
      have hRoom : (onCell cell).queue.length ≤ queueLimit := Nat.zero_le _
      obtain ⟨hQueue, hHand, hHushed⟩ := foldl_write_of_async hAsync records outputs hRoom
      have hIdle : written.1.inHand = none := hHand
      have hDrained := drain_of_idle hIdle written.2
      rw [hDrained, Outputs.hushed_foldl_receive, hHushed, hQueue, Options.accepted, hAsync]
      rfl

/-- The place that the records of options go to. -/
def Options.place? (options : Options) (outputs : Outputs) : Option Place :=
  options.output.bind fun output => outputs.natures[output.sink]?.map Prod.fst

namespace Outputs

variable {outputs : Outputs} {options : Options}

/-- A record for an output that has never been opened goes nowhere. -/
theorem foldl_handOver_of_none {output : Output} (hSink : outputs.natures[output.sink]? = none)
    {jobs : List Job} (hJobs : ∀ job ∈ jobs, job.output = output) :
    jobs.foldl handOver outputs = outputs := by
  have hNone : outputs.sinks[output.sink]? = none := by
    rwa [natures, List.getElem?_map, Option.map_eq_none_iff] at hSink
  induction jobs with
  | nil => rfl
  | cons job rest ih =>
      obtain ⟨hJob, hRest⟩ := List.forall_mem_cons.mp hJobs
      have hFirst : outputs.handOver job = outputs := by
        simp only [handOver, write, hJob, hNone]
      rw [List.foldl_cons, hFirst, ih hRest]

/-- What standard output receives of records that options send on their way: all of them, if they
go there, and otherwise nothing. -/
theorem stdout_foldl_handOver (hRules : ∀ nature ∈ outputs.natures, nature.2.TakesAll)
    {jobs : List Job} (hJobs : ∀ job ∈ jobs, options.output = some job.output) :
    (jobs.foldl handOver outputs).stdout = outputs.stdout ++
      if options.place? outputs = some .stdout then (jobs.map Job.record).flatten else [] := by
  cases hOutput : options.output with
  | none =>
      have hNone : jobs = [] := by
        rw [List.eq_nil_iff_forall_not_mem]
        intro job hMem
        rw [hOutput] at hJobs
        cases hJobs job hMem
      subst hNone
      simp
  | some output =>
      have hTarget : ∀ job ∈ jobs, job.output = output := fun job hMem =>
        Option.some.inj ((hJobs job hMem).symm.trans hOutput)
      have hPlace : options.place? outputs = outputs.natures[output.sink]?.map Prod.fst := by
        rw [Options.place?, hOutput, Option.bind_some]
      cases hSink : outputs.natures[output.sink]? with
      | none =>
          rw [hPlace, hSink, foldl_handOver_of_none hSink hTarget, if_neg (by simp),
            List.append_nil]
      | some nature =>
          obtain ⟨place, rule⟩ := nature
          have hRule : rule.TakesAll := hRules _ (List.mem_of_getElem? hSink)
          have hGained := gained_foldl_handOver hTarget hSink hRule
          rw [hPlace, hSink, Option.map_some]
          by_cases hStdout : place = .stdout
          · subst hStdout
            rw [if_pos rfl]
            refine hGained.contents fun sink location hFound hFile => ?_
            -- Standard output is no file, so there is no end to be at.
            rw [natures, List.getElem?_map, hFound] at hSink
            have hNature := congrArg Prod.fst (Option.some.inj hSink)
            exact absurd (hFile.symm.trans hNature) (by rintro ⟨⟩)
          · rw [if_neg fun hEq => hStdout (Option.some.inj hEq), List.append_nil]
            exact hGained.others .stdout (Ne.symm hStdout)

end Outputs

end Dump

namespace Exchange

/-- The records of an exchange in their order: those of the request, and those of what came back. -/
def records (flags : Flags) (treatment : Treatment) (request : Request)
    (outcome : Except Halt (Url × Arrival)) : List Bytes :=
  requestRecords flags request ++ outcomeRecords flags treatment outcome

/-- An exchange through a hook writes its records, one after the other. -/
theorem onHook_run {session : Session} {handle : Transport.Handle} {number : Nat} {hook : Hook}
    {options : Options} (hPolicy : session.policy? handle.hook = some (number, options))
    (hHook : session.hooks[number]? = some hook) (around : Surroundings) (request : Request) :
    let written := (records options.flags handle.treatment request
        (fetched around handle request session).outcome).foldl
      (fun state record => state.1.write options record state.2) (hook, session.outputs)
    let after := (run around handle request session).2
    after.hooks[number]? = some written.1 ∧ after.outputs = written.2 := by
  intro written after
  let reply := fetched around handle request session
  let sent := dumpAll (some (number, options)) (fun flags => requestRecords flags request) session
  obtain ⟨hAsked, hAskedOutputs⟩ :=
    Traffic.dumpAll_onHook hHook options (requestRecords options.flags request)
  let fetchedSession := afterFetch (some (number, options)) session handle.pool request reply
  have hThere : fetchedSession.hooks[number]? = sent.hooks[number]? := by
    rw [hooks_afterFetch]
  obtain ⟨hDone, hDoneOutputs⟩ := Traffic.dumpAll_onHook (hThere.trans hAsked) options
    (outcomeRecords options.flags handle.treatment reply.outcome)
  have hOutputs : fetchedSession.outputs = _ :=
    (outputs_afterFetch _ session handle.pool request reply).trans hAskedOutputs
  rw [hOutputs] at hDone hDoneOutputs
  have hAfter : after =
      dumpAll (some (number, options))
        (fun flags => outcomeRecords flags handle.treatment reply.outcome) fetchedSession := by
    show (run around handle request session).2 = _
    rw [run, hPolicy, perform_eq]
    simp only [jar?_dumpAll, contacts_dumpAll]
    rfl
  have hWritten : written = _ := List.foldl_append
  rw [hAfter, hWritten]
  exact ⟨hDone, hDoneOutputs⟩

/-- An exchange through a hook at rest, and its worker, hand over the records that the hook
accepts. -/
theorem hushed_flushed {session : Session} {handle : Transport.Handle} {number cell : Nat}
    {options : Options} (hPolicy : session.policy? handle.hook = some (number, options))
    (hHook : session.hooks[number]? = some (.onCell cell)) (around : Surroundings)
    (request : Request) :
    ((run around handle request session).2.drain number).outputs.hushed =
      (options.accepted (records options.flags handle.treatment request
        (fetched around handle request session).outcome)).foldl Outputs.handOver
          session.outputs.hushed := by
  obtain ⟨hThere, hOutputs⟩ := onHook_run hPolicy hHook around request
  simp only [Session.drain, Session.onHook, hThere, hOutputs]
  exact Hook.hushed_drain_onCell cell options _ session.outputs

/-- Standard output has grown by the records that the hook accepts, if they go there. -/
theorem stdout_flushed {session : Session} {handle : Transport.Handle} {number cell : Nat}
    {options : Options} (hPolicy : session.policy? handle.hook = some (number, options))
    (hHook : session.hooks[number]? = some (.onCell cell))
    (hRules : ∀ nature ∈ session.outputs.natures, nature.2.TakesAll) (around : Surroundings)
    (request : Request) :
    let flushed := (run around handle request session).2.drain number
    flushed.outputs.stdout = session.outputs.stdout ++
      if options.place? session.outputs = some .stdout then
        ((options.accepted (records options.flags handle.treatment request
          (fetched around handle request session).outcome)).map Job.record).flatten
      else [] := by
  intro flushed
  have hHushed := hushed_flushed hPolicy hHook around request
  have hStdout := congrArg Outputs.stdout hHushed
  have hNatures : ∀ nature ∈ session.outputs.hushed.natures, nature.2.TakesAll := hRules
  rw [Outputs.stdout_foldl_handOver hNatures fun _ => Options.output_of_mem_accepted] at hStdout
  exact hStdout

end Exchange
end Wiretap
