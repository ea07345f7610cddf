import Wiretap.Proofs.Client.Quiet
import Wiretap.Proofs.Exchange.Flushed

/-!
# Records on standard output

An exchange that dumps passes its records on to an output, which may be standard output.  If they
are written at once, all of them get there.  If they go through the queue, those are missing that
found it full, and what is missing depends on when the worker sets to work; but as many as can wait
get there in any case.

* `Draft.printed` are the records that an exchange passes on to standard output, and `Draft.shown`
  those of them for which there is room even if the worker does nothing until the exchange is over.
* `Client.stdout_flush_send` says that these stand there when the worker has finished.
* `Draft.stdout_of_flushed` says what stands there in whatever order the exchange and the worker
  move.
* `Draft.length_flatten_shown_lt` says that something is lost if there are too many.
-/

namespace Wiretap

open Dump

/-- The records that a draft passes on to standard output when it is sent, in order. -/
def Draft.printed (around : Surroundings) (draft : Draft) (session : Session) : List Bytes :=
  match session.policy? draft.handle.hook, draft.build with
  | some (_, options), .ok request =>
    if options.place? session.outputs = some .stdout then
      ((Exchange.records options.flags draft.handle.treatment request
        (Exchange.fetched around draft.handle request session).outcome).filterMap
          options.job?).map Job.record
    else []
  | _, _ => []

theorem Draft.printed_of_policy? {draft : Draft} {session : Session} {number : Nat}
    {options : Options} {request : Request}
    (hPolicy : session.policy? draft.handle.hook = some (number, options))
    (hBuild : draft.build = .ok request) (around : Surroundings) :
    draft.printed around session =
      if options.place? session.outputs = some .stdout then
        ((Exchange.records options.flags draft.handle.treatment request
          (Exchange.fetched around draft.handle request session).outcome).filterMap
            options.job?).map Job.record
      else [] := by
  rw [printed, hPolicy, hBuild]

/-- Those among the records that are passed on to standard output that are never refused, however
late the worker sets to work: all of them if they are written at once, and otherwise as many as can
wait, from the first one on. -/
def Draft.shown (around : Surroundings) (draft : Draft) (session : Session) : List Bytes :=
  if (session.policy? draft.handle.hook).any fun policy => policy.2.isAsync then
    (draft.printed around session).take queueLimit
  else draft.printed around session

theorem Draft.shown_of_nil {around : Surroundings} {draft : Draft} {session : Session}
    (h : draft.printed around session = []) : draft.shown around session = [] := by
  rw [shown, h, List.take_nil, ite_self]

section Printed

variable {draft : Draft} {session : Session} {around : Surroundings}

/-- If the records of an exchange go to standard output, all but the empty ones are passed on. -/
theorem Draft.printed_eq_filter {number : Nat} {options : Options} {request : Request}
    (hPolicy : session.policy? draft.handle.hook = some (number, options))
    (hBuild : draft.build = .ok request)
    (hPlace : options.place? session.outputs = some .stdout) :
    draft.printed around session =
      (Exchange.records options.flags draft.handle.treatment request
        (Exchange.fetched around draft.handle request session).outcome).filter (!·.isEmpty) := by
  rw [printed_of_policy? hPolicy hBuild, if_pos hPlace]
  cases hOutput : options.output with
  | none => simp [Options.place?, hOutput] at hPlace
  | some output => exact Options.map_filterMap_job? hOutput _

theorem Draft.ne_nil_of_mem_printed {record : Bytes} (h : record ∈ draft.printed around session) :
    record ≠ [] := by
  unfold printed at h
  split at h
  · split at h
    · obtain ⟨job, hJob, rfl⟩ := List.mem_map.mp h
      obtain ⟨record, -, hRecord⟩ := List.mem_filterMap.mp hJob
      obtain ⟨hNonempty, -, rfl⟩ := Options.job?_eq_some_iff.mp hRecord
      exact hNonempty
    · cases h
  · cases h

/-- Of more records than can wait, some are not shown if they have to wait. -/
theorem Draft.length_flatten_shown_lt {policy : Session.Policy}
    (hPolicy : session.policy? draft.handle.hook = some policy) (hAsync : policy.2.isAsync = true)
    (hMany : queueLimit < (draft.printed around session).length) :
    (draft.shown around session).flatten.length <
      (draft.printed around session).flatten.length := by
  generalize hAll : draft.printed around session = printed at hMany ⊢
  have hShown : draft.shown around session = printed.take queueLimit := by
    rw [shown, hPolicy, Option.any_some, hAsync, if_pos rfl, hAll]
  have hLength : printed.flatten.length =
      (printed.take queueLimit).flatten.length + (printed.drop queueLimit).flatten.length := by
    rw [← List.length_append, ← List.flatten_append, List.take_append_drop]
  have hRest : printed.drop queueLimit ≠ [] := by
    rw [Ne, List.drop_eq_nil_iff]
    exact Nat.not_le.mpr hMany
  obtain ⟨record, hRecord⟩ := List.exists_mem_of_ne_nil _ hRest
  have hMem : record ∈ draft.printed around session := hAll ▸ List.mem_of_mem_drop hRecord
  have hLost : (printed.drop queueLimit).flatten ≠ [] := fun hNil =>
    ne_nil_of_mem_printed hMem (List.flatten_eq_nil_iff.mp hNil record hRecord)
  have hPos := List.length_pos_of_ne_nil hLost
  rw [hShown]
  omega

end Printed

/-- If the records go to standard output, those are shown that a hook at rest accepts. -/
theorem Draft.shown_of_policy? {draft : Draft} {session : Session} {number : Nat}
    {options : Options} {request : Request}
    (hPolicy : session.policy? draft.handle.hook = some (number, options))
    (hBuild : draft.build = .ok request) {around : Surroundings}
    (hPlace : options.place? session.outputs = some .stdout) :
    draft.shown around session =
      (options.accepted (Exchange.records options.flags draft.handle.treatment request
        (Exchange.fetched around draft.handle request session).outcome)).map Job.record := by
  rw [shown, printed_of_policy? hPolicy hBuild, if_pos hPlace, hPolicy, Option.any_some,
    Options.accepted]
  split
  · rw [List.map_take]
  · rfl

/-- An exchange that reads no options writes nothing. -/
theorem Exchange.run_of_no_policy {session : Session} {handle : Transport.Handle}
    (h : session.policy? handle.hook = none) (around : Surroundings) (request : Request) :
    (run around handle request session).2.outputs = session.outputs ∧
      (run around handle request session).2.hooks = session.hooks := by
  rw [run, h, perform_eq]
  exact ⟨outputs_afterFetch none session handle.pool request _,
    hooks_afterFetch none session handle.pool request _⟩

namespace Client

theorem outputs_flush_of_onCell (client : Client) {session : Session}
    (h : ∀ hook ∈ session.hooks, ∃ cell, hook = .onCell cell) :
    (client.flush session).outputs = session.outputs := by
  unfold flush
  split
  next number _ => exact Session.outputs_drain_of_onCell h number
  next => rfl

/-- A request is sent and the worker finishes.  Standard output has grown by the records that are
shown. -/
theorem stdout_flush_send {client : Client} {session : Session} {draft : Draft}
    (hHandle : draft.handle = client.transport.handle) (h : session.Untouched)
    (around : Surroundings) :
    (client.flush (draft.send around session).2).outputs.stdout =
      session.outputs.stdout ++ (draft.shown around session).flatten := by
  have hHook : draft.handle.hook = client.transport.hook := congrArg Transport.Handle.hook hHandle
  cases hBuild : draft.build with
  | error setback =>
      have hNothing : draft.printed around session = [] := by
        rw [Draft.printed, hBuild]
        split
        next hRequest => cases hRequest
        next => rfl
      rw [Draft.send_of_build_error hBuild, Draft.shown_of_nil hNothing,
        client.outputs_flush_of_onCell h.hooks, List.flatten_nil, List.append_nil]
  | ok request =>
      have hSent : (draft.send around session).2 =
          (Exchange.run around draft.handle request session).2 := by
        rw [Draft.send_of_build_ok hBuild]
        rfl
      rw [hSent]
      cases hPolicy : session.policy? draft.handle.hook with
      | none =>
          have hNothing : draft.printed around session = [] := by
            rw [Draft.printed, hPolicy]
          obtain ⟨hOutputs, hHooks⟩ := Exchange.run_of_no_policy hPolicy around request
          rw [Draft.shown_of_nil hNothing, client.outputs_flush_of_onCell (hHooks ▸ h.hooks),
            hOutputs, List.flatten_nil, List.append_nil]
      | some policy =>
          obtain ⟨number, options⟩ := policy
          obtain ⟨hNumber, cell, hThere⟩ := h.hook_of_policy? hPolicy
          have hFlush (last : Session) : client.flush last = last.drain number := by
            rw [flush, ← hHook, hNumber]
          have hStdout := Exchange.stdout_flushed hPolicy hThere h.takesAll around request
          rw [hFlush]
          by_cases hPlace : options.place? session.outputs = some .stdout
          · rw [if_pos hPlace] at hStdout
            rwa [Draft.shown_of_policy? hPolicy hBuild hPlace]
          · have hNothing : draft.printed around session = [] := by
              rw [Draft.printed_of_policy? hPolicy hBuild, if_neg hPlace]
            rw [if_neg hPlace] at hStdout
            rwa [Draft.shown_of_nil hNothing]

end Client

/-- The exchange and a worker beside it move in any order.  When both are done, standard output has
grown by the records that are passed on to it, but for those that were refused. -/
theorem Draft.stdout_of_flushed {draft : Draft} {session : Session} {number : Nat}
    {options : Options} {request : Request} {around : Surroundings}
    (hPolicy : session.policy? draft.handle.hook = some (number, options))
    (hBuild : draft.build = .ok request)
    (hRules : ∀ nature ∈ session.outputs.natures, nature.2.TakesAll)
    {cell : Nat} {stored : Options} {moves : List Traffic.Move}
    (hLane : ((Traffic.start cell 1 stored session.outputs).run moves).lane? 0 =
      some ⟨request, draft.handle.treatment, options,
        some (Exchange.fetched around draft.handle request session).outcome, []⟩)
    (hFlushed :
      ((Traffic.start cell 1 stored session.outputs).run moves).relay.hook.isFlushed = true) :
    let relay := ((Traffic.start cell 1 stored session.outputs).run moves).relay
    let printed := draft.printed around session
    ∃ written : List Bytes, written.Sublist printed ∧
      (printed ≠ [] → printed.length = written.length + (relay.refusedOf 0).length) ∧
      (options.isAsync = false → written = printed) ∧
      relay.outputs.stdout = session.outputs.stdout ++ written.flatten := by
  intro relay printed
  obtain ⟨done, hOrder, hMissing, hAtOnce, hOutputs⟩ := Traffic.hushed_of_flushed hLane hFlushed
  have hTarget : ∀ job ∈ done, options.output = some job.output := by
    intro job hMem
    obtain ⟨record, -, hJob⟩ := List.mem_filterMap.mp (hOrder.subset hMem)
    exact (Options.job?_eq_some_iff.mp hJob).2.1
  have hNatures : ∀ nature ∈ session.outputs.hushed.natures, nature.2.TakesAll := hRules
  have hStdout : relay.outputs.stdout = session.outputs.stdout ++
      if options.place? session.outputs = some .stdout then (done.map Job.record).flatten else [] :=
    (congrArg Outputs.stdout hOutputs).trans
      (Outputs.stdout_foldl_handOver hNatures hTarget)
  have hPrinted : printed = _ := Draft.printed_of_policy? hPolicy hBuild around
  by_cases hPlace : options.place? session.outputs = some .stdout
  · rw [if_pos hPlace] at hStdout hPrinted
    refine ⟨done.map Job.record, ?_, fun _ => ?_, fun hSync => ?_, hStdout⟩
    · rw [hPrinted]
      exact hOrder.map Job.record
    · rw [hPrinted, List.length_map, List.length_map]
      exact hMissing
    · rw [hPrinted, hAtOnce hSync]
      rfl
  · rw [if_neg hPlace] at hStdout hPrinted
    rw [hPrinted]
    exact ⟨[], List.Sublist.refl _, fun h => absurd rfl h, fun _ => rfl, hStdout⟩

/-- A body that comes in pieces and is neither kept nor decoded makes as many records as it has
pieces, besides the two heads and the line end behind it. -/
theorem Exchange.length_records_of_pieces {request : Request} {arrival : Arrival}
    (hBody : request.body = none) (hText : arrival.isText = false)
    (hWhole : arrival.ending = .complete) (hChunks : ∀ chunk ∈ arrival.chunks, chunk ≠ [])
    (url : Url) :
    ((records Flags.all ⟨true, true⟩ request (.ok (url, arrival))).filter
      (!·.isEmpty)).length = arrival.chunks.length + 3 := by
  have hHalt : arrival.halt? = none := by rw [Arrival.halt?, hWhole]
  have hPieces : arrival.chunks.filter (!·.isEmpty) = arrival.chunks := by
    refine List.filter_eq_self.mpr fun chunk hMem => ?_
    simp [hChunks chunk hMem]
  have hRecords : records Flags.all ⟨true, true⟩ request (.ok (url, arrival)) =
      [Head.request request.method request.url request.version request.headers,
        Head.response arrival.version arrival.status arrival.headers] ++ arrival.chunks ++
          [Bytes.crlf] := by
    simp [records, requestRecords, outcomeRecords, responseRecords, bodyRecords,
      Arrival.isDecodedBy, Flags.all, hBody, hText, hHalt]
  rw [hRecords, List.filter_append, List.filter_append, hPieces]
  simp [Head.request, Head.requestLine, Head.response, Head.statusLine, Bytes.crlf]

end Wiretap
