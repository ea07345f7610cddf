import Wiretap.Proofs.Exchange.Footprint
import Wiretap.Proofs.Exchange.Transparency
import Wiretap.Proofs.Session.Appending

/-!
# The transcript of an exchange

An output that takes every record at once and as a whole shows an exchange part by
part: the request, then the response, and of both only what has been asked for.  The
records in which a body is written do not show: pieces and line end together are the
body with its line end.

* `Exchange.requestText`, `Exchange.headText` and `Exchange.bodyText` are the parts.
* `Exchange.gained_perform` says that an exchange appends its records, one behind the
  other.
* `Exchange.run_writes_selected_parts` says which bytes these are.
-/

namespace Wiretap
namespace Exchange

/-- What is shown of a request. -/
def requestText (flags : Dump.Flags) (request : Request) : Bytes :=
  (if flags.requestHead then
      Head.request request.method request.url request.version request.headers
    else [])
    ++ (if flags.requestBody then (request.body.map Body.record).getD [] else [])

/-- What is shown of the head of a response. -/
def headText (flags : Dump.Flags) (arrival : Arrival) : Bytes :=
  if flags.responseHead then Head.response arrival.version arrival.status arrival.headers else []

/-- What is shown of a response body that is complete: its text if it is decoded, and otherwise
the body as received. -/
def bodyText (flags : Dump.Flags) (treatment : Treatment) (arrival : Arrival) : Bytes :=
  if flags.responseBody then
    Body.record (if arrival.isDecodedBy treatment then arrival.decoded else arrival.bytes)
  else []

section Flatten

variable (flags : Dump.Flags) (treatment : Treatment) (arrival : Arrival)

theorem flatten_requestRecords (request : Request) :
    (requestRecords flags request).flatten = requestText flags request := by
  unfold requestRecords requestText
  rw [List.flatten_append]
  congr 1
  · split <;> simp
  · cases request.body with
    | none => simp
    | some body => cases flags.requestBody <;> simp

theorem flatten_responseRecords :
    (responseRecords flags treatment arrival).flatten =
      headText flags arrival ++
        (if flags.responseBody then (bodyRecords treatment arrival).flatten else []) := by
  unfold responseRecords headText
  rw [List.flatten_append]
  congr 1
  · split <;> simp
  · split <;> rfl

theorem halt?_eq_none_iff : arrival.halt? = none ↔ arrival.ending = .complete := by
  unfold Arrival.halt?
  cases arrival.ending <;> simp

/-- However a complete body is written, its records make up the body with a line end. -/
theorem flatten_bodyRecords_of_complete (h : arrival.ending = .complete) :
    (bodyRecords treatment arrival).flatten = Body.record (arrival.shownBody treatment) := by
  have hHalt : arrival.halt? = none := (halt?_eq_none_iff arrival).2 h
  unfold bodyRecords
  cases hDecoded : arrival.isDecodedBy treatment with
  | true => simp [hHalt]
  | false =>
      cases treatment.discardBody with
      | false => simp [hHalt]
      | true =>
          -- The pieces have been written on their own, and the line end behind them.
          simp [hHalt, Arrival.shownBody, hDecoded, Body.record, Arrival.bytes]

/-- Of a body that is not complete there are its pieces, if they are written as they come in, and
otherwise nothing. -/
theorem flatten_bodyRecords_of_halt {halt : Halt} (h : arrival.halt? = some halt) :
    (bodyRecords treatment arrival).flatten =
      if treatment.discardBody && !arrival.isDecodedBy treatment then arrival.bytes else [] := by
  unfold bodyRecords
  split <;> simp [h, Arrival.bytes]

end Flatten

section Gained

variable {session : Session} {policy : Session.Policy} {output : Dump.Output}
  {place : Dump.Place}

/-- Records that are written at once stand one behind the other. -/
theorem gained_dumpAll (h : session.WritesAtOnce policy output place)
    (records : Dump.Flags → List Bytes) :
    Dump.Outputs.Gained output place (records policy.2.flags).flatten session.outputs
      (dumpAll (some policy) records session).outputs := by
  obtain ⟨hook, options⟩ := policy
  unfold dumpAll
  dsimp only
  generalize records options.flags = list
  induction list generalizing session with
  | nil => exact .refl output place session.outputs
  | cons record rest ih =>
      have hLater := h.later (session.confined_dump hook options record)
      exact (Session.gained_dump h record).trans (ih hLater)

@[simp]
theorem outputs_afterFetch (policy : Option Session.Policy) (session : Session) (pool : Pool)
    (request : Request) (fetched : Fetched) :
    (afterFetch policy session pool request fetched).outputs =
      (dumpAll policy (fun flags => requestRecords flags request) session).outputs := by
  unfold afterFetch Session.setJar
  split <;> rfl

@[simp]
theorem hooks_afterFetch (policy : Option Session.Policy) (session : Session) (pool : Pool)
    (request : Request) (fetched : Fetched) :
    (afterFetch policy session pool request fetched).hooks =
      (dumpAll policy (fun flags => requestRecords flags request) session).hooks := by
  unfold afterFetch Session.setJar
  split <;> rfl

/-- An exchange appends the records of its request, and then those of what has come back. -/
theorem gained_perform (h : session.WritesAtOnce policy output place) (around : Surroundings)
    (pool : Pool) (treatment : Treatment) (request : Request) :
    let fetched :=
      fetch around pool.config.proxy request (session.jar? pool.jar) session.contacts
    Dump.Outputs.Gained output place
      ((requestRecords policy.2.flags request).flatten ++
        (outcomeRecords policy.2.flags treatment fetched.outcome).flatten)
      session.outputs (perform around pool treatment (some policy) request session).2.outputs := by
  dsimp only
  rw [perform_eq]
  simp only [jar?_dumpAll, contacts_dumpAll]
  generalize fetch around pool.config.proxy request (session.jar? pool.jar) session.contacts =
    fetched
  have hRequest := gained_dumpAll h fun flags => requestRecords flags request
  have hLater := h.later (confined_afterFetch (some policy) session pool request fetched)
  have hOutcome := gained_dumpAll hLater fun flags =>
    outcomeRecords flags treatment fetched.outcome
  rw [outputs_afterFetch] at hOutcome
  exact hRequest.trans hOutcome

end Gained

/-- What an exchange appends to an output that is written to at once and takes every record as a
whole.  Without a response it is what is asked for of the request.  With a response there follow
what is asked for of its head and then, if the body is asked for and complete, the body with its
line end.  Whether it is complete or not, nothing is written of a body that is not asked for.  No
other place changes. -/
theorem run_writes_selected_parts {session : Session} {handle : Transport.Handle}
    {policy : Session.Policy} {output : Dump.Output} {place : Dump.Place} {rule : Dump.Rule}
    (hPolicy : session.policy? handle.hook = some policy) (hSync : policy.2.isAsync = false)
    (hOutput : policy.2.output = some output)
    (hSink : session.outputs.natures[output.sink]? = some (place, rule)) (hRule : rule.TakesAll)
    (around : Surroundings) (request : Request) :
    let flags := policy.2.flags
    let after := (run around handle request session).2
    match (fetch around handle.pool.config.proxy request (session.jar? handle.pool.jar)
        session.contacts).outcome with
    | .error _ =>
      Dump.Outputs.Gained output place (requestText flags request) session.outputs after.outputs
    | .ok (_, arrival) =>
      ∃ body,
        Dump.Outputs.Gained output place
            (requestText flags request ++ headText flags arrival ++ body)
            session.outputs after.outputs ∧
          (arrival.ending = .complete → body = bodyText flags handle.treatment arrival) ∧
          (flags.responseBody = false → body = []) := by
  have hAtOnce : session.WritesAtOnce policy output place :=
    ⟨Session.lt_of_policy? hPolicy, hSync, hOutput, rule, hSink, hRule⟩
  have hGained := gained_perform hAtOnce around handle.pool handle.treatment request
  dsimp only at hGained ⊢
  rw [run, hPolicy]
  rw [flatten_requestRecords] at hGained
  split
  next halt hOutcome =>
    rw [hOutcome, outcomeRecords, List.flatten_nil, List.append_nil] at hGained
    exact hGained
  next url arrival hOutcome =>
    rw [hOutcome, outcomeRecords, flatten_responseRecords, ← List.append_assoc] at hGained
    refine ⟨_, hGained, ?_, ?_⟩
    · intro hComplete
      unfold bodyText
      rw [flatten_bodyRecords_of_complete _ _ hComplete]
      rfl
    · intro hUnasked
      rw [hUnasked]
      rfl

/-- A body that comes in pieces and is dropped is shown as a whole, and once. -/
theorem run_writes_selected_parts_of_pieces :
    let url : Url := ⟨"http", [], none, some (.domain "h"), none, .segments [[]], none, none⟩
    let request : Request := ⟨.get, url, .http11, .empty, some [120], none⟩
    let arrival : Arrival :=
      ⟨.http11, ⟨200, by decide, by decide⟩, .empty, [[97], [], [98]], .complete⟩
    let around : Surroundings := ⟨.replay [.answer arrival], ⟨∅⟩, 0⟩
    let pool : Pool := ⟨Config.standard.transport, Config.standard.timeouts, none⟩
    let session : Session :=
      { Session.onDisk (.ofHome []) with cells := [some .standard], hooks := [.onCell 0] }
    (run around ⟨pool, ⟨false, true⟩, some 0⟩ request session).2.outputs.stdout =
      requestText .all request ++ headText .all arrival ++ [97, 98, 13, 10] := by
  intro url request arrival around pool session
  have hPolicy : session.policy? (some 0) = some (0, .standard) := rfl
  have hSink : session.outputs.natures[Dump.Output.stdout.sink]? = some (.stdout, .takeAll) := rfl
  have hRun := @run_writes_selected_parts session ⟨pool, ⟨false, true⟩, some 0⟩ _ _ _ _ hPolicy rfl
    rfl hSink Dump.Rule.takesAll_takeAll around request
  have hOutcome : (fetch around pool.config.proxy request (session.jar? pool.jar)
      session.contacts).outcome = .ok (request.url, arrival) :=
    outcome_fetch_of_answer (by decide) (by decide) rfl (by decide)
  dsimp only at hRun
  rw [hOutcome] at hRun
  obtain ⟨body, hGained, hBody, -⟩ := hRun
  rw [hBody rfl] at hGained
  exact hGained.contents (Dump.Outputs.atEnd_stdout _)

end Exchange
end Wiretap
