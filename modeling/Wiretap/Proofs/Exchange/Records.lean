import Wiretap.Exchange.Basic

/-!
# The records of an exchange

An exchange reads a body in one of four ways and writes while it reads.  Here it
is shown to come down to two things that can be told apart: the records, which
follow from the flags, the request and what came back, and the result, which
follows from what came back alone.

* `Exchange.requestRecords` and `Exchange.responseRecords` are the records, in order.
* `Exchange.result` is what the caller gets.
* `Exchange.receive_eq` and `Exchange.perform_eq` say that an exchange gives this
  result and writes these records.
-/

namespace Wiretap

namespace Arrival

/-- The body as it is kept and dumped. -/
def shownBody (arrival : Arrival) (treatment : Treatment) : Bytes :=
  if arrival.isDecodedBy treatment then arrival.decoded else arrival.bytes

end Arrival

namespace Exchange

/-- The records of a request. -/
def requestRecords (flags : Dump.Flags) (request : Request) : List Bytes :=
  (if flags.requestHead then
      [Head.request request.method request.url request.version request.headers]
    else [])
    ++ (match request.body with
      | some body => if flags.requestBody then [Body.record body] else []
      | none => [])

/-- The records of a response body.  A body that is neither kept nor decoded is written as it
comes in, with the line end behind it only if it is complete; any other body is written when all
of it is there. -/
def bodyRecords (treatment : Treatment) (arrival : Arrival) : List Bytes :=
  if treatment.discardBody && !arrival.isDecodedBy treatment then
    arrival.chunks ++ (if arrival.halt?.isNone then [Bytes.crlf] else [])
  else if arrival.halt?.isNone then [Body.record (arrival.shownBody treatment)]
  else []

/-- The records of a response. -/
def responseRecords (flags : Dump.Flags) (treatment : Treatment) (arrival : Arrival) :
    List Bytes :=
  (if flags.responseHead then
      [Head.response arrival.version arrival.status arrival.headers]
    else [])
    ++ (if flags.responseBody then bodyRecords treatment arrival else [])

/-- The records of what a fetch gave. -/
def outcomeRecords (flags : Dump.Flags) (treatment : Treatment)
    (outcome : Except Halt (Url × Arrival)) : List Bytes :=
  match outcome with
  | .ok (_, arrival) => responseRecords flags treatment arrival
  | .error _ => []

/-- What the caller gets for a response. -/
def bodyResult (treatment : Treatment) (timeout : Option Duration) (url : Url)
    (arrival : Arrival) : Except Failure Response :=
  match arrival.halt? with
  | some halt => .error (halt.failure timeout)
  | none =>
    .ok (arrival.response url
      (if treatment.discardBody then [] else arrival.shownBody treatment) treatment.discardBody)

/-- What the caller gets. -/
def result (treatment : Treatment) (timeout : Option Duration)
    (outcome : Except Halt (Url × Arrival)) : Except Failure Response :=
  match outcome with
  | .error halt => .error (halt.failure timeout)
  | .ok (url, arrival) => bodyResult treatment timeout url arrival

/-- Writes the records that a policy asks for, in order. -/
def dumpAll (policy : Option Session.Policy) (records : Dump.Flags → List Bytes)
    (session : Session) : Session :=
  match policy with
  | some (hook, options) =>
    (records options.flags).foldl (fun session record => session.dump hook options record) session
  | none => session

variable (policy : Option Session.Policy) (session : Session)

@[simp]
theorem dumpAll_nil : dumpAll policy (fun _ => []) session = session := by
  cases policy <;> rfl

theorem dumpAll_append (first second : Dump.Flags → List Bytes) :
    dumpAll policy (fun flags => first flags ++ second flags) session =
      dumpAll policy second (dumpAll policy first session) := by
  cases policy with
  | none => rfl
  | some policy => exact List.foldl_append

theorem dumpAll_singleton (record : Bytes) :
    dumpAll policy (fun _ => [record]) session = dump policy record session := by
  cases policy <;> rfl

/-- A policy that asks for a part writes what the whole policy writes of that part. -/
theorem dumpAll_asking (part : Dump.Flags → Bool) (records : Dump.Flags → List Bytes) :
    dumpAll (asking policy part) records session =
      dumpAll policy (fun flags => if part flags then records flags else []) session := by
  cases policy with
  | none => rfl
  | some policy =>
      obtain ⟨hook, options⟩ := policy
      cases hPart : part options.flags with
      | true => simp [asking, dumpAll, Option.filter, hPart]
      | false => simp [asking, dumpAll, Option.filter, hPart]

/-- Asking first for a side of the exchange and then for a part of it is asking for the part. -/
theorem asking_asking {side part : Dump.Flags → Bool}
    (h : ∀ flags, part flags = true → side flags = true) :
    asking (asking policy side) part = asking policy part := by
  cases policy with
  | none => rfl
  | some policy =>
      cases hPart : part policy.2.flags with
      | true => simp [asking, Option.filter, hPart, h _ hPart]
      | false =>
          cases hSide : side policy.2.flags with
          | true => simp [asking, Option.filter, hPart, hSide]
          | false => simp [asking, Option.filter, hPart, hSide]

theorem dumpRequest_eq (request : Request) :
    dumpRequest policy request session =
      dumpAll policy (fun flags => requestRecords flags request) session := by
  have hHead : ∀ flags : Dump.Flags, flags.requestHead = true → flags.capturesRequest = true := by
    intro flags h
    simp [Dump.Flags.capturesRequest, h]
  have hBody : ∀ flags : Dump.Flags, flags.requestBody = true → flags.capturesRequest = true := by
    intro flags h
    simp [Dump.Flags.capturesRequest, h]
  unfold dumpRequest requestRecords
  dsimp only
  rw [asking_asking policy hHead, asking_asking policy hBody, dumpAll_append,
    ← dumpAll_singleton, dumpAll_asking]
  cases request.body with
  | none => simp
  | some body =>
      dsimp only
      rw [← dumpAll_singleton, dumpAll_asking]

/-- A body that is read piece by piece leaves its pieces behind, and the line end if it is
whole. -/
theorem stream_eq (halt : Option Halt) (chunks : List Bytes) :
    stream policy halt chunks session =
      ((match halt with
        | some halt => .error halt
        | none => .ok ()),
        dumpAll policy (fun _ => chunks ++ if halt.isNone then [Bytes.crlf] else []) session) := by
  induction chunks generalizing session with
  | nil =>
      cases halt with
      | some halt => simp [stream]
      | none => simp [stream, dumpAll_singleton]
  | cons chunk rest ih =>
      rw [stream, ih, ← dumpAll_singleton, ← dumpAll_append]
      rfl

/-- However a body is read, it is written as `bodyRecords` says, and the caller gets the same. -/
theorem receiveBody_eq (treatment : Treatment) (timeout : Option Duration) (url : Url)
    (arrival : Arrival) :
    receiveBody policy treatment timeout url arrival session =
      (bodyResult treatment timeout url arrival,
        dumpAll policy (fun _ => bodyRecords treatment arrival) session) := by
  unfold receiveBody bodyResult bodyRecords Arrival.readText Arrival.readBytes Arrival.shownBody
  dsimp only
  cases hDiscard : treatment.discardBody with
  | false =>
      -- A body that is kept is read whole, decoded or not.
      cases hHalt : arrival.halt? with
      | some halt => cases arrival.isDecodedBy treatment <;> simp
      | none => cases arrival.isDecodedBy treatment <;> simp [dumpAll_singleton]
  | true =>
      cases hDecoded : arrival.isDecodedBy treatment with
      | false =>
          rw [stream_eq]
          cases hHalt : arrival.halt? with
          | some halt => simp
          | none => simp
      | true =>
          cases policy with
          | some policy =>
              cases hHalt : arrival.halt? with
              | some halt => simp
              | none => simp [dumpAll_singleton]
          | none =>
              -- Nobody sees the text, so the body is dropped piece by piece.
              rw [stream_eq]
              cases hHalt : arrival.halt? with
              | some halt => simp [dumpAll]
              | none => simp [dumpAll]

theorem receive_eq (treatment : Treatment) (timeout : Option Duration) (url : Url)
    (arrival : Arrival) :
    receive policy treatment timeout url arrival session =
      (bodyResult treatment timeout url arrival,
        dumpAll policy (fun flags => responseRecords flags treatment arrival) session) := by
  have hHead : ∀ flags : Dump.Flags, flags.responseHead = true → flags.capturesResponse = true := by
    intro flags h
    simp [Dump.Flags.capturesResponse, h]
  have hBody : ∀ flags : Dump.Flags, flags.responseBody = true → flags.capturesResponse = true := by
    intro flags h
    simp [Dump.Flags.capturesResponse, h]
  unfold receive responseRecords
  dsimp only
  rw [asking_asking policy hHead, asking_asking policy hBody, receiveBody_eq, dumpAll_asking,
    ← dumpAll_singleton, dumpAll_asking, ← dumpAll_append]

/-- The session in which the request of an exchange has been written, and all that it leads to
has been sent and received. -/
def afterFetch (pool : Pool) (request : Request) (fetched : Fetched) : Session :=
  { (dumpAll policy (fun flags => requestRecords flags request) session).setJar pool.jar
      fetched.jar with contacts := fetched.contacts }

/-- An exchange writes its records and gives its result. -/
theorem perform_eq (around : Surroundings) (pool : Pool) (treatment : Treatment)
    (request : Request) :
    perform around pool treatment policy request session =
      let written := dumpAll policy (fun flags => requestRecords flags request) session
      let fetched :=
        fetch around pool.config.proxy request (written.jar? pool.jar) written.contacts
      (result treatment request.timeout fetched.outcome,
        dumpAll policy (fun flags => outcomeRecords flags treatment fetched.outcome)
          (afterFetch policy session pool request fetched)) := by
  unfold perform
  dsimp only
  rw [dumpRequest_eq]
  unfold afterFetch
  split
  next halt hOutcome =>
    rw [hOutcome]
    simp [result, outcomeRecords]
  next url arrival hOutcome =>
    rw [hOutcome, receive_eq]
    rfl

end Exchange
end Wiretap
