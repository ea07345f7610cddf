import Wiretap.Proofs.Exchange.Transcript

/-!
# Heads that begin a line

Exchanges write to one output, one after the other.  A head ends with an empty line,
and a body that is complete with a line end, so what comes next begins a line.  The
one thing that can go wrong is a body that is written as it comes in and breaks off:
its pieces stay behind without a line end.

* `Exchange.AtLineStart` says that what is written behind a text begins a line.
* `Visit` is an exchange of such a sequence, and `Visit.Loose` says that it leaves the pieces of a
  body behind without a line end.
* `Visit.heads_begin_lines` says that heads begin lines unless an exchange before them is loose,
  and that a head written right behind a loose exchange does not.
* `Visit.head_glued_to_cut_body` is a sequence in which one does not.
-/

namespace Wiretap
namespace Exchange

/-- What is written behind a text begins a line: the text is empty, or ends with a line feed. -/
def AtLineStart (text : Bytes) : Prop := text = [] ∨ text.getLast? = some 10

instance (text : Bytes) : Decidable (AtLineStart text) :=
  inferInstanceAs (Decidable (text = [] ∨ text.getLast? = some 10))

theorem AtLineStart.append {first second : Bytes} (h : AtLineStart first)
    (h' : AtLineStart second) : AtLineStart (first ++ second) := by
  rcases h' with rfl | hLast
  · rwa [List.append_nil]
  · exact Or.inr (by rw [List.getLast?_append, hLast]; rfl)

/-- A text that does not end a line does not do so behind another one. -/
theorem not_atLineStart_append {second : Bytes} (h : ¬AtLineStart second) (first : Bytes) :
    ¬AtLineStart (first ++ second) := by
  obtain ⟨hSome, hLast⟩ := not_or.1 h
  obtain ⟨byte, hByte⟩ := Option.ne_none_iff_exists'.1 (mt List.getLast?_eq_none_iff.1 hSome)
  rintro (hNil | hFeed)
  · exact hSome (List.append_eq_nil_iff.1 hNil).2
  · rw [List.getLast?_append, hByte] at hFeed
    exact hLast (hByte.trans hFeed)

theorem atLineStart_crlf (text : Bytes) : AtLineStart (text ++ Bytes.crlf) :=
  Or.inr (by rw [List.getLast?_append]; rfl)

section Parts

variable (flags : Dump.Flags) (treatment : Treatment) (arrival : Arrival)

theorem atLineStart_fieldLines (front : Bytes) (headers : Header.Map) :
    AtLineStart (front ++ Head.fieldLines headers) := by
  rw [Head.fieldLines, ← List.append_assoc]
  exact atLineStart_crlf _

theorem atLineStart_requestText (request : Request) : AtLineStart (requestText flags request) := by
  unfold requestText
  refine AtLineStart.append ?_ ?_
  · split
    · exact atLineStart_fieldLines _ request.headers
    · exact Or.inl rfl
  · split
    · cases request.body with
      | none => exact Or.inl rfl
      | some body => exact atLineStart_crlf body
    · exact Or.inl rfl

theorem atLineStart_headText : AtLineStart (headText flags arrival) := by
  unfold headText
  split
  · exact atLineStart_fieldLines _ arrival.headers
  · exact Or.inl rfl

/-- The records of a body end a line, unless they are the pieces of one that has broken off. -/
theorem atLineStart_bodyRecords
    (h : treatment.discardBody = true → arrival.isDecodedBy treatment = false →
      arrival.ending ≠ .complete → AtLineStart arrival.bytes) :
    AtLineStart (bodyRecords treatment arrival).flatten := by
  by_cases hComplete : arrival.ending = .complete
  · rw [flatten_bodyRecords_of_complete treatment arrival hComplete]
    exact atLineStart_crlf _
  · obtain ⟨halt, hHalt⟩ :=
      Option.ne_none_iff_exists'.1 (mt (halt?_eq_none_iff arrival).1 hComplete)
    rw [flatten_bodyRecords_of_halt treatment arrival hHalt]
    split
    next hStreamed =>
      simp only [Bool.and_eq_true, Bool.not_eq_true'] at hStreamed
      exact h hStreamed.1 hStreamed.2 hComplete
    · exact Or.inl rfl

end Parts

end Exchange

/-- An exchange of a sequence, with the parts that it is to write. -/
structure Visit where
  /-- What it finds around itself. -/
  around : Surroundings
  /-- Makes its connection. -/
  pool : Pool
  /-- How its response body is treated. -/
  treatment : Treatment
  /-- The number of its hook. -/
  hook : Nat
  /-- The parts that are captured. -/
  flags : Dump.Flags
  /-- The request. -/
  request : Request

namespace Visit

open Exchange

/-- The policy by which an exchange writes to an output at once. -/
def policy (visit : Visit) (output : Dump.Output) : Session.Policy :=
  (visit.hook, ⟨visit.flags, false, some output⟩)

/-- The session after an exchange. -/
def after (output : Dump.Output) (session : Session) (visit : Visit) : Session :=
  (perform visit.around visit.pool visit.treatment (some (visit.policy output)) visit.request
    session).2

/-- The session after exchanges, one behind the other. -/
def afterAll (output : Dump.Output) (session : Session) (visits : List Visit) : Session :=
  visits.foldl (after output) session

/-- What comes back in an exchange. -/
def outcome (visit : Visit) (session : Session) : Except Halt (Url × Arrival) :=
  (fetch visit.around visit.pool.config.proxy visit.request (session.jar? visit.pool.jar)
    session.contacts).outcome

/-- An exchange leaves the pieces of a body behind without a line end: the body is dropped as
received, it is written as it comes in, and it breaks off in the middle of a line. -/
def Loose (visit : Visit) (session : Session) : Prop :=
  ∃ url arrival, visit.outcome session = .ok (url, arrival) ∧
    visit.flags.responseBody = true ∧ visit.treatment.discardBody = true ∧
      arrival.isDecodedBy visit.treatment = false ∧ arrival.ending ≠ .complete ∧
        ¬AtLineStart arrival.bytes

/-- The heads that an exchange writes begin lines.  That of the request is written behind all that
is there before, that of a response behind what is written of the request. -/
def HeadsBegin (visit : Visit) (place : Dump.Place) (session : Session) : Prop :=
  (visit.flags.requestHead = true → AtLineStart (session.outputs.contents place)) ∧
    (visit.flags.responseHead = true → ∀ url arrival, visit.outcome session = .ok (url, arrival) →
      AtLineStart (session.outputs.contents place ++ requestText visit.flags visit.request))

section Sequence

variable {session : Session} {output : Dump.Output} {place : Dump.Place} {visit : Visit}

/-- What an exchange appends to a place. -/
theorem contents_after (h : session.WritesAtOnce (visit.policy output) output place)
    (hEnd : session.outputs.AtEnd output) :
    (visit.after output session).outputs.AtEnd output ∧
      (visit.after output session).outputs.contents place =
        session.outputs.contents place ++ requestText visit.flags visit.request ++
          (outcomeRecords visit.flags visit.treatment (visit.outcome session)).flatten := by
  have hGained := gained_perform h visit.around visit.pool visit.treatment visit.request
  refine ⟨hGained.atEnd hEnd, ?_⟩
  rw [List.append_assoc, ← flatten_requestRecords]
  exact hGained.contents hEnd

theorem atLineStart_outcome (h : ¬visit.Loose session) :
    AtLineStart
      (outcomeRecords visit.flags visit.treatment (visit.outcome session)).flatten := by
  cases hOutcome : visit.outcome session with
  | error halt => exact Or.inl rfl
  | ok answer =>
      obtain ⟨url, arrival⟩ := answer
      rw [outcomeRecords, flatten_responseRecords]
      refine (atLineStart_headText visit.flags arrival).append ?_
      split
      next hAsked =>
        refine atLineStart_bodyRecords visit.treatment arrival fun hDrop hRaw hBroken => ?_
        refine Decidable.byContradiction fun hPieces => ?_
        exact h ⟨url, arrival, hOutcome, hAsked, hDrop, hRaw, hBroken, hPieces⟩
      · exact Or.inl rfl

/-- An exchange that is not loose leaves the end of a line behind. -/
theorem atLineStart_after (h : session.WritesAtOnce (visit.policy output) output place)
    (hEnd : session.outputs.AtEnd output)
    (hStart : AtLineStart (session.outputs.contents place)) (hLoose : ¬visit.Loose session) :
    AtLineStart ((visit.after output session).outputs.contents place) := by
  rw [(contents_after h hEnd).2]
  exact (hStart.append (atLineStart_requestText visit.flags visit.request)).append
    (atLineStart_outcome hLoose)

/-- An exchange that is loose leaves no end of a line behind, whatever was there before. -/
theorem not_atLineStart_after (h : session.WritesAtOnce (visit.policy output) output place)
    (hEnd : session.outputs.AtEnd output) (hLoose : visit.Loose session) :
    ¬AtLineStart ((visit.after output session).outputs.contents place) := by
  obtain ⟨url, arrival, hOutcome, hAsked, hDrop, hRaw, hBroken, hPieces⟩ := hLoose
  obtain ⟨halt, hHalt⟩ := Option.ne_none_iff_exists'.1 (mt (halt?_eq_none_iff arrival).1 hBroken)
  rw [(contents_after h hEnd).2, hOutcome, outcomeRecords, flatten_responseRecords,
    flatten_bodyRecords_of_halt visit.treatment arrival hHalt, hAsked, hDrop, hRaw,
    ← List.append_assoc]
  exact not_atLineStart_append hPieces _

/-- An exchange leaves every policy as it is. -/
theorem writesAtOnce_after {policy : Session.Policy}
    (h : session.WritesAtOnce policy output place) (visit : Visit) :
    (visit.after output session).WritesAtOnce policy output place :=
  h.later (confined_perform _ _ _ _ _ _)

/-- What holds of a policy at the start of a sequence holds in the midst of it. -/
theorem writesAtOnce_afterAll {policy : Session.Policy}
    (h : session.WritesAtOnce policy output place) (visits : List Visit) :
    (afterAll output session visits).WritesAtOnce policy output place := by
  induction visits generalizing session with
  | nil => exact h
  | cons visit rest ih => exact ih (writesAtOnce_after h visit)

theorem atEnd_afterAll {visits : List Visit}
    (h : ∀ visit ∈ visits, session.WritesAtOnce (visit.policy output) output place)
    (hEnd : session.outputs.AtEnd output) :
    (afterAll output session visits).outputs.AtEnd output := by
  induction visits generalizing session with
  | nil => exact hEnd
  | cons visit rest ih =>
      refine ih ?_ (contents_after (h visit (by simp)) hEnd).1
      intro other hOther
      exact writesAtOnce_after (h other (List.mem_cons_of_mem visit hOther)) visit

/-- A sequence of exchanges of which none is loose leaves the end of a line behind. -/
theorem atLineStart_afterAll {visits : List Visit}
    (h : ∀ visit ∈ visits, session.WritesAtOnce (visit.policy output) output place)
    (hEnd : session.outputs.AtEnd output) (hStart : AtLineStart (session.outputs.contents place))
    (hLoose : ∀ earlier visit later, visits = earlier ++ visit :: later →
      ¬visit.Loose (afterAll output session earlier)) :
    AtLineStart ((afterAll output session visits).outputs.contents place) := by
  induction visits generalizing session with
  | nil => exact hStart
  | cons visit rest ih =>
      have hFirst := h visit (by simp)
      refine ih ?_ (contents_after hFirst hEnd).1 ?_ ?_
      · intro other hOther
        exact writesAtOnce_after (h other (List.mem_cons_of_mem visit hOther)) visit
      · exact atLineStart_after hFirst hEnd hStart (hLoose [] visit rest rfl)
      · intro earlier other later hRest
        exact hLoose (visit :: earlier) other later (by rw [hRest]; rfl)

end Sequence

/-- An exchange that captures the head of the request and the body of the response.  The body is
dropped; one piece of it comes, and then it breaks off. -/
def cutting (piece : Bytes) : Visit where
  around := ⟨fun _ _ _ => .answer ⟨.http11, ⟨200, by decide, by decide⟩, .empty, [piece], .cut⟩,
    ⟨∅⟩, 0⟩
  pool := ⟨Config.standard.transport, Config.standard.timeouts, none⟩
  treatment := ⟨false, true⟩
  hook := 0
  flags := ⟨true, false, false, true⟩
  request :=
    ⟨.get, ⟨"http", [], none, some (.domain "h"), none, .segments [[]], none, none⟩, .http11,
      .empty, none, none⟩

theorem outcome_cutting (piece : Bytes) (session : Session) :
    (cutting piece).outcome session =
      .ok ((cutting piece).request.url,
        ⟨.http11, ⟨200, by decide, by decide⟩, .empty, [piece], .cut⟩) := by
  have hSendable : (cutting []).request.isSendable = true := by decide
  have hSpoken : (cutting []).request.isSpoken = true := by decide
  exact outcome_fetch_of_answer hSendable hSpoken rfl rfl

theorem loose_cutting_iff {piece : Bytes} {session : Session} :
    (cutting piece).Loose session ↔ ¬AtLineStart piece := by
  constructor
  · rintro ⟨url, arrival, hOutcome, -, -, -, -, hPieces⟩
    cases (outcome_cutting piece session).symm.trans hOutcome
    simpa [Arrival.bytes] using hPieces
  · intro hPiece
    refine ⟨_, _, outcome_cutting piece session, rfl, rfl, rfl, ?_, ?_⟩
    · intro hComplete
      cases hComplete
    · simpa [Arrival.bytes] using hPiece

/-- Exchanges are written at once to an output that takes every record as a whole, one after the
other.  As long as none of them is loose, every head begins a line.  Right behind a loose one the
head of a request does not. -/
theorem heads_begin_lines {session : Session} {output : Dump.Output} {place : Dump.Place}
    {rule : Dump.Rule} {visits : List Visit}
    (hHooks : ∀ visit ∈ visits, visit.hook < session.hooks.length)
    (hSink : session.outputs.natures[output.sink]? = some (place, rule)) (hRule : rule.TakesAll)
    (hEnd : session.outputs.AtEnd output)
    (hStart : AtLineStart (session.outputs.contents place)) :
    ((∀ earlier visit later, visits = earlier ++ visit :: later →
        ¬visit.Loose (afterAll output session earlier)) →
      ∀ earlier visit later, visits = earlier ++ visit :: later →
        visit.HeadsBegin place (afterAll output session earlier)) ∧
    ∀ earlier visit next later, visits = earlier ++ visit :: next :: later →
      visit.Loose (afterAll output session earlier) → next.flags.requestHead = true →
        ¬next.HeadsBegin place (afterAll output session (earlier ++ [visit])) := by
  have hAtOnce (visit : Visit) (hVisit : visit ∈ visits) :
      session.WritesAtOnce (visit.policy output) output place :=
    ⟨hHooks visit hVisit, rfl, rfl, rule, hSink, hRule⟩
  constructor
  · rintro hLoose earlier visit later rfl
    have hLine : AtLineStart ((afterAll output session earlier).outputs.contents place) := by
      refine atLineStart_afterAll (fun other hOther => hAtOnce other ?_) hEnd hStart ?_
      · exact List.mem_append_left _ hOther
      · rintro earlier' visit' later' rfl
        exact hLoose earlier' visit' (later' ++ visit :: later) (by simp)
    exact ⟨fun _ => hLine, fun _ _ _ _ =>
      hLine.append (atLineStart_requestText visit.flags visit.request)⟩
  · rintro earlier visit next later rfl hLoose hAsked hBegins
    have hVisit := writesAtOnce_afterAll (hAtOnce visit (by simp)) earlier
    have hThere : (afterAll output session earlier).outputs.AtEnd output :=
      atEnd_afterAll (fun other hOther => hAtOnce other (List.mem_append_left _ hOther)) hEnd
    refine not_atLineStart_after hVisit hThere hLoose ?_
    have hLine := hBegins.1 hAsked
    rwa [afterAll, List.foldl_append] at hLine

/-- A body that breaks off behind the end of a line does no harm to the head of the next
request. -/
theorem heads_begin_lines_of_cut_line :
    let session : Session := { Session.onDisk (.ofHome []) with hooks := [.onCell 0] }
    let visit := cutting [120, 10]
    ¬visit.Loose session ∧ visit.HeadsBegin .stdout session ∧
      visit.HeadsBegin .stdout (visit.after .stdout session) := by
  intro session visit
  have hTight (session : Session) : ¬visit.Loose session := fun hLoose =>
    loose_cutting_iff.1 hLoose (by decide)
  have hHooks : ∀ visit' ∈ [visit, visit], visit'.hook < session.hooks.length := by decide
  have hEnd : session.outputs.AtEnd .stdout := Dump.Outputs.atEnd_stdout _
  have hStart : AtLineStart (session.outputs.contents .stdout) := Or.inl rfl
  have hBegin := (heads_begin_lines hHooks rfl Dump.Rule.takesAll_takeAll hEnd hStart).1 ?_
  · exact ⟨hTight session, hBegin [] visit [visit] rfl, hBegin [visit] visit [] rfl⟩
  · intro earlier other later hVisits
    have hOther : other ∈ [visit, visit] := hVisits ▸ by simp
    obtain rfl : other = visit := by simpa using hOther
    exact hTight _

/-- A body breaks off in the midst of a line, and the head of the next request stands right behind
it. -/
theorem head_glued_to_cut_body :
    let session : Session := { Session.onDisk (.ofHome []) with hooks := [.onCell 0] }
    let head := requestText (cutting [120]).flags (cutting [120]).request
    (cutting [120]).HeadsBegin .stdout session ∧
      ¬(cutting [120]).HeadsBegin .stdout ((cutting [120]).after .stdout session) ∧
        (afterAll .stdout session [cutting [120], cutting [120]]).outputs.contents .stdout =
          head ++ [120] ++ (head ++ [120]) := by
  intro session head
  have hFirst : session.WritesAtOnce ((cutting [120]).policy .stdout) .stdout .stdout :=
    ⟨by decide, rfl, rfl, .takeAll, rfl, Dump.Rule.takesAll_takeAll⟩
  have hEnd : session.outputs.AtEnd .stdout := Dump.Outputs.atEnd_stdout _
  have hSecond : ((cutting [120]).after .stdout session).WritesAtOnce
      ((cutting [120]).policy .stdout) .stdout .stdout :=
    writesAtOnce_after hFirst _
  obtain ⟨hEndSecond, hText⟩ := contents_after hFirst hEnd
  rw [outcome_cutting] at hText
  refine ⟨⟨fun _ => Or.inl rfl, fun hAsked => by cases hAsked⟩, ?_, ?_⟩
  · intro hBegins
    refine absurd (hBegins.1 rfl) (not_atLineStart_after hFirst hEnd ?_)
    exact loose_cutting_iff.2 (by decide)
  · have hNext := (contents_after hSecond hEndSecond).2
    rw [outcome_cutting, hText] at hNext
    exact hNext.trans (List.append_assoc _ _ _)

end Visit
end Wiretap
