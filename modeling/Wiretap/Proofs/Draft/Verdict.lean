import Wiretap.Proofs.Draft.Resolution
import Wiretap.Proofs.World.Basic

/-!
# What becomes of a draft

Steps never fail; what is wrong is told when the draft is built.  Of everything that is
said more than once the last word counts, and so it does of the steps that have gone wrong.
A step that has gone wrong counts before a missing address, that before one that is none,
that before more headers than there can be room for, and that before the first header that
is not legal.

* `Draft.Call.method?`, `Call.address?`, `Call.body?`, `Call.version?`, `Call.timeout?` and
  `Call.failure?` are what a step says, and `Draft.lastSaid?` is the last word of several.
* `Draft.headerFault?` is what is wrong with one header; `Draft.headerMap_eq_error_iff` and
  `Draft.exists_headerMap_iff` say that the first one with a fault is told, if there is room for
  all of them.
* `Draft.Verdict` lists what can become of the drafts of a client, one case after the other.
* `Draft.verdict_settles` says that this is what becomes of them, and that nothing happens
  in a session before a request is there.
-/

namespace Wiretap
namespace Draft

/-- The method that a step sets. -/
def Call.method? : Call → Option Method
  | .method next => some next
  | .methodName raw => Method.ofString? (Ascii.upper raw)
  | _ => none

/-- The address that a step sets. -/
def Call.address? : Call → Option String
  | .url raw => some raw
  | _ => none

/-- The body that a step sets. -/
def Call.body? : Call → Option Bytes
  | .body bytes => some bytes
  | .json (.ok document) => some (Bytes.ofChars document.chars)
  | _ => none

/-- The version that a step sets. -/
def Call.version? : Call → Option Version
  | .version next => some next
  | _ => none

/-- The bound on time that a step sets or takes away. -/
def Call.timeout? : Call → Option (Option Duration)
  | .timeout limit => some limit.bound?
  | _ => none

/-- What is wrong with a step: a name that is no method, or a value that cannot be written as a
document. -/
def Call.failure? : Call → Option Failure
  | .methodName raw =>
    if (Method.ofString? (Ascii.upper raw)).isNone then some (.invalidMethod raw) else none
  | .json (.error reason) => some (.json reason)
  | _ => none

/-- The last word of steps on something, if there is any. -/
def lastSaid? {α : Type} (word? : Call → Option α) (steps : List Call) : Option α :=
  steps.reverse.findSome? word?

theorem lastSaid?_append_singleton {α : Type} (word? : Call → Option α) (steps : List Call)
    (c : Call) : lastSaid? word? (steps ++ [c]) = (word? c).or (lastSaid? word? steps) := by
  rw [lastSaid?, List.reverse_append, List.findSome?_append, List.reverse_singleton,
    List.findSome?_singleton]
  rfl

section Steps

variable (draft : Draft)

/-- A step sets what it speaks of and leaves the rest alone. -/
theorem apply_eq (c : Call) :
    draft.apply c =
      { handle := draft.handle
        method := c.method?.getD draft.method
        url := c.address?.or draft.url
        headers := (draft.apply c).headers
        body := c.body?.or draft.body
        version := c.version?.getD draft.version
        timeout := c.timeout?.getD draft.timeout
        failure := c.failure?.or draft.failure } := by
  cases c with
  | methodName raw =>
      simp only [apply, setMethodName, Call.method?, Call.failure?]
      cases Method.ofString? (Ascii.upper raw) <;> rfl
  | json document =>
      cases document with
      | error reason => rfl
      | ok document => rfl
  | _ => rfl

/-- Of everything that is said in steps the last word counts. -/
theorem applyAll_eq (steps : List Call) :
    draft.applyAll steps =
      { handle := draft.handle
        method := (lastSaid? Call.method? steps).getD draft.method
        url := (lastSaid? Call.address? steps).or draft.url
        headers := (draft.applyAll steps).headers
        body := (lastSaid? Call.body? steps).or draft.body
        version := (lastSaid? Call.version? steps).getD draft.version
        timeout := (lastSaid? Call.timeout? steps).getD draft.timeout
        failure := (lastSaid? Call.failure? steps).or draft.failure } := by
  induction steps using List.reverseRecOn with
  | nil => rfl
  | append_singleton steps c ih =>
      simp only [lastSaid?_append_singleton, Option.or_assoc, Option.getD_or]
      rw [applyAll_append_singleton, apply_eq, ih]

end Steps

/-- What is wrong with a header: its name is looked at before its value. -/
def headerFault? (header : String × String) : Option Failure :=
  if (Header.Name.ofString? header.1).isNone then
    some (.invalidHeader header.1 Header.illegalNameReason)
  else if (Header.Value.ofString? header.2).isNone then
    some (.invalidHeader header.1 Header.illegalValueReason)
  else none

section HeaderFault

variable {headers : List (String × String)} {header : String × String}

/-- A header without fault is added, and any other is told. -/
theorem addHeader_eq (map : Header.Map) (header : String × String) :
    (∃ failure, headerFault? header = some failure ∧ addHeader map header = .error failure) ∨
      headerFault? header = none ∧ ∃ next, addHeader map header = .ok next := by
  unfold headerFault? addHeader
  cases Header.Name.ofString? header.1 with
  | none => exact .inl ⟨_, rfl, rfl⟩
  | some name =>
      cases Header.Value.ofString? header.2 with
      | none => exact .inl ⟨_, rfl, rfl⟩
      | some value => exact .inr ⟨rfl, _, rfl⟩

/-- Adding headers to a map comes to an end at the first one with a fault. -/
theorem foldlM_addHeader (map : Header.Map) (headers : List (String × String)) :
    (∃ failure, headers.findSome? headerFault? = some failure ∧
      headers.foldlM addHeader map = .error failure) ∨
      headers.findSome? headerFault? = none ∧ ∃ next, headers.foldlM addHeader map = .ok next := by
  induction headers generalizing map with
  | nil => exact .inr ⟨rfl, map, rfl⟩
  | cons header rest ih =>
      rw [List.foldlM_cons, List.findSome?_cons]
      rcases addHeader_eq map header with ⟨failure, hFault, hAdd⟩ | ⟨hFault, next, hAdd⟩
      · rw [hFault, hAdd]
        exact .inl ⟨failure, rfl, rfl⟩
      · rw [hFault, hAdd]
        exact ih next

/-- Headers for which there is no room break the program down, and no others do. -/
theorem headerMap_eq_panic_iff :
    headerMap headers = .error .panic ↔ Header.Map.countLimit < headers.length := by
  refine ⟨fun hPanic => ?_, headerMap_of_lt⟩
  by_contra hRoom
  rw [headerMap_of_le (Nat.not_lt.mp hRoom)] at hPanic
  simp at hPanic

/-- The first header with a fault is told. -/
theorem headerMap_eq_error_iff {failure : Failure} :
    headerMap headers = .error (.failure failure) ↔
      headers.length ≤ Header.Map.countLimit ∧
        headers.findSome? headerFault? = some failure := by
  rcases Nat.lt_or_ge Header.Map.countLimit headers.length with hMany | hRoom
  · simp [headerMap_of_lt hMany, Nat.not_le.mpr hMany]
  · rw [headerMap_of_le hRoom, and_iff_right hRoom]
    rcases foldlM_addHeader .empty headers with ⟨first, hFault, hMap⟩ | ⟨hFault, next, hMap⟩
    · simp [hFault, hMap]
    · simp [hFault, hMap]

theorem exists_headerMap_iff :
    (∃ map, headerMap headers = .ok map) ↔
      headers.length ≤ Header.Map.countLimit ∧ headers.findSome? headerFault? = none := by
  simp only [headerMap_eq_ok_iff, exists_and_left]
  rcases foldlM_addHeader .empty headers with ⟨first, hFault, hMap⟩ | ⟨hFault, next, hMap⟩
  · simp [hFault, hMap]
  · simp [hFault, hMap]

/-- The media type of a document has no fault. -/
theorem headerFault?_contentType :
    headerFault? (contentTypeName, "application/json") = none := by
  decide

/-- What a draft adds of its own accord has no fault, so the first fault is one of a header that
was given to it. -/
theorem firstFault_applyAll (draft : Draft) (steps : List Call) :
    (draft.applyAll steps).headers.findSome? headerFault? =
      (draft.headers ++ steps.flatMap Call.writes).findSome? headerFault? := by
  induction steps using List.reverseRecOn with
  | nil => simp [applyAll]
  | append_singleton steps c ih =>
      have hOwn (header : String × String)
          (hMem : header ∈ if c.isDocument = true ∧
            (draft.applyAll steps).headerValue? contentTypeName = none then
              [(contentTypeName, "application/json")] else []) : headerFault? header = none := by
        split at hMem
        · rw [List.mem_singleton.mp hMem]
          exact headerFault?_contentType
        · cases hMem
      rw [applyAll_append_singleton, headers_apply, List.findSome?_append, List.findSome?_append,
        List.findSome?_eq_none_iff.mpr hOwn, Option.or_none, ih, ← List.findSome?_append,
        List.flatMap_append, List.flatMap_singleton, List.append_assoc]

end HeaderFault

section Build

variable {draft : Draft}

/-- The request to an address that a draft gives with headers. -/
def requestTo (draft : Draft) (url : Url) (headers : Header.Map) : Request :=
  { method := draft.method
    url := url
    version := draft.version
    headers := headers
    body := draft.body
    timeout := draft.timeout }

theorem build_of_failure {failure : Failure} (h : draft.failure = some failure) :
    draft.build = .error (.failure failure) := by
  simp [build, h]

theorem build_of_unaddressed (hFailure : draft.failure = none) (hUrl : draft.url = none) :
    draft.build = .error (.failure .missingUrl) := by
  simp [build, hFailure, hUrl]

theorem build_of_misaddressed {raw : String} {fault : UrlFault} (hFailure : draft.failure = none)
    (hUrl : draft.url = some raw) (hParse : Url.parse raw = .error fault) :
    draft.build = .error (.failure (.invalidUrl fault)) := by
  simp [build, hFailure, hUrl, hParse]

/-- Once its address has been read, all depends on the headers of a draft. -/
theorem build_of_addressed {raw : String} {url : Url} (hFailure : draft.failure = none)
    (hUrl : draft.url = some raw) (hParse : Url.parse raw = .ok url) :
    draft.build = (headerMap draft.headers).map (draft.requestTo url) := by
  simp only [build, hFailure, hUrl, hParse]
  cases headerMap draft.headers <;> rfl

end Build

/-- What can become of a draft of a client after steps. -/
inductive Verdict (client : Client) (steps : List Call) : Except Setback Request → Prop where
  /-- A step has gone wrong; of several such steps the last one is told. -/
  | failed {failure : Failure} (hStep : lastSaid? Call.failure? steps = some failure) :
    Verdict client steps (.error (.failure failure))
  /-- No step has gone wrong, and none gives an address. -/
  | unaddressed (hSteps : lastSaid? Call.failure? steps = none)
    (hAddress : lastSaid? Call.address? steps = none) :
    Verdict client steps (.error (.failure .missingUrl))
  /-- What was given last as an address is none. -/
  | misaddressed {raw : String} {fault : UrlFault}
    (hSteps : lastSaid? Call.failure? steps = none)
    (hAddress : lastSaid? Call.address? steps = some raw) (hUrl : Url.parse raw = .error fault) :
    Verdict client steps (.error (.failure (.invalidUrl fault)))
  /-- The address is one, but there are more headers than a map can have room for, whatever they
  are: those of the client, those of the steps, and the media type if the draft has added it. -/
  | crowded {raw : String} {url : Url} (hSteps : lastSaid? Call.failure? steps = none)
    (hAddress : lastSaid? Call.address? steps = some raw) (hUrl : Url.parse raw = .ok url)
    (hMany : Header.Map.countLimit < (client.draft.applyAll steps).headers.length) :
    Verdict client steps (.error .panic)
  /-- There is room, but a header has a fault: those of the client come first, then those of the
  steps, and the first one is told. -/
  | illegal {raw : String} {url : Url} {failure : Failure} {header : String × String}
    {front back : List (String × String)} (hSteps : lastSaid? Call.failure? steps = none)
    (hAddress : lastSaid? Call.address? steps = some raw) (hUrl : Url.parse raw = .ok url)
    (hRoom : (client.draft.applyAll steps).headers.length ≤ Header.Map.countLimit)
    (hHeaders : client.sortedHeaders ++ steps.flatMap Call.writes = front ++ header :: back)
    (hFront : ∀ earlier ∈ front, headerFault? earlier = none)
    (hFault : headerFault? header = some failure) :
    Verdict client steps (.error (.failure failure))
  /-- Nothing is wrong: there is a request with what was said last. -/
  | ready {raw : String} {url : Url} {map : Header.Map}
    (hSteps : lastSaid? Call.failure? steps = none)
    (hAddress : lastSaid? Call.address? steps = some raw) (hUrl : Url.parse raw = .ok url)
    (hRoom : (client.draft.applyAll steps).headers.length ≤ Header.Map.countLimit)
    (hHeaders : ∀ header ∈ client.sortedHeaders ++ steps.flatMap Call.writes,
      headerFault? header = none)
    (hMap : headerMap (client.draft.applyAll steps).headers = .ok map) :
    Verdict client steps (.ok {
      method := (lastSaid? Call.method? steps).getD .get
      url := url
      version := (lastSaid? Call.version? steps).getD .http11
      headers := map
      body := lastSaid? Call.body? steps
      timeout := (lastSaid? Call.timeout? steps).getD client.timeout })

section Verdict

variable {client : Client} {steps : List Call}

/-- A draft of a client after steps: what has been said last, or what was there from the start. -/
theorem draft_applyAll (client : Client) (steps : List Call) :
    client.draft.applyAll steps =
      { handle := client.transport.handle
        method := (lastSaid? Call.method? steps).getD .get
        url := lastSaid? Call.address? steps
        headers := (client.draft.applyAll steps).headers
        body := lastSaid? Call.body? steps
        version := (lastSaid? Call.version? steps).getD .http11
        timeout := (lastSaid? Call.timeout? steps).getD client.timeout
        failure := lastSaid? Call.failure? steps } := by
  have hSaid := applyAll_eq client.draft steps
  simpa only [Client.draft, start, Option.or_none] using hSaid

theorem build_of_verdict {outcome : Except Setback Request} (h : Verdict client steps outcome) :
    (client.draft.applyAll steps).build = outcome := by
  have hDraft := draft_applyAll client steps
  have hFailure := congrArg failure hDraft
  have hUrl := congrArg url hDraft
  cases h with
  | failed hStep => exact build_of_failure (hFailure.trans hStep)
  | unaddressed hSteps hAddress =>
      exact build_of_unaddressed (hFailure.trans hSteps) (hUrl.trans hAddress)
  | misaddressed hSteps hAddress hParse =>
      exact build_of_misaddressed (hFailure.trans hSteps) (hUrl.trans hAddress) hParse
  | crowded hSteps hAddress hParse hMany =>
      rw [build_of_addressed (hFailure.trans hSteps) (hUrl.trans hAddress) hParse,
        headerMap_of_lt hMany]
      rfl
  | illegal hSteps hAddress hParse hRoom hHeaders hFront hFault =>
      have hFirst := (firstFault_applyAll client.draft steps).trans
        (List.findSome?_eq_some_iff.mpr ⟨_, _, _, hHeaders, hFault, hFront⟩)
      rw [build_of_addressed (hFailure.trans hSteps) (hUrl.trans hAddress) hParse,
        headerMap_eq_error_iff.mpr ⟨hRoom, hFirst⟩]
      rfl
  | ready hSteps hAddress hParse hRoom hHeaders hMap =>
      rw [build_of_addressed (hFailure.trans hSteps) (hUrl.trans hAddress) hParse, hMap,
        draft_applyAll]
      rfl

/-- One of the cases always holds. -/
theorem exists_verdict (client : Client) (steps : List Call) :
    ∃ outcome, Verdict client steps outcome := by
  cases hSteps : lastSaid? Call.failure? steps with
  | some failure => exact ⟨_, .failed hSteps⟩
  | none =>
      cases hAddress : lastSaid? Call.address? steps with
      | none => exact ⟨_, .unaddressed hSteps hAddress⟩
      | some raw =>
          cases hUrl : Url.parse raw with
          | error fault => exact ⟨_, .misaddressed hSteps hAddress hUrl⟩
          | ok url =>
              rcases Nat.lt_or_ge Header.Map.countLimit
                (client.draft.applyAll steps).headers.length with hMany | hRoom
              · exact ⟨_, .crowded hSteps hAddress hUrl hMany⟩
              cases hFirst : (client.sortedHeaders ++ steps.flatMap Call.writes).findSome?
                  headerFault? with
              | some failure =>
                  obtain ⟨_, _, _, hHeaders, hFault, hFront⟩ := List.findSome?_eq_some_iff.mp hFirst
                  exact ⟨_, .illegal hSteps hAddress hUrl hRoom hHeaders hFront hFault⟩
              | none =>
                  have hNone := (firstFault_applyAll client.draft steps).trans hFirst
                  obtain ⟨map, hMap⟩ := exists_headerMap_iff.mpr ⟨hRoom, hNone⟩
                  have hLegal := List.findSome?_eq_none_iff.mp hFirst
                  exact ⟨_, .ready hSteps hAddress hUrl hRoom hLegal hMap⟩

theorem verdict_iff {outcome : Except Setback Request} :
    Verdict client steps outcome ↔ (client.draft.applyAll steps).build = outcome := by
  refine ⟨build_of_verdict, fun hBuild => ?_⟩
  obtain ⟨other, hOther⟩ := exists_verdict client steps
  rwa [← hBuild, build_of_verdict hOther]

end Verdict

/-- Whatever steps are taken on a draft of a client, it is settled by the last word of the steps
and by what counts first of everything that is wrong.  If something is, the session remains as it
is, and a program has lost nothing but the draft; otherwise the request is sent by the
transport that the client had when the draft was started.  It is told to the caller what is wrong,
but for one case: a program that has given more headers than there can be room for breaks down. -/
theorem verdict_settles (client : Client) (steps : List Call) (around : Surroundings) :
    (∀ outcome, Verdict client steps outcome ↔ (client.draft.applyAll steps).build = outcome) ∧
      (∀ setback, Verdict client steps (.error setback) →
        (∀ session, (client.draft.applyAll steps).send around session = (.error setback, session)) ∧
          ∀ (world : World) number, world.draft? number = some (client.draft.applyAll steps) →
            world.step (.send around number) =
              { world with drafts := world.drafts.set number none }) ∧
      ∀ request, Verdict client steps (.ok request) → ∀ session,
        (client.draft.applyAll steps).send around session =
          told (Exchange.run around client.transport.handle request session) := by
  refine ⟨fun outcome => verdict_iff, fun setback h => ?_, fun request h session => ?_⟩
  · have hSend (session : Session) :
        (client.draft.applyAll steps).send around session = (.error setback, session) :=
      send_of_build_error (build_of_verdict h)
    refine ⟨hSend, fun world number hDraft => ?_⟩
    simp only [World.step, hDraft, hSend]
  · have hHandle := congrArg handle (draft_applyAll client steps)
    rw [send, build_of_verdict h, hHandle]

/-- Two documents that cannot be written, with a method between them that is none, are followed by
a method and an address that are in order.  The later document is told, and the program goes on
without the draft; the steps behind it alone give a request. -/
theorem verdict_settles_of_late_method :
    ∃ client session, Client.ofConfig .standard (.onDisk (.ofHome [])) = .ok (client, session) ∧
      let around : Surroundings := ⟨.unreachable, ⟨∅⟩, 0⟩
      let reason : String := "float key must be finite (got NaN or +/-inf)"
      let failure : Failure := .json reason
      let steps : List Call := [.json (.error "key must be a string"), .methodName "BAD METHOD",
        .json (.error reason), .methodName "propfind", .url "http://a.example/"]
      let draft := client.draft.applyAll steps
      lastSaid? Call.failure? steps = some failure ∧
        draft.send around session = (.error (.failure failure), session) ∧
        (World.mk session [] 0 [some draft]).step (.send around 0) =
          ⟨session, [], 0, [none]⟩ ∧
        ∃ request : Request, request.method.bytes = Bytes.ofString "PROPFIND" ∧
          (client.draft.applyAll (steps.drop 3)).send around session =
            told (Exchange.run around client.transport.handle request session) := by
  obtain ⟨client, session, hBuilt, hBare⟩ : ∃ client session,
      Client.ofConfig .standard (.onDisk (.ofHome [])) = .ok (client, session) ∧
        client.sortedHeaders = [] :=
    ⟨_, _, Client.ofConfig_standard (.onDisk (.ofHome [])), List.mergeSort_nil⟩
  refine ⟨client, session, hBuilt, ?_⟩
  intro around reason failure steps draft
  have hStep : lastSaid? Call.failure? steps = some failure := by decide
  obtain ⟨hSend, hWorld⟩ := (verdict_settles client steps around).2.1 _ (.failed hStep)
  refine ⟨hStep, hSend _, hWorld _ 0 rfl, ?_⟩
  have hUrl : Url.parse "http://a.example/" =
      .ok ⟨"http", [], none, some (.domain "a.example"), none, .segments [[]], none, none⟩ := by
    decide +kernel
  have hHeaders : (client.draft.applyAll (steps.drop 3)).headers = [] := hBare
  have hMap : headerMap (client.draft.applyAll (steps.drop 3)).headers = .ok .empty := by
    rw [hHeaders]
    rfl
  have hReady := (verdict_settles client (steps.drop 3) around).2.2 _
    (.ready (by decide) (by decide) hUrl (by rw [hHeaders]; decide) (by rw [hBare]; decide) hMap)
  have hMethod : ((lastSaid? Call.method? (steps.drop 3)).getD .get).bytes =
      Bytes.ofString "PROPFIND" := by decide
  exact ⟨_, hMethod, hReady _⟩

/-- More headers than there can be room for, whatever they are, keep a draft from being sent. -/
theorem send_of_many (client : Client) {raw : String} {url : Url} (hUrl : Url.parse raw = .ok url)
    {headers : List (String × String)} (hMany : Header.Map.countLimit < headers.length)
    (around : Surroundings) (session : Session) :
    (client.draft.applyAll [.url raw, .headers headers]).send around session =
      (.error .panic, session) := by
  have hAll : (client.draft.applyAll [.url raw, .headers headers]).headers =
      client.sortedHeaders ++ headers := rfl
  have hCrowded : Header.Map.countLimit <
      (client.draft.applyAll [.url raw, .headers headers]).headers.length := by
    rw [hAll, List.length_append]
    exact Nat.lt_add_left _ hMany
  exact send_of_build_error (build_of_verdict (.crowded rfl rfl hUrl hCrowded))

/-- No step goes wrong, the address is one, and no header has a fault; but one more header is given
than there can be room for.  The program breaks down, and the request is not sent. -/
theorem send_of_crowd :
    ∃ client session, Client.ofConfig .standard (.onDisk (.ofHome [])) = .ok (client, session) ∧
      let headers : List (String × String) := List.replicate 24577 ("a", "")
      (Url.parse "http://a.example/").isOk = true ∧
        (∀ header ∈ client.sortedHeaders ++ headers, headerFault? header = none) ∧
        ∀ around,
          (client.draft.applyAll [.url "http://a.example/", .headers headers]).send around session =
            (.error .panic, session) := by
  obtain ⟨client, session, hBuilt, hBare⟩ : ∃ client session,
      Client.ofConfig .standard (.onDisk (.ofHome [])) = .ok (client, session) ∧
        client.sortedHeaders = [] :=
    ⟨_, _, Client.ofConfig_standard (.onDisk (.ofHome [])), List.mergeSort_nil⟩
  have hUrl : Url.parse "http://a.example/" =
      .ok ⟨"http", [], none, some (.domain "a.example"), none, .segments [[]], none, none⟩ := by
    decide +kernel
  refine ⟨client, session, hBuilt, by rw [hUrl]; rfl, fun header hMem => ?_, fun around => ?_⟩
  · rw [hBare, List.nil_append] at hMem
    rw [List.eq_of_mem_replicate hMem]
    decide
  · refine send_of_many client hUrl ?_ around session
    rw [List.length_replicate]
    exact Nat.lt_succ_self _

end Draft
end Wiretap
