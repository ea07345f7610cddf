import Wiretap.Proofs.Client.Effect
import Wiretap.Proofs.World.Snapshot

/-!
# Headers that have been checked

Headers are looked at twice: when a configuration is checked, and when a request is built.
In between they go from the configuration to a client, where they are joined by the names
of the program, from there to copies of the client, and to the drafts of all of these.  A
header that is legal stays so on this way, and nothing that is not legal is added to it.

* `Header.IsLegal` is what both looks ask of a header; `Config.headerProblems_eq_nil_iff` and
  `Draft.headerFault?_eq_none_iff` say so.
* `Client.Legal` and `Draft.Legal` are about all headers of a client and of a draft, and
  `World.Legal` about the clients of a family.
* `World.KeepsLegal` asks of a run that the configuration of a family has been checked, and that
  what is written on its clients is legal.
* `World.member?_step_cases` says where the clients come from that an action leaves;
  `World.legal_step` and `World.legal_run` follow, by which all headers remain legal.
* `World.checked_headers_build` says that no request of the family is refused for a header.
-/

namespace Wiretap

/-- Whether a header has a legal name and a legal value. -/
def Header.IsLegal (header : String × String) : Prop :=
  (Header.Name.ofString? header.1).isSome ∧ (Header.Value.ofString? header.2).isSome

instance (header : String × String) : Decidable (Header.IsLegal header) :=
  inferInstanceAs (Decidable (_ ∧ _))

namespace Config

variable {config : Config} {header : String × String}

/-- The check of a configuration asks of a header that it is legal. -/
theorem headerProblems_eq_nil_iff : headerProblems header = [] ↔ Header.IsLegal header := by
  unfold headerProblems Header.IsLegal
  cases Header.Name.ofString? header.1 with
  | none => simp
  | some name => cases Header.Value.ofString? header.2 <;> simp

/-- It asks the same of the name of the program. -/
theorem userAgentProblems_eq_nil_iff {value : String} :
    userAgentProblems (some value) = [] ↔ Header.IsLegal (userAgentName, value) := by
  have hName : (Header.Name.ofString? userAgentName).isSome = true := by decide
  unfold userAgentProblems Header.IsLegal
  cases hValue : Header.Value.ofString? value <;> simp [hName, hValue]

/-- The name of the browser that a client poses as is legal. -/
theorem isLegal_chromeAgent : Header.IsLegal (userAgentName, Client.chromeAgent) := by
  decide +kernel

/-- Everything that a checked configuration sets as a header is legal, in any mode. -/
theorem isLegal_of_mem_sequence (h : config.Admitted) (hMem : header ∈ config.sequence) :
    Header.IsLegal header := by
  have hNone := admitted_iff.mp h
  simp only [problems, List.append_eq_nil_iff, List.flatMap_eq_nil_iff] at hNone
  obtain ⟨⟨⟨-, hHeaders⟩, hAgent⟩, -⟩ := hNone
  rw [sequence, List.mem_append, List.mem_map] at hMem
  rcases hMem with hMem | ⟨value, hValue, rfl⟩
  · exact headerProblems_eq_nil_iff.mp (hHeaders header hMem)
  · rw [agents, List.mem_append, Option.mem_toList] at hValue
    rcases hValue with hGiven | hMode
    · rw [Option.mem_def.mp hGiven] at hAgent
      exact userAgentProblems_eq_nil_iff.mp hAgent
    · split at hMode
      · cases hMode
      · rw [List.mem_singleton.mp hMode]
        exact isLegal_chromeAgent

end Config

namespace Draft

/-- Building a request asks of a header that it is legal. -/
theorem headerFault?_eq_none_iff {header : String × String} :
    headerFault? header = none ↔ Header.IsLegal header := by
  unfold headerFault? Header.IsLegal
  cases Header.Name.ofString? header.1 with
  | none => simp
  | some name => cases Header.Value.ofString? header.2 <;> simp

theorem firstFault_eq_none_iff {headers : List (String × String)} :
    headers.findSome? headerFault? = none ↔ ∀ header ∈ headers, Header.IsLegal header := by
  simp only [List.findSome?_eq_none_iff, headerFault?_eq_none_iff]

/-- The headers of a draft are legal, and what has gone wrong in its steps is not about headers. -/
structure Legal (draft : Draft) : Prop where
  headers : ∀ header ∈ draft.headers, Header.IsLegal header
  failure : ∀ name reason, draft.failure ≠ some (.invalidHeader name reason)

/-- What goes wrong in a step is never about headers. -/
theorem failure?_ne_invalidHeader (c : Call) (name reason : String) :
    c.failure? ≠ some (.invalidHeader name reason) := by
  cases c with
  | methodName raw =>
      unfold Call.failure?
      dsimp only
      split <;> simp
  | json document => cases document <;> simp [Call.failure?]
  | _ => simp [Call.failure?]

namespace Legal

variable {draft : Draft}

/-- A step that writes legal headers keeps all of them legal. -/
theorem apply (h : draft.Legal) {c : Call} (hWrites : ∀ header ∈ c.writes, Header.IsLegal header) :
    (draft.apply c).Legal where
  headers := by
    have hFirst := firstFault_applyAll draft [c]
    rw [List.flatMap_singleton] at hFirst
    refine firstFault_eq_none_iff.mp (hFirst.trans (firstFault_eq_none_iff.mpr ?_))
    exact List.forall_mem_append.mpr ⟨h.headers, hWrites⟩
  failure name reason hFailure := by
    rw [apply_eq, Option.or_eq_some_iff] at hFailure
    rcases hFailure with hStep | ⟨-, hBefore⟩
    · exact failure?_ne_invalidHeader c name reason hStep
    · exact h.failure name reason hBefore

theorem applyAll (h : draft.Legal) {steps : List Call}
    (hSteps : ∀ c ∈ steps, ∀ header ∈ c.writes, Header.IsLegal header) :
    (draft.applyAll steps).Legal := by
  induction steps generalizing draft with
  | nil => exact h
  | cons c rest ih =>
      exact ih (h.apply (hSteps c List.mem_cons_self))
        fun other hMem => hSteps other (List.mem_cons_of_mem c hMem)

/-- A draft whose headers are legal, and are not too many, gives a request if no step has gone wrong
and its address is one. -/
theorem exists_build (h : draft.Legal) {raw : String} {url : Url} (hFailure : draft.failure = none)
    (hUrl : draft.url = some raw) (hParse : Url.parse raw = .ok url)
    (hRoom : draft.headers.length ≤ Header.Map.countLimit) :
    ∃ request, draft.build = .ok request := by
  obtain ⟨map, hMap⟩ := exists_headerMap_iff.mpr ⟨hRoom, firstFault_eq_none_iff.mpr h.headers⟩
  rw [build_of_addressed hFailure hUrl hParse, hMap]
  exact ⟨_, rfl⟩

theorem build_ne (h : draft.Legal) (name reason : String) :
    draft.build ≠ .error (.failure (.invalidHeader name reason)) := by
  intro hBuild
  cases hFailure : draft.failure with
  | some failure =>
      rw [build_of_failure hFailure] at hBuild
      obtain rfl := Setback.failure.inj (Except.error.inj hBuild)
      exact h.failure name reason hFailure
  | none =>
      cases hUrl : draft.url with
      | none =>
          rw [build_of_unaddressed hFailure hUrl] at hBuild
          cases hBuild
      | some raw =>
          cases hParse : Url.parse raw with
          | error fault =>
              rw [build_of_misaddressed hFailure hUrl hParse] at hBuild
              cases hBuild
          | ok url =>
              rw [build_of_addressed hFailure hUrl hParse] at hBuild
              cases hMap : headerMap draft.headers with
              | ok map =>
                  rw [hMap] at hBuild
                  cases hBuild
              | error setback =>
                  rw [hMap] at hBuild
                  obtain rfl := Except.error.inj hBuild
                  obtain ⟨-, hFault⟩ := headerMap_eq_error_iff.mp hMap
                  rw [firstFault_eq_none_iff.mpr h.headers] at hFault
                  cases hFault

end Legal
end Draft

namespace Client

/-- The headers of a client are legal. -/
def Legal (client : Client) : Prop := ∀ header ∈ client.headers, Header.IsLegal header

/-- A client has nothing but legal headers if its configuration has been checked. -/
theorem legal_ofConfig {config : Config} {start session : Session} {client : Client}
    (h : config.Admitted) (hBuilt : ofConfig config start = .ok (client, session)) :
    client.Legal := by
  intro header hMem
  rw [headers_ofConfig hBuilt] at hMem
  exact Config.isLegal_of_mem_sequence h (mem_of_mem_settle hMem)

variable {client : Client}

theorem Legal.copy (h : client.Legal) (session : Session) : (client.copy session).1.Legal := h

/-- A call that writes legal headers keeps all of them legal. -/
theorem Legal.call (h : client.Legal) (session : Session) {c : Call}
    (hWrites : ∀ header ∈ c.writes, Header.IsLegal header) :
    (client.call session c).1.Legal := by
  intro header hMem
  rw [headers_call, settleOnto_eq, List.mem_append] at hMem
  rcases hMem with hBefore | hWritten
  · exact h header (List.mem_filter.mp hBefore).1
  · exact hWrites header (mem_of_mem_settle hWritten)

/-- A draft starts out with the headers of its client. -/
theorem Legal.draft (h : client.Legal) : client.draft.Legal where
  headers header hMem := h header (List.mem_mergeSort.mp hMem)
  failure name reason hFailure := by cases hFailure

end Client

namespace World

/-- Whether an action keeps the headers of a family legal: the configuration that the family goes
back to must have been checked, and what is written on its clients must be legal.  Nothing is asked
of what is done to others. -/
def Action.KeepsLegal (family : Nat) (world : World) : Action → Prop
  | .build config => world.families = family → config.Admitted
  | .call number c => ∀ member, world.member? number = some member → member.family = family →
      ∀ header ∈ c.writes, Header.IsLegal header
  | _ => True

/-- Whether each action of a run does, in the world that it is taken in. -/
def KeepsLegal (family : Nat) (world : World) : List Action → Prop
  | [] => True
  | action :: rest => action.KeepsLegal family world ∧ KeepsLegal family (world.step action) rest

/-- The headers of all clients of a family are legal. -/
def Legal (family : Nat) (world : World) : Prop :=
  ∀ number member, world.member? number = some member → member.family = family →
    member.client.Legal

variable {world : World} {family number : Nat} {member : Member}

/-- Where a client comes from that an action has left: it was there before, or it has been built, or
copied, or changed by a call. -/
theorem member?_step_cases {action : Action}
    (h : (world.step action).member? number = some member) :
    world.member? number = some member ∨
      (∃ config next, action = .build config ∧
        Client.ofConfig config world.session = .ok (member.client, next) ∧
        member.family = world.families) ∨
      (∃ other source, action = .copy other ∧ world.member? other = some source ∧
        member.client = (source.client.copy world.session).1 ∧ member.family = source.family) ∨
      ∃ c before, action = .call number c ∧ world.member? number = some before ∧
        member.client = (before.client.call world.session c).1 ∧
        member.family = before.family := by
  cases action with
  | build config =>
      rw [step] at h
      split at h
      next state hBuilt =>
        have hJoined : (world.join state world.families).member? number = some member := h
        rcases world.member?_join number hJoined with ⟨-, hOld⟩ | ⟨-, rfl⟩
        · exact .inl hOld
        · exact .inr (.inl ⟨config, state.2, rfl, hBuilt, rfl⟩)
      next => exact .inl h
  | copy other =>
      rw [step] at h
      split at h
      next source hSource =>
        rcases world.member?_join number h with ⟨-, hOld⟩ | ⟨-, rfl⟩
        · exact .inl hOld
        · exact .inr (.inr (.inl ⟨other, source, rfl, hSource, rfl, rfl⟩))
      next => exact .inl h
  | call other c =>
      by_cases hEq : other = number
      · subst hEq
        rw [step] at h
        split at h
        next before hBefore =>
          rw [world.member?_put_self other _ _ (lt_of_member? hBefore)] at h
          obtain rfl := Option.some.inj h
          exact .inr (.inr (.inr ⟨c, before, rfl, hBefore, rfl, rfl⟩))
        next => exact .inl h
      · rw [step] at h
        split at h
        · rw [world.member?_put_of_ne other _ _ hEq] at h
          exact .inl h
        · exact .inl h
  | flush other =>
      rw [step] at h
      split at h <;> exact .inl h
  | drop other =>
      rw [world.member?_drop other number] at h
      split at h
      · cases h
      · exact .inl h
  | draft other =>
      rw [step] at h
      split at h <;> exact .inl h
  | shape other c => exact .inl h
  | send around other =>
      rw [step] at h
      split at h <;> exact .inl h
  | work hook => exact .inl h
  | sink label place rule => exact .inl h

theorem legal_on (family : Nat) (session : Session) : (on session).Legal family := by
  simp [Legal, on, member?]

/-- An action keeps the headers of a family legal, whatever others do. -/
theorem legal_step (h : world.Legal family) {action : Action}
    (hAction : action.KeepsLegal family world) : (world.step action).Legal family := by
  intro number member hMember hFamily
  rcases member?_step_cases hMember with hOld | ⟨config, next, rfl, hBuilt, hNew⟩ |
    ⟨other, source, rfl, hSource, hCopy, hSame⟩ | ⟨c, before, rfl, hBefore, hCall, hSame⟩
  · exact h number member hOld hFamily
  · exact Client.legal_ofConfig (hAction (hNew.symm.trans hFamily)) hBuilt
  · rw [hCopy]
    exact (h other source hSource (hSame.symm.trans hFamily)).copy world.session
  · have hBeforeFamily := hSame.symm.trans hFamily
    rw [hCall]
    exact (h number before hBefore hBeforeFamily).call world.session
      (hAction before hBefore hBeforeFamily)

/-- So does a run. -/
theorem legal_run (h : world.Legal family) {actions : List Action}
    (hActions : world.KeepsLegal family actions) : (world.run actions).Legal family := by
  induction actions generalizing world with
  | nil => exact h
  | cons action rest ih =>
      rw [run_cons]
      exact ih (legal_step h hActions.1) hActions.2

/-- A client goes back to a configuration that has been checked, whatever its mode and its dump
settings are, and only legal headers have been written on it and on what it was copied from.  A
request is started from it, and only legal headers are given to that.  Then it is never refused for
a header, and if no step has gone wrong, its address is one and there is room for the headers, there
is a request.  What is done to other clients and other requests makes no difference. -/
theorem checked_headers_build (session : Session) {history actions : List Action}
    (hMember : ((on session).run history).member? number = some member)
    (hHistory : (on session).KeepsLegal member.family history)
    (hActions : ∀ action ∈ actions,
      action.sends ((on session).run history).drafts.length = false)
    (hSteps : ∀ c ∈ actions.filterMap (Action.shape? ((on session).run history).drafts.length),
      ∀ header ∈ c.writes, Header.IsLegal header) :
    let world := (on session).run history
    ∃ draft,
      ((world.step (.draft number)).run actions).draft? world.drafts.length = some draft ∧
        (∀ name reason, draft.build ≠ .error (.failure (.invalidHeader name reason))) ∧
        ∀ raw url, draft.failure = none → draft.url = some raw → Url.parse raw = .ok url →
          draft.headers.length ≤ Header.Map.countLimit → ∃ request, draft.build = .ok request := by
  intro world
  have hClient := legal_run (legal_on member.family session) hHistory number member hMember rfl
  have hLegal := hClient.draft.applyAll hSteps
  refine ⟨_, draft?_run (draft?_step_draft hMember) hActions, hLegal.build_ne, ?_⟩
  exact fun raw url hFailure hUrl hParse hRoom => hLegal.exists_build hFailure hUrl hParse hRoom

/-- The configuration of a client that poses as a browser, with headers of which one is the name
of the program. -/
def configOfBrowser : Config :=
  { Config.standard with
    headers := [("X-A", "1"), ("user-agent", "tool")]
    userAgent := some "other"
    mode := .debug }

/-- A copy of a client that poses as a browser, and a request of the copy that gives a header again
in another spelling.  Another client has a header that is broken by a line feed, and a request of
that is made in between. -/
theorem checked_headers_build_of_browser :
    let history := [.build configOfBrowser, .copy 0, .call 1 (.header "X-B" "2"),
      .build .standard, .call 2 (.header "X-C" "b\nd")]
    let actions := [.shape 0 (.url "http://host/"), .draft 2, .shape 1 (.header "" ""),
      .shape 0 (.header "x-a" "3")]
    let world := (on (.onDisk (.ofHome []))).run history
    ∃ member, world.member? 1 = some member ∧
      (on (.onDisk (.ofHome []))).KeepsLegal member.family history ∧
      ∃ draft, ((world.step (.draft 1)).run actions).draft? 0 = some draft ∧
        ∃ request, draft.build = .ok request := by
  intro history actions world
  have hHistory : (on (.onDisk (.ofHome []))).KeepsLegal 0 history := by
    have hChecked : configOfBrowser.Admitted := Config.admitted_iff.mpr (by decide +kernel)
    have hCalled : ∀ header ∈ [("X-B", "2")], Header.IsLegal header := by decide
    refine ⟨fun _ => hChecked, trivial, fun _ _ _ => hCalled, ?_, ?_, trivial⟩
    · intro hFamily
      cases hFamily
    · intro other hOther hFamily
      obtain rfl := Option.some.inj hOther
      cases hFamily
  have hMember : world.member? 1 = some _ := rfl
  have hActions : ∀ action ∈ actions, action.sends world.drafts.length = false := by
    simp [actions, Action.sends]
  have hSteps : ∀ c ∈ actions.filterMap (Action.shape? world.drafts.length),
      ∀ header ∈ c.writes, Header.IsLegal header := by
    have hShapes : actions.filterMap (Action.shape? world.drafts.length) =
        [.url "http://host/", .header "x-a" "3"] := rfl
    have hShaped : ∀ header ∈ [("x-a", "3")], Header.IsLegal header := by decide
    rw [hShapes, List.forall_mem_cons, List.forall_mem_singleton]
    exact ⟨List.forall_mem_nil _, hShaped⟩
  have hAddress : ∃ url, Url.parse "http://host/" = .ok url := ⟨_, rfl⟩
  obtain ⟨url, hUrl⟩ := hAddress
  obtain ⟨draft, hDraft, -, hBuild⟩ := checked_headers_build _ hMember hHistory hActions hSteps
  obtain ⟨hFailure, hAddressed, hRoom⟩ : draft.failure = none ∧
      draft.url = some "http://host/" ∧ draft.headers.length ≤ Header.Map.countLimit := by
    obtain rfl := Option.some.inj hDraft
    refine ⟨rfl, rfl, ?_⟩
    show (Client.sortedHeaders _ ++ [("x-a", "3")]).length ≤ _
    rw [List.length_append, Client.sortedHeaders, List.length_mergeSort]
    decide +kernel
  exact ⟨_, hMember, hHistory, draft, hDraft, hBuild _ url hFailure hAddressed hUrl hRoom⟩

end World
end Wiretap
