import Wiretap.Proofs.Draft.Verdict
import Wiretap.Proofs.Exchange.Chain
import Wiretap.Proofs.World.Sound

/-!
# Requests are snapshots but for the dump options

A draft takes with it what its client gives to a request.  Nothing that is done later
to the client, or to any other, reaches it; only its hook still reads the cell of the
client, so the dump options are those of the moment of sending.

* `Draft.handle_applyAll` says that the steps on a draft leave alone what it keeps of the
  transport.
* `World.draft?_run` says what becomes of a draft in a run.
* `World.policy?_run` says what its hook reads at the end.
* `World.draft_is_snapshot` says what sending it then comes to.
-/

namespace Wiretap

namespace Draft

theorem handle_applyAll (draft : Draft) (calls : List Call) :
    (draft.applyAll calls).handle = draft.handle := by
  rw [draft.applyAll_eq calls]

end Draft

namespace World

/-- The step that an action takes on the draft of a number, if it takes one. -/
def Action.shape? (number : Nat) : Action → Option Draft.Call
  | .shape other c => if other = number then some c else none
  | _ => none

/-- Whether an action sends the draft of a number. -/
def Action.sends (number : Nat) : Action → Bool
  | .send _ other => other == number
  | _ => false

theorem draft?_step_draft {world : World} {number : Nat} {member : Member}
    (h : world.member? number = some member) :
    (world.step (.draft number)).draft? world.drafts.length = some member.client.draft := by
  rw [step, h]
  simp [draft?]

theorem lt_of_draft? {world : World} {number : Nat} {draft : Draft}
    (h : world.draft? number = some draft) : number < world.drafts.length :=
  lt_of_isSome_join (Option.isSome_of_eq_some h)

/-- An action other than sending it does no more to a draft than take the step that it is. -/
theorem draft?_step {world : World} {number : Nat} {draft : Draft}
    (h : world.draft? number = some draft) {action : Action}
    (hAction : action.sends number = false) :
    (world.step action).draft? number =
      some (draft.applyAll (action.shape? number).toList) := by
  cases action with
  | build config =>
      rw [step]
      split <;> exact h
  | copy other =>
      rw [step]
      split <;> exact h
  | call other c =>
      rw [step]
      split <;> exact h
  | flush other =>
      rw [step]
      split <;> exact h
  | drop other => exact h
  | draft other =>
      rw [step]
      split
      · show (((world.drafts ++ [_])[number]?).join) = _
        rw [List.getElem?_append_left (lt_of_draft? h)]
        exact h
      · exact h
  | shape other c =>
      have hFound : world.drafts[number]? = some (some draft) := Option.join_eq_some_iff.1 h
      simp only [step, draft?, List.getElem?_modify, hFound, Action.shape?]
      split <;> rfl
  | send around other =>
      rw [step]
      split
      · show (((world.drafts.set other none)[number]?).join) = _
        rw [List.getElem?_set_ne (by simpa [Action.sends] using hAction)]
        exact h
      · exact h
  | work hook => exact h
  | sink label place rule => exact h

/-- What becomes of a draft in a run that does not send it: the steps on it are taken. -/
theorem draft?_run {world : World} {number : Nat} {draft : Draft}
    (h : world.draft? number = some draft) {actions : List Action}
    (hActions : ∀ action ∈ actions, action.sends number = false) :
    (world.run actions).draft? number =
      some (draft.applyAll (actions.filterMap (Action.shape? number))) := by
  induction actions generalizing world draft with
  | nil => exact h
  | cons action rest ih =>
      have hStep := draft?_step h (hActions action (by simp))
      have hRest := ih hStep fun other hMem => hActions other (List.mem_cons_of_mem action hMem)
      rw [run_cons, hRest, List.filterMap_cons]
      cases action.shape? number with
      | none => rfl
      | some c => rfl

/-- What the hook that a client had reads after a run: whatever is then in the cell of that client,
and something is there. -/
theorem policy?_run {world : World} (h : world.Sound) {number : Nat} {member : Member}
    (hMember : world.member? number = some member) (actions : List Action) :
    let later := (world.run actions).session
    later.policy? member.client.transport.hook =
        member.client.transport.hook.bind (fun hook =>
          (later.options? member.client.cell).map fun options => (hook, options)) ∧
      (later.policy? member.client.transport.hook).isSome = member.client.isArmed := by
  have hFits := h.fits number member hMember
  dsimp only
  cases hHook : member.client.transport.hook with
  | none =>
      rw [Client.isArmed, Transport.isArmed, hHook]
      exact ⟨rfl, rfl⟩
  | some hook =>
      have hArmed : member.client.isArmed = true := by
        rw [Client.isArmed, Transport.isArmed, hHook]
        rfl
      have hCell := keeps_run (fun session => session.hookCell? hook = some member.client.cell)
        (fun hConfined hCell => hConfined.hookCell? hCell) h actions (hFits.hook hook hHook)
      have hFilled := keeps_run (fun session => (session.options? member.client.cell).isSome = true)
        (fun hConfined hFilled => hConfined.filled member.client.cell hFilled) h actions
        (hFits.options hArmed)
      rw [Session.policy?_of_hookCell? hCell, hArmed]
      exact ⟨rfl, by simpa using hFilled⟩

/-- Sending a draft that was made of a client in any reachable world, after anything but sending it
has been done.  What is sent, and what becomes of the response, is settled by the client as it was
and by the steps taken on the draft; there is a hook if the client was armed then; and the dump
options are what the cell of the client holds when the request is sent.  That cell is still the one
of the client, if the client is still there.  The request itself goes out first, dressed with the
cookies that are in the jar by then, and after it only what the answers to it lead to. -/
theorem draft_is_snapshot (session : Session) (history actions : List Action) (number : Nat)
    {member : Member} (hMember : ((on session).run history).member? number = some member)
    (hActions : ∀ action ∈ actions,
      action.sends ((on session).run history).drafts.length = false) :
    let world := (on session).run history
    let later := (world.step (.draft number)).run actions
    let transport := member.client.transport
    let draft :=
      member.client.draft.applyAll (actions.filterMap (Action.shape? world.drafts.length))
    let policy := transport.hook.bind fun hook =>
      (later.session.options? member.client.cell).map fun options => (hook, options)
    later.draft? world.drafts.length = some draft ∧
      policy.isSome = member.client.isArmed ∧
      (∀ last, later.member? number = some last → last.client.cell = member.client.cell) ∧
      ∀ around,
        (later.step (.send around world.drafts.length)).session =
          (draft.send around later.session).2 ∧
        (∀ setback, draft.build = .error setback →
          draft.send around later.session = (.error setback, later.session)) ∧
        ∀ request, draft.build = .ok request →
          draft.send around later.session =
            Draft.told (Exchange.perform around transport.pool transport.treatment policy request
              later.session) ∧
          ∃ sent, (draft.send around later.session).2.contacts = later.session.contacts ++ sent ∧
            Exchange.Leads transport.pool.config.proxy request sent ∧
            sent.head? = Exchange.opening? around transport.pool.config.proxy request
              (later.session.jar? transport.pool.jar) later.session.contacts := by
  intro world later transport draft policy
  have hSound : world.Sound := sound_run (sound_on session) history
  have hMember' : (world.step (.draft number)).member? number = some member :=
    (member?_step_of_not_isFor (lt_of_member? hMember) rfl).trans hMember
  have hDraft : later.draft? world.drafts.length = some draft :=
    draft?_run (draft?_step_draft hMember) hActions
  obtain ⟨hPolicy, hSome⟩ := policy?_run (sound_step hSound (.draft number)) hMember' actions
  have hHandle : draft.handle = transport.handle := Draft.handle_applyAll _ _
  refine ⟨hDraft, ?_, ?_, ?_⟩
  · rw [← hSome, hPolicy]
  · exact fun last hLast => (kin_run hMember' actions hLast).cell
  · intro around
    refine ⟨?_, fun setback => Draft.send_of_build_error, ?_⟩
    · rw [step, hDraft]
    · intro request hBuild
      have hSend : draft.send around later.session =
          Draft.told (Exchange.perform around transport.pool transport.treatment policy request
            later.session) := by
        rw [Draft.send, hBuild]
        dsimp only
        rw [Exchange.run, hHandle]
        exact congrArg
          (fun policy => Draft.told (Exchange.perform around transport.pool transport.treatment
            policy request later.session)) hPolicy
      rw [hSend]
      exact ⟨rfl, Exchange.leads_perform around transport.pool transport.treatment policy request _⟩

/-- A request of a client that is armed is still dumped after the client has been disarmed, given
other options, and dropped; and it is dumped by those options. -/
theorem draft_is_snapshot_of_dropped :
    let history := [Action.build .standard, .call 0 (.preset .head)]
    let actions : List Action :=
      [.call 0 (.dump false), .call 0 (.options .empty), .shape 0 (.url "http://host/"), .drop 0]
    ∃ member, ((on (.onDisk (.ofHome []))).run history).member? 0 = some member ∧
      (∀ action ∈ actions, action.sends 0 = false) ∧
      let later := (on (.onDisk (.ofHome []))).run (history ++ .draft 0 :: actions)
      let draft := member.client.draft.applyAll [.url "http://host/"]
      later.member? 0 = none ∧ later.draft? 0 = some draft ∧
        ∀ around request, draft.build = .ok request →
          draft.send around later.session =
            Draft.told (Exchange.perform around member.client.transport.pool .standard
              (some (0, .empty)) request later.session) := by
  have hSnapshot := draft_is_snapshot (.onDisk (.ofHome []))
    [.build .standard, .call 0 (.preset .head)]
    [.call 0 (.dump false), .call 0 (.options .empty), .shape 0 (.url "http://host/"), .drop 0]
    0 rfl (by decide)
  refine ⟨_, rfl, by decide, rfl, hSnapshot.1, ?_⟩
  intro around request hBuild
  exact ((hSnapshot.2.2.2 around).2.2 request hBuild).1

end World
end Wiretap
